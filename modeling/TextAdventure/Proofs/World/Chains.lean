import TextAdventure.Proofs.World.Containment

/-
  Chains of containers without a bound.

  What the player can reach and hold, and what lies inside
  what, is said here by rules and by chains of any length. A
  chain that comes to an end meets each thing only once, so
  the bounded walks of the world follow it to its end. They
  give up on a chain only if it has none.

  Main declarations:
    * `IsEndless`
    * `isEndless_of_cycle`
    * `isEndless_of_isSome_holderAfter?`
    * `World.Accessible`
    * `World.isAccessible_iff`
    * `World.isHeld_iff`
    * `World.wouldContainCycle_iff`
    * `World.wouldContainCycle_eq_false_iff`
    * `World.walks_find_what_there_is`
-/

namespace TextAdventure

open Relation (ReflTransGen TransGen)

------------------------------------------------------------
-- Endless Chains
------------------------------------------------------------

section Endless

variable {things : List Thing}
variable {id : String}

/- From container to container one comes on forever. -/
def IsEndless (things : List Thing) (id : String) : Prop :=
  ∃ chain : Nat → String, chain 0 = id ∧
    ∀ steps, Inside things (chain steps) (chain (steps + 1))

/- One step more goes to what the last stop lies in. -/
theorem holderAfter?_succ (steps : Nat) (id : String) :
    holderAfter? things (steps + 1) id =
      (holderAfter? things steps id).bind
        (holder? things) := by
  rw [holderAfter?_add]
  congr 1
  funext outer
  simp [holderAfter?]

/- A chain is endless if walks of all lengths go along it. -/
theorem isEndless_iff :
    IsEndless things id ↔
      ∀ steps, (holderAfter? things steps id).isSome := by
  constructor
  · rintro ⟨chain, rfl, hInside⟩ steps
    have hWalk :
        holderAfter? things steps (chain 0) =
          some (chain steps) := by
      induction steps with
      | zero => rfl
      | succ steps ih =>
          rw [holderAfter?_succ, ih]
          exact hInside steps
    rw [hWalk]
    rfl
  · intro hSome
    let stop (steps : Nat) : String :=
      (holderAfter? things steps id).get (hSome steps)
    have hStop (steps : Nat) :
        holderAfter? things steps id = some (stop steps) :=
      (Option.some_get (hSome steps)).symm
    refine ⟨stop, rfl, ?_⟩
    intro steps
    have hNext := hStop (steps + 1)
    rwa [holderAfter?_succ, hStop steps] at hNext

/- What runs into a cycle has no end. -/
theorem isEndless_of_cycle
    {outer : String}
    (hReach : ReflTransGen (Inside things) id outer)
    (hCycle : TransGen (Inside things) outer outer) :
    IsEndless things id := by
  rcases exists_holderAfter?_of_reflTransGen hReach with
    ⟨first, hFirst⟩
  rw [isEndless_iff]
  intro steps
  have hFar :
      (holderAfter? things (first + steps) id).isSome := by
    rw [holderAfter?_add, hFirst]
    exact isSome_holderAfter?_of_cycle hCycle steps
  exact isSome_holderAfter?_of_le
    (Nat.le_add_left steps first) hFar

/- A walk longer than the list of things has no end. -/
theorem isEndless_of_isSome_holderAfter?
    (hSome :
      (holderAfter? things (things.length + 1) id).isSome) :
    IsEndless things id := by
  rcases exists_cycle_of_isSome_holderAfter? hSome with
    ⟨outer, hReach, hCycle⟩
  exact isEndless_of_cycle hReach hCycle

theorem IsAcyclic.not_isEndless
    (hAcyclic : IsAcyclic things)
    (id : String) :
    ¬ IsEndless things id := by
  intro hEndless
  have hSome :=
    isEndless_iff.mp hEndless (things.length + 1)
  rw [hAcyclic.holderAfter?_eq_none] at hSome
  simp at hSome

/- A chain with an end ends within the bound of the walks. -/
theorem holderAfter?_eq_none_of_ends
    {steps : Nat}
    (hEnds : holderAfter? things steps id = none) :
    holderAfter? things (things.length + 1) id = none := by
  rw [← Option.not_isSome_iff_eq_none]
  intro hSome
  have hForever :=
    isEndless_iff.mp (isEndless_of_isSome_holderAfter? hSome)
      steps
  rw [hEnds] at hForever
  simp at hForever

/- What a chain with an end comes to is within the bound. -/
theorem lt_of_holderAfter?_of_ends
    {steps : Nat}
    {outer : String}
    (hWalk : holderAfter? things steps id = some outer)
    (hEnds :
      holderAfter? things (things.length + 1) id = none) :
    steps < things.length + 1 := by
  by_contra hNotLt
  have hSome :=
    isSome_holderAfter?_of_le (Nat.le_of_not_lt hNotLt)
      (by rw [hWalk]; rfl)
  rw [hEnds] at hSome
  simp at hSome

end Endless

namespace World

variable {world : World}
variable {room id : String}

------------------------------------------------------------
-- What Can Be Reached
------------------------------------------------------------

/-
  What the player in a room can reach: carried things, what
  lies in the room without being hidden, and what lies
  without being hidden in an open container that the player
  can reach.
-/
inductive Accessible (world : World) (room : String) :
    String → Prop where
| carried
    {id : String}
    {thing : Thing}
    (hThing : world.thing? id = some thing)
    (hCarried : thing.placement = .carried) :
    Accessible world room id
| here
    {id : String}
    {thing : Thing}
    (hThing : world.thing? id = some thing)
    (hHere : thing.placement = .room room)
    (hSeen : thing.hidden = false) :
    Accessible world room id
| inside
    {id container : String}
    {thing outer : Thing}
    (hThing : world.thing? id = some thing)
    (hInside : thing.placement = .container container)
    (hSeen : thing.hidden = false)
    (hOuter : world.thing? container = some outer)
    (hOpen : outer.isOpenContainer = true)
    (hReach : Accessible world room container) :
    Accessible world room id

theorem isOpenContainer_eq_true_iff
    (world : World)
    (id : String) :
    world.isOpenContainer id = true ↔
      ∃ thing, world.thing? id = some thing ∧
        thing.isOpenContainer = true := by
  unfold isOpenContainer
  cases hThing : world.thing? id <;> simp

/- The walk goes by the rules. -/
theorem accessible_of_accessibleWithin
    {steps : Nat}
    (hWithin :
      world.accessibleWithin room steps id = true) :
    world.Accessible room id := by
  induction steps generalizing id with
  | zero => simp [accessibleWithin] at hWithin
  | succ steps ih =>
      unfold accessibleWithin at hWithin
      cases hThing : world.thing? id with
      | none => simp [hThing] at hWithin
      | some thing =>
          cases hPlacement : thing.placement with
          | carried => exact .carried hThing hPlacement
          | nowhere => simp [hThing, hPlacement] at hWithin
          | room here =>
              simp only [hThing, hPlacement, Bool.and_eq_true,
                beq_iff_eq, Bool.not_eq_true'] at hWithin
              rcases hWithin with ⟨rfl, hSeen⟩
              exact .here hThing hPlacement hSeen
          | container container =>
              simp only [hThing, hPlacement, Bool.and_eq_true,
                Bool.not_eq_true',
                isOpenContainer_eq_true_iff] at hWithin
              rcases hWithin with
                ⟨⟨hSeen, outer, hOuter, hOpen⟩, hRest⟩
              exact .inside hThing hPlacement hSeen hOuter
                hOpen (ih hRest)

theorem holder?_eq_container?
    {thing : Thing}
    (hThing : world.thing? id = some thing) :
    holder? world.things id = thing.placement.container? := by
  have hFind : Catalog.find? id world.things = some thing :=
    hThing
  simp [holder?, hFind]

/- Only a chain with an end can be followed by the rules. -/
theorem Accessible.exists_holderAfter?_eq_none
    (hReach : world.Accessible room id) :
    ∃ steps, holderAfter? world.things steps id = none := by
  induction hReach with
  | carried hThing hCarried =>
      refine ⟨1, ?_⟩
      simp [holderAfter?, holder?_eq_container? hThing,
        hCarried, Placement.container?]
  | here hThing hHere _ =>
      refine ⟨1, ?_⟩
      simp [holderAfter?, holder?_eq_container? hThing, hHere,
        Placement.container?]
  | inside hThing hInside _ _ _ _ ih =>
      rcases ih with ⟨steps, hEnds⟩
      refine ⟨steps + 1, ?_⟩
      simpa [holderAfter?, holder?_eq_container? hThing,
        hInside, Placement.container?] using hEnds

/- A walk that is longer than the chain follows the rules. -/
theorem Accessible.accessibleWithin
    (hReach : world.Accessible room id)
    {steps : Nat}
    (hEnds : holderAfter? world.things steps id = none) :
    world.accessibleWithin room steps id = true := by
  induction hReach generalizing steps with
  | carried hThing hCarried =>
      cases steps with
      | zero => simp [holderAfter?] at hEnds
      | succ steps =>
          simp [World.accessibleWithin, hThing, hCarried]
  | here hThing hHere hSeen =>
      cases steps with
      | zero => simp [holderAfter?] at hEnds
      | succ steps =>
          simp [World.accessibleWithin, hThing, hHere, hSeen]
  | @inside id container thing outer hThing hInside hSeen
      hOuter hOpen _ ih =>
      cases steps with
      | zero => simp [holderAfter?] at hEnds
      | succ steps =>
          have hRest :
              holderAfter? world.things steps container =
                none := by
            simpa [holderAfter?,
              holder?_eq_container? hThing, hInside,
              Placement.container?] using hEnds
          have hOuterOpen :=
            (isOpenContainer_eq_true_iff world container).mpr
              ⟨outer, hOuter, hOpen⟩
          simp [World.accessibleWithin, hThing, hInside, hSeen,
            hOuterOpen, ih hRest]

/- The bounded walk reaches what the rules reach. -/
theorem isAccessible_iff
    (world : World)
    (room id : String) :
    world.isAccessible room id = true ↔
      world.Accessible room id := by
  constructor
  · exact accessible_of_accessibleWithin
  · intro hReach
    rcases hReach.exists_holderAfter?_eq_none with
      ⟨steps, hEnds⟩
    exact hReach.accessibleWithin
      (holderAfter?_eq_none_of_ends hEnds)

------------------------------------------------------------
-- What Is In Hand
------------------------------------------------------------

/- The walk looks for a carried thing on the chain. -/
theorem heldWithin_eq_true_iff
    (world : World)
    (steps : Nat)
    (id : String) :
    world.heldWithin steps id = true ↔
      ∃ fewer < steps, ∃ outer,
        holderAfter? world.things fewer id = some outer ∧
          world.isCarried outer = true := by
  induction steps generalizing id with
  | zero => simp [heldWithin]
  | succ steps ih =>
      rw [Nat.exists_lt_succ_left]
      cases hThing : world.thing? id with
      | none =>
          have hHolder : holder? world.things id = none := by
            have hFind : Catalog.find? id world.things = none :=
              hThing
            simp [holder?, hFind]
          simp [heldWithin, hThing, holderAfter?, hHolder,
            isCarried]
      | some thing =>
          cases hPlacement : thing.placement <;>
            simp [heldWithin, hThing, hPlacement, ih,
              holderAfter?, holder?_eq_container? hThing,
              Placement.container?, isCarried,
              Placement.isCarried]

/- A carried thing lies in no container. -/
theorem holder?_eq_none_of_isCarried
    (hCarried : world.isCarried id = true) :
    holder? world.things id = none := by
  unfold isCarried at hCarried
  cases hThing : world.thing? id with
  | none => simp [hThing] at hCarried
  | some thing =>
      simp only [hThing,
        Placement.isCarried_eq_true_iff] at hCarried
      simp [holder?_eq_container? hThing, hCarried,
        Placement.container?]

/- What is in hand lies, however deep, in a carried thing. -/
theorem isHeld_iff
    (world : World)
    (id : String) :
    world.isHeld id = true ↔
      ∃ outer,
        ReflTransGen (Inside world.things) id outer ∧
          world.isCarried outer = true := by
  unfold isHeld
  rw [heldWithin_eq_true_iff]
  constructor
  · rintro ⟨fewer, -, outer, hWalk, hCarried⟩
    exact ⟨outer, reflTransGen_of_holderAfter? hWalk,
      hCarried⟩
  · rintro ⟨outer, hReach, hCarried⟩
    rcases exists_holderAfter?_of_reflTransGen hReach with
      ⟨steps, hWalk⟩
    have hEnds :
        holderAfter? world.things (steps + 1) id = none := by
      rw [holderAfter?_succ, hWalk]
      exact holder?_eq_none_of_isCarried hCarried
    exact ⟨steps,
      lt_of_holderAfter?_of_ends hWalk
        (holderAfter?_eq_none_of_ends hEnds),
      outer, hWalk, hCarried⟩

------------------------------------------------------------
-- What Would Be Inside Itself
------------------------------------------------------------

/-
  A thing may not go where the chain comes to it or does not
  come to an end.
-/
theorem wouldContainCycle_iff
    (world : World)
    (thing container : String) :
    world.wouldContainCycle thing container = true ↔
      ReflTransGen (Inside world.things) container thing ∨
        IsEndless world.things container := by
  unfold wouldContainCycle
  rw [chainMeets_eq_true_iff]
  constructor
  · rintro (⟨fewer, -, hWalk⟩ | hSome)
    · exact Or.inl (reflTransGen_of_holderAfter? hWalk)
    · exact Or.inr (isEndless_of_isSome_holderAfter? hSome)
  · rintro (hReach | hEndless)
    · cases hEnds :
          holderAfter? world.things world.chainLimit
            container with
      | some outer => exact Or.inr rfl
      | none =>
          rcases exists_holderAfter?_of_reflTransGen hReach
            with ⟨steps, hWalk⟩
          exact Or.inl
            ⟨steps, lt_of_holderAfter?_of_ends hWalk hEnds,
              hWalk⟩
    · exact Or.inr (isEndless_iff.mp hEndless _)

/-
  Without cycles a containment is refused only if it would
  put a thing inside itself.
-/
theorem wouldContainCycle_eq_false_iff
    (hAcyclic : IsAcyclic world.things)
    {thing container : String} :
    world.wouldContainCycle thing container = false ↔
      ¬ ReflTransGen (Inside world.things) container thing := by
  rw [← Bool.not_eq_true, wouldContainCycle_iff]
  simp [hAcyclic.not_isEndless container]

------------------------------------------------------------
-- All Walks
------------------------------------------------------------

/-
  In every world, also in one with containers inside each
  other or missing, the bounded walks find what there is:
  what the rules make accessible, what lies in a carried
  thing at any depth, and whether a chain comes to a thing or
  to no end.
-/
theorem walks_find_what_there_is (world : World) :
    (∀ room id,
      world.isAccessible room id = true ↔
        world.Accessible room id) ∧
    (∀ id,
      world.isHeld id = true ↔
        ∃ outer,
          ReflTransGen (Inside world.things) id outer ∧
            world.isCarried outer = true) ∧
    (∀ thing container,
      world.wouldContainCycle thing container = true ↔
        ReflTransGen (Inside world.things) container thing ∨
          IsEndless world.things container) :=
  ⟨world.isAccessible_iff, world.isHeld_iff,
    world.wouldContainCycle_iff⟩

/-
  A coin in a tin in a box in hand, and a cup and a jug that
  are in each other.
-/
example :
    let world : World :=
      { things :=
          [{ id := "coin", placement := .container "tin" },
            { id := "tin"
              placement := .container "box"
              isContainer := true },
            { id := "box"
              placement := .carried
              isContainer := true },
            { id := "cup", placement := .container "jug" },
            { id := "jug", placement := .container "cup" }] }
    world.isAccessible "hall" "coin" = true ∧
      world.isHeld "coin" = true ∧
      world.isHeld "cup" = false ∧
      world.wouldContainCycle "box" "coin" = true ∧
      world.wouldContainCycle "coin" "box" = false ∧
      world.wouldContainCycle "coin" "cup" = true := by
  decide

end World

end TextAdventure
