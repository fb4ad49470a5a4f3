import Mathlib.Data.Finset.Card
import Mathlib.Logic.Relation
import TextAdventure.Content.Validation
import TextAdventure.Proofs.Catalog
import TextAdventure.World.Reach

/-
  Things inside things: the relation that placements in
  containers make, and the bounded walks along it.

  A chain of containers that is longer than the list of
  things comes twice to one thing, so it runs into a cycle.
  Hence the bounded walks answer the unbounded questions.

  Main declarations:
    * `Inside`
    * `IsAcyclic`
    * `exists_cycle_of_isSome_holderAfter?`
    * `Content.chainEnds_eq_true_iff`
    * `World.chainMeets_eq_true_iff`
    * `acyclic_of_new_edge`
    * `IsAcyclic.of_placement`
-/

namespace TextAdventure

open Relation (ReflTransGen TransGen)

------------------------------------------------------------
-- The Relation
------------------------------------------------------------

variable {things : List Thing}

/- The id of the container that a known thing lies in. -/
def holder? (things : List Thing) (id : String) :
    Option String :=
  (Catalog.find? id things).bind
    (fun thing => thing.placement.container?)

/- One thing lies directly inside another. -/
def Inside
    (things : List Thing)
    (inner outer : String) : Prop :=
  holder? things inner = some outer

/- Nothing lies inside itself, directly or not. -/
def IsAcyclic (things : List Thing) : Prop :=
  ∀ id, ¬ TransGen (Inside things) id id

/- The container that is so many steps out from a thing. -/
def holderAfter? (things : List Thing) :
    Nat → String → Option String
| 0, id => some id
| steps + 1, id =>
    (holder? things id).bind (holderAfter? things steps)

theorem inside_iff
    {inner outer : String} :
    Inside things inner outer ↔
      ∃ thing, Catalog.find? inner things = some thing ∧
        thing.placement = .container outer := by
  unfold Inside holder?
  rw [Option.bind_eq_some_iff]
  constructor
  · rintro ⟨thing, hFind, hContainer⟩
    refine ⟨thing, hFind, ?_⟩
    cases hPlacement : thing.placement <;>
      simp_all [Placement.container?]
  · rintro ⟨thing, hFind, hPlacement⟩
    exact ⟨thing, hFind, by
      simp [hPlacement, Placement.container?]⟩

/- A thing that lies inside another is known. -/
theorem Inside.has
    {inner outer : String}
    (hInside : Inside things inner outer) :
    Catalog.has inner things = true := by
  rcases inside_iff.mp hInside with ⟨thing, hFind, -⟩
  exact Catalog.has_of_find? hFind

------------------------------------------------------------
-- Walks
------------------------------------------------------------

theorem holderAfter?_add
    (first second : Nat)
    (id : String) :
    holderAfter? things (first + second) id =
      (holderAfter? things first id).bind
        (holderAfter? things second) := by
  induction first generalizing id with
  | zero => simp [holderAfter?]
  | succ first ih =>
      rw [Nat.succ_add]
      cases hHolder : holder? things id with
      | none => simp [holderAfter?, hHolder]
      | some outer => simp [holderAfter?, hHolder, ih]

/- A walk that goes far also goes less far. -/
theorem isSome_holderAfter?_of_le
    {fewer steps : Nat}
    {id : String}
    (hLe : fewer ≤ steps)
    (hSome : (holderAfter? things steps id).isSome) :
    (holderAfter? things fewer id).isSome := by
  rw [← Nat.add_sub_cancel' hLe,
    holderAfter?_add] at hSome
  cases hFewer : holderAfter? things fewer id with
  | none => simp [hFewer] at hSome
  | some outer => rfl

/- What a walk comes to is around the thing it starts at. -/
theorem reflTransGen_of_holderAfter?
    {steps : Nat}
    {id outer : String}
    (hWalk : holderAfter? things steps id = some outer) :
    ReflTransGen (Inside things) id outer := by
  induction steps generalizing id with
  | zero =>
      cases hWalk
      exact .refl
  | succ steps ih =>
      rcases Option.bind_eq_some_iff.mp hWalk with
        ⟨next, hNext, hRest⟩
      exact .head hNext (ih hRest)

/- A walk of at least one step. -/
theorem transGen_of_holderAfter?
    {steps : Nat}
    {id outer : String}
    (hWalk :
      holderAfter? things (steps + 1) id = some outer) :
    TransGen (Inside things) id outer := by
  rcases Option.bind_eq_some_iff.mp hWalk with
    ⟨next, hNext, hRest⟩
  exact .head' hNext (reflTransGen_of_holderAfter? hRest)

/- What is around a thing is some number of steps out. -/
theorem exists_holderAfter?_of_reflTransGen
    {id outer : String}
    (hReach : ReflTransGen (Inside things) id outer) :
    ∃ steps, holderAfter? things steps id = some outer := by
  induction hReach with
  | refl => exact ⟨0, rfl⟩
  | tail _ hLast ih =>
      rcases ih with ⟨steps, hWalk⟩
      refine ⟨steps + 1, ?_⟩
      rw [holderAfter?_add, hWalk]
      simpa [holderAfter?, Inside] using hLast

/- From a thing inside itself one can walk forever. -/
theorem isSome_holderAfter?_of_cycle
    {id : String}
    (hCycle : TransGen (Inside things) id id)
    (steps : Nat) :
    (holderAfter? things steps id).isSome := by
  induction steps generalizing id with
  | zero => rfl
  | succ steps ih =>
      rcases TransGen.head'_iff.mp hCycle with
        ⟨next, hNext, hBack⟩
      have hWalk : holder? things id = some next := hNext
      have hAround : TransGen (Inside things) next next :=
        TransGen.tail' hBack hNext
      simpa [holderAfter?, hWalk] using ih hAround

/- A walk that comes to a thing twice goes in a circle. -/
theorem transGen_of_holderAfter?_eq
    {early late : Nat}
    {id outer : String}
    (hLt : early < late)
    (hEarly : holderAfter? things early id = some outer)
    (hLate : holderAfter? things late id = some outer) :
    TransGen (Inside things) outer outer := by
  rcases Nat.exists_eq_add_of_lt hLt with ⟨between, rfl⟩
  rw [Nat.add_assoc, holderAfter?_add, hEarly] at hLate
  exact transGen_of_holderAfter? hLate

/- A thing that a walk goes on from is known. -/
theorem mem_ids_of_holderAfter?
    {steps : Nat}
    {id stop : String}
    (hStop : holderAfter? things steps id = some stop)
    (hNext : (holderAfter? things (steps + 1) id).isSome) :
    stop ∈ Catalog.ids things := by
  rw [holderAfter?_add, hStop] at hNext
  rcases Option.isSome_iff_exists.mp hNext with
    ⟨next, hWalk⟩
  have hInside : Inside things stop next := by
    simpa [holderAfter?, Inside] using hWalk
  exact (Catalog.has_eq_true_iff_mem_ids _ _).mp hInside.has

/-
  A walk of more steps than there are things comes to one of
  them twice.
-/
theorem exists_cycle_of_isSome_holderAfter?
    {id : String}
    (hSome :
      (holderAfter? things (things.length + 1) id).isSome) :
    ∃ outer, ReflTransGen (Inside things) id outer ∧
      TransGen (Inside things) outer outer := by
  let stop (steps : Nat) : String :=
    (holderAfter? things steps id).getD ""
  have hStop :
      ∀ steps ≤ things.length + 1,
        holderAfter? things steps id = some (stop steps) := by
    intro steps hLe
    rcases Option.isSome_iff_exists.mp
        (isSome_holderAfter?_of_le hLe hSome) with
      ⟨outer, hOuter⟩
    simp [stop, hOuter]
  have hKnown :
      ∀ steps ∈ Finset.range (things.length + 1),
        stop steps ∈ (Catalog.ids things).toFinset := by
    intro steps hMem
    have hLt := Finset.mem_range.mp hMem
    rw [List.mem_toFinset]
    exact mem_ids_of_holderAfter? (hStop steps hLt.le)
      (isSome_holderAfter?_of_le hLt hSome)
  have hFewer :
      (Catalog.ids things).toFinset.card <
        (Finset.range (things.length + 1)).card := by
    have hCard := List.toFinset_card_le (Catalog.ids things)
    have hLength :
        (Catalog.ids things).length = things.length := by
      simp [Catalog.ids]
    rw [Finset.card_range]
    omega
  rcases Finset.exists_ne_map_eq_of_card_lt_of_maps_to
      hFewer hKnown with
    ⟨first, hFirst, second, hSecond, hNe, hSame⟩
  have hAtFirst := hStop first (Finset.mem_range.mp hFirst).le
  have hAtSecond :=
    hStop second (Finset.mem_range.mp hSecond).le
  rw [← hSame] at hAtSecond
  refine ⟨stop first, reflTransGen_of_holderAfter? hAtFirst,
    ?_⟩
  rcases Nat.lt_or_gt_of_ne hNe with hLt | hLt
  · exact transGen_of_holderAfter?_eq hLt hAtFirst hAtSecond
  · exact transGen_of_holderAfter?_eq hLt hAtSecond hAtFirst

/- Without cycles a long walk comes to an end. -/
theorem IsAcyclic.holderAfter?_eq_none
    (hAcyclic : IsAcyclic things)
    (id : String) :
    holderAfter? things (things.length + 1) id = none := by
  cases hWalk : holderAfter? things (things.length + 1) id with
  | none => rfl
  | some outer =>
      rcases exists_cycle_of_isSome_holderAfter?
          (by rw [hWalk]; rfl) with ⟨inner, -, hCycle⟩
      exact absurd hCycle (hAcyclic inner)

------------------------------------------------------------
-- Bounded Walks Of The Program
------------------------------------------------------------

namespace Content

/- A chain of containers ends when the walk along it does. -/
theorem chainEnds_eq_true_iff
    (steps : Nat)
    (id : String) :
    chainEnds things steps id = true ↔
      holderAfter? things steps id = none := by
  induction steps generalizing id with
  | zero => simp [chainEnds, holderAfter?]
  | succ steps ih =>
      cases hFind : Catalog.find? id things with
      | none => simp [chainEnds, holderAfter?, holder?, hFind]
      | some thing =>
          cases hContainer : thing.placement.container? with
          | none =>
              simp [chainEnds, holderAfter?, holder?, hFind,
                hContainer]
          | some container =>
              simp [chainEnds, holderAfter?, holder?, hFind,
                hContainer, ih]

/- Chains that all end within the bound make no cycle. -/
theorem isAcyclic_of_chainEnds
    (steps : Nat)
    (hEnds :
      ∀ thing ∈ things, chainEnds things steps thing.id) :
    IsAcyclic things := by
  intro id hCycle
  rcases TransGen.head'_iff.mp hCycle with ⟨next, hNext, -⟩
  rcases (Catalog.has_iff _ _).mp hNext.has with
    ⟨thing, hMem, rfl⟩
  have hNone :=
    (chainEnds_eq_true_iff steps _).mp (hEnds thing hMem)
  have hSome := isSome_holderAfter?_of_cycle hCycle steps
  rw [idOf_thing, hNone] at hSome
  simp at hSome

end Content

namespace World

/- The walk that looks for a thing meets it or goes on. -/
theorem chainMeets_eq_true_iff
    (world : World)
    (thing : String)
    (steps : Nat)
    (id : String) :
    world.chainMeets thing steps id = true ↔
      (∃ fewer < steps,
          holderAfter? world.things fewer id = some thing) ∨
        (holderAfter? world.things steps id).isSome := by
  induction steps generalizing id with
  | zero => simp [chainMeets, holderAfter?]
  | succ steps ih =>
      by_cases hId : id = thing
      · subst hId
        simp only [chainMeets, if_true, true_iff]
        exact Or.inl ⟨0, Nat.succ_pos steps, rfl⟩
      · have hShift :
            (∃ fewer < steps + 1,
                holderAfter? world.things fewer id =
                  some thing) ↔
              ∃ fewer < steps,
                holderAfter? world.things (fewer + 1) id =
                  some thing := by
          constructor
          · rintro ⟨fewer, hLt, hWalk⟩
            cases fewer with
            | zero => exact absurd (Option.some.inj hWalk) hId
            | succ fewer => exact ⟨fewer, by omega, hWalk⟩
          · rintro ⟨fewer, hLt, hWalk⟩
            exact ⟨fewer + 1, by omega, hWalk⟩
        rw [hShift]
        have hThing :
            (world.thing? id).bind
                (fun found => found.placement.container?) =
              holder? world.things id := rfl
        cases hHolder : holder? world.things id with
        | none =>
            simp [chainMeets, hId, hThing, hHolder,
              holderAfter?]
        | some container =>
            simp [chainMeets, hId, hThing, hHolder,
              holderAfter?, ih]

end World

------------------------------------------------------------
-- Fewer And More Containments
------------------------------------------------------------

/- Fewer containments make no cycle. -/
theorem IsAcyclic.mono
    {fewer : List Thing}
    (hAcyclic : IsAcyclic things)
    (hFewer :
      ∀ inner outer, Inside fewer inner outer →
        Inside things inner outer) :
    IsAcyclic fewer := by
  intro id hCycle
  exact hAcyclic id (TransGen.mono hFewer _ _ hCycle)

/-
  One more link makes no cycle, unless the link leads to where
  it is reached from.
-/
theorem acyclic_of_new_edge
    {α : Type}
    {before after : α → α → Prop}
    {source target : α}
    (hAcyclic : ∀ point, ¬ TransGen before point point)
    (hApart : ¬ ReflTransGen before target source)
    (hStep :
      ∀ left right, after left right →
        before left right ∨ left = source ∧ right = target) :
    ∀ point, ¬ TransGen after point point := by
  have hSplit :
      ∀ {left right}, TransGen after left right →
        TransGen before left right ∨
          ReflTransGen before left source ∧
            ReflTransGen before target right := by
    intro left right hPath
    induction hPath with
    | single hOnly =>
        rcases hStep _ _ hOnly with hOld | ⟨rfl, rfl⟩
        · exact Or.inl (.single hOld)
        · exact Or.inr ⟨.refl, .refl⟩
    | tail _ hLast ih =>
        rcases hStep _ _ hLast with hOld | ⟨rfl, rfl⟩
        · rcases ih with hPath | ⟨hFront, hBack⟩
          · exact Or.inl (hPath.tail hOld)
          · exact Or.inr ⟨hFront, hBack.tail hOld⟩
        · rcases ih with hPath | ⟨-, hBack⟩
          · exact Or.inr ⟨hPath.to_reflTransGen, .refl⟩
          · exact absurd hBack hApart
  intro point hCycle
  rcases hSplit hCycle with hOld | ⟨hFront, hBack⟩
  · exact hAcyclic point hOld
  · exact hApart (hBack.trans hFront)

/- A thing that comes to a new place is not inside itself. -/
theorem IsAcyclic.of_placement
    {things moved : List Thing}
    {id : String}
    {placement : Placement}
    (hAcyclic : IsAcyclic things)
    (hApart :
      ∀ container, placement = .container container →
        ¬ ReflTransGen (Inside things) container id)
    (hInside :
      ∀ inner outer, Inside moved inner outer →
        Inside things inner outer ∨
          inner = id ∧ placement = .container outer) :
    IsAcyclic moved := by
  cases hPlacement : placement with
  | container container =>
      apply acyclic_of_new_edge hAcyclic
        (hApart container hPlacement)
      intro inner outer hLink
      rcases hInside inner outer hLink with
        hOld | ⟨rfl, hSame⟩
      · exact Or.inl hOld
      · rw [hPlacement] at hSame
        cases hSame
        exact Or.inr ⟨rfl, rfl⟩
  | room | carried | nowhere =>
      apply hAcyclic.mono
      intro inner outer hLink
      rcases hInside inner outer hLink with
        hOld | ⟨-, hSame⟩
      · exact hOld
      · simp [hPlacement] at hSame

end TextAdventure
