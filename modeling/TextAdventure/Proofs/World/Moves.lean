import TextAdventure.Proofs.Content.Validity
import TextAdventure.Proofs.Scene.Consistency
import TextAdventure.Proofs.World.Addition

/-
  Moving things in worlds that have been played in.

  Whatever is done to a world that was built from accepted
  content, step by step, leaves it coherent. Hence a thing can
  be moved unless it or its target is not there or the target
  is inside it; a refused move changes nothing, and any other
  changes the thing, two listings and the marks, and no more.

  Main declarations:
    * `World.Step`
    * `World.run`
    * `World.IsCoherent.run`
    * `World.RefusesMove`
    * `World.IsCoherent.relocate_eq_error_iff`
    * `World.MovesOnly`
    * `World.IsCoherent.movesOnly_moveTo`
    * `World.relocate_moves_one_or_nothing`
-/

namespace TextAdventure

open Relation (ReflTransGen)

namespace World

------------------------------------------------------------
-- Steps
------------------------------------------------------------

/- What can be done to a world, apart from a session. -/
inductive Step where
| relocate (id : String) (target : Placement)
| add (addition : Addition)
| unblock (exit : String)
| visit (room : String)
| write (id path : String) (value : Value)

/- The world after a step; what is refused changes nothing. -/
def step (world : World) : Step → World
| .relocate id target =>
    match world.relocate id target with
    | .ok (moved, _) => moved
    | .error _ => world
| .add addition => world.add addition
| .unblock exit =>
    match world.unblockExit exit with
    | .ok (after, _) => after
    | .error _ => world
| .visit room => world.visit room
| .write id path value =>
    world.updateThing id (Scene.writeProperty path value)

/- The world after several steps. -/
def run (world : World) (steps : List Step) : World :=
  steps.foldl step world

@[simp] theorem run_nil (world : World) :
    world.run [] = world := rfl

@[simp] theorem run_cons
    (world : World)
    (step : Step)
    (rest : List Step) :
    world.run (step :: rest) = (world.step step).run rest :=
  rfl

variable {world moved : World}
variable {id : String}
variable {target : Placement}

theorem step_relocate_of_ok
    {old : Placement}
    (hOk : world.relocate id target = .ok (moved, old)) :
    world.step (.relocate id target) = moved := by
  simp [step, hOk]

theorem step_relocate_of_error
    {fault : WorldFault}
    (hError : world.relocate id target = .error fault) :
    world.step (.relocate id target) = world := by
  simp [step, hError]

/- A step but a move or an offer leaves the layout alone. -/
theorem layout_step
    (step : Step)
    (hMove : ∀ id target, step ≠ .relocate id target)
    (hAdd : ∀ addition, step ≠ .add addition) :
    (world.step step).layout = world.layout := by
  cases step with
  | relocate id target => exact absurd rfl (hMove id target)
  | add addition => exact absurd rfl (hAdd addition)
  | unblock exit =>
      cases hOpen : world.unblockExit exit with
      | ok opened =>
          simp only [World.step, hOpen]
          exact world.layout_unblockExit hOpen
      | error fault => simp only [World.step, hOpen]
  | visit room => exact world.layout_visit room
  | write id path value =>
      simp only [World.step, Scene.writeProperty_eq_written]
      exact world.layout_updateThing (by simp) (by simp) id

theorem IsCoherent.step
    (hCoherent : world.IsCoherent)
    (step : Step) :
    (world.step step).IsCoherent := by
  cases step with
  | relocate id target =>
      cases hMove : world.relocate id target with
      | ok result =>
          rw [step_relocate_of_ok hMove]
          exact hCoherent.relocate hMove
      | error fault =>
          rw [step_relocate_of_error hMove]
          exact hCoherent
  | add addition => exact hCoherent.add addition
  | unblock | visit | write =>
      exact hCoherent.of_layout_eq
        (layout_step _ (by simp) (by simp))

/- Coherence is kept by steps of all kinds. -/
theorem IsCoherent.run
    (hCoherent : world.IsCoherent)
    (steps : List Step) :
    (world.run steps).IsCoherent := by
  induction steps generalizing world with
  | nil => exact hCoherent
  | cons step rest ih => exact ih (hCoherent.step step)

------------------------------------------------------------
-- Refused Moves
------------------------------------------------------------

/-
  Why a thing may not be moved: it is not known, its target is
  not there, or its target is the thing itself or something
  that lies inside it, however deep.
-/
inductive RefusesMove (world : World) (id : String) :
    Placement → WorldFault → Prop where
| unknown
    (target : Placement)
    (hUnknown : id ∉ Catalog.ids world.things) :
    RefusesMove world id target (.unknownThing id)
| noRoom
    (room : String)
    (hKnown : id ∈ Catalog.ids world.things)
    (hMissing : room ∉ Catalog.ids world.rooms) :
    RefusesMove world id (.room room) (.unknownRoom room)
| noContainer
    (container : String)
    (hKnown : id ∈ Catalog.ids world.things)
    (hMissing : container ∉ Catalog.ids world.things) :
    RefusesMove world id (.container container)
      (.unknownThing container)
| inside
    (container : String)
    (hKnown : id ∈ Catalog.ids world.things)
    (hThere : container ∈ Catalog.ids world.things)
    (hInside :
      ReflTransGen (Inside world.things) container id) :
    RefusesMove world id (.container container)
      (.containmentCycle id)

/- Nothing but a fault of its target stops a known thing. -/
theorem relocate_eq_error_iff_targetFault?
    {fault : WorldFault}
    (hKnown : id ∈ Catalog.ids world.things) :
    world.relocate id target = .error fault ↔
      world.targetFault? id target = some fault := by
  rcases Catalog.exists_find?_of_has
      ((Catalog.has_eq_true_iff_mem_ids _ _).mpr hKnown) with
    ⟨thing, hThing⟩
  have hFound : world.thing? id = some thing := hThing
  cases hFault : world.targetFault? id target <;>
    simp [relocate, hFound, hFault]

theorem relocate_of_unknown
    (hUnknown : id ∉ Catalog.ids world.things)
    (target : Placement) :
    world.relocate id target = .error (.unknownThing id) := by
  have hThing : world.thing? id = none :=
    (Catalog.find?_eq_none_iff _ _).mpr
      ((Catalog.has_eq_false_iff _ _).mpr hUnknown)
  simp [relocate, hThing]

/- A container is refused if it is missing or in the thing. -/
theorem targetFault?_container_eq_some_iff
    (hAcyclic : IsAcyclic world.things)
    {container : String}
    {fault : WorldFault} :
    world.targetFault? id (.container container) =
        some fault ↔
      container ∉ Catalog.ids world.things ∧
          fault = .unknownThing container ∨
        container ∈ Catalog.ids world.things ∧
          ReflTransGen (Inside world.things) container id ∧
            fault = .containmentCycle id := by
  have hApart :
      world.wouldContainCycle id container = true ↔
        ReflTransGen (Inside world.things) container id := by
    rw [← Bool.not_eq_false,
      wouldContainCycle_eq_false_iff hAcyclic, not_not]
  rw [← Catalog.has_eq_true_iff_mem_ids, ← hApart]
  simp only [targetFault?]
  cases Catalog.has container world.things <;>
    cases world.wouldContainCycle id container <;>
      simp [eq_comm (b := fault)]

/- A move is refused for these reasons and no others. -/
theorem IsCoherent.relocate_eq_error_iff
    (hCoherent : world.IsCoherent)
    {fault : WorldFault} :
    world.relocate id target = .error fault ↔
      world.RefusesMove id target fault := by
  by_cases hKnown : id ∈ Catalog.ids world.things
  · rw [relocate_eq_error_iff_targetFault? hKnown]
    constructor
    · intro hFault
      cases target with
      | room room =>
          simp only [targetFault?] at hFault
          split at hFault
          · simp at hFault
          · rename_i hHas
            cases hFault
            exact .noRoom room hKnown (by
              simpa [← Catalog.has_eq_true_iff_mem_ids]
                using hHas)
      | container container =>
          rcases (targetFault?_container_eq_some_iff
              hCoherent.acyclic).mp hFault with
            ⟨hMissing, rfl⟩ | ⟨hThere, hInside, rfl⟩
          · exact .noContainer container hKnown hMissing
          · exact .inside container hKnown hThere hInside
      | carried | nowhere => simp [targetFault?] at hFault
    · intro hRefuses
      cases hRefuses with
      | unknown target hUnknown => exact absurd hKnown hUnknown
      | noRoom room _ hMissing =>
          have hHas :=
            (Catalog.has_eq_false_iff _ _).mpr hMissing
          simp [targetFault?, hHas]
      | noContainer container _ hMissing =>
          exact (targetFault?_container_eq_some_iff
            hCoherent.acyclic).mpr (Or.inl ⟨hMissing, rfl⟩)
      | inside container _ hThere hInside =>
          exact (targetFault?_container_eq_some_iff
            hCoherent.acyclic).mpr
              (Or.inr ⟨hThere, hInside, rfl⟩)
  · rw [relocate_of_unknown hKnown]
    constructor
    · rintro ⟨rfl⟩
      exact .unknown target hKnown
    · intro hRefuses
      cases hRefuses with
      | unknown => rfl
      | noRoom _ hIn | noContainer _ hIn | inside _ hIn =>
          exact absurd hIn hKnown

------------------------------------------------------------
-- Accepted Moves
------------------------------------------------------------

/- What a room lists once a thing has left a place. -/
def thingsWithout
    (id : String)
    (origin : Placement)
    (room : Room) : List String :=
  if origin = .room room.id then
    room.things.filter (fun other => other != id)
  else
    room.things

/-
  A world after a thing has been moved. The thing is at its
  target, and off the player unless it is carried; the room
  that it was in has lost it from its listing, and the room
  that it comes to lists it last. It is marked as changed.
-/
structure MovesOnly
    (world : World)
    (thing : Thing)
    (target : Placement)
    (moved : World) : Prop where
  rules : moved.rules = world.rules
  puzzles : moved.puzzles = world.puzzles
  scripts : moved.scripts = world.scripts
  things :
    moved.things =
      world.things.map (fun other =>
        if other.id = thing.id then
          { other with
              placement := target
              isWorn :=
                if target = .carried then other.isWorn
                else false }
        else
          other)
  rooms :
    moved.rooms =
      world.rooms.map (fun room =>
        { room with
            things :=
              thingsWithout thing.id thing.placement room ++
                if target = .room room.id then [thing.id]
                else [] })
  changed :
    ∀ id, id ∈ moved.changed ↔
      id = thing.id ∨ id ∈ world.changed

theorem placeThing_eq
    (target : Placement)
    (thing : Thing) :
    placeThing target thing =
      { thing with
          placement := target
          isWorn :=
            if target = .carried then thing.isWorn
            else false } := by
  cases target <;> simp [placeThing, Placement.isCarried]

/- A thing is listed only where it is. -/
theorem IsCoherent.placement_of_listed
    (hCoherent : world.IsCoherent)
    {thing : Thing}
    (hThing : world.thing? id = some thing)
    {room : Room}
    (hRoom : room ∈ world.rooms)
    (hListed : id ∈ room.things) :
    thing.placement = .room room.id :=
  places_unique hCoherent.thingIds
    ((places_iff hCoherent.thingIds).mpr ⟨thing, hThing, rfl⟩)
    ((hCoherent.listed room.id id).mp
      ⟨room, hRoom, rfl, hListed⟩)

/- What has left its place is listed nowhere. -/
theorem IsCoherent.not_mem_thingsWithout
    (hCoherent : world.IsCoherent)
    {thing : Thing}
    (hThing : world.thing? id = some thing)
    {room : Room}
    (hRoom : room ∈ world.rooms) :
    id ∉ thingsWithout id thing.placement room := by
  unfold thingsWithout
  split
  · simp
  · rename_i hElsewhere
    exact fun hListed => hElsewhere
      (hCoherent.placement_of_listed hThing hRoom hListed)

/- Where a thing comes to, it is listed last. -/
theorem IsCoherent.relistMoved_eq
    (hCoherent : world.IsCoherent)
    {thing : Thing}
    (hThing : world.thing? id = some thing)
    (target : Placement)
    {room : Room}
    (hRoom : room ∈ world.rooms) :
    relistMoved id thing.placement target room =
      { room with
          things :=
            thingsWithout id thing.placement room ++
              if target = .room room.id then [id]
              else [] } := by
  have hGone := hCoherent.not_mem_thingsWithout hThing hRoom
  have hLeft :
      (if thing.placement = .room room.id then room.unlist id
          else room) =
        { room with
            things :=
              thingsWithout id thing.placement room } := by
    unfold thingsWithout
    split <;> rfl
  simp only [relistMoved, hLeft]
  split <;> simp [Room.list, hGone]

/- An accepted move changes what it has to and no more. -/
theorem IsCoherent.movesOnly_moveTo
    (hCoherent : world.IsCoherent)
    {thing : Thing}
    (hThing : world.thing? id = some thing)
    (target : Placement) :
    world.MovesOnly thing target
      (world.moveTo id thing.placement target) := by
  have hId : thing.id = id := (Catalog.find?_some hThing).2
  subst hId
  exact
    { rules := by simp
      puzzles := by simp
      scripts := by simp
      things := by
        rw [moveTo_things,
          Catalog.update_eq_map hCoherent.thingIds]
        simp only [placeThing_eq, idOf_thing]
      rooms := by
        rw [moveTo_rooms_eq_map hCoherent.roomIds]
        apply List.map_congr_left
        intro room hRoom
        exact hCoherent.relistMoved_eq hThing target hRoom
      changed := fun other =>
        mem_moveTo_changed_iff thing.id other _ target }

/- A move that is not refused is made. -/
theorem IsCoherent.exists_relocate_of_not_refused
    (hCoherent : world.IsCoherent)
    (hMay : ¬ ∃ fault, world.RefusesMove id target fault) :
    ∃ thing moved,
      world.thing? id = some thing ∧
        world.relocate id target =
          .ok (moved, thing.placement) ∧
        world.MovesOnly thing target moved := by
  cases hMove : world.relocate id target with
  | error fault =>
      exact absurd
        ⟨fault, hCoherent.relocate_eq_error_iff.mp hMove⟩ hMay
  | ok result =>
      rcases relocate_eq_ok_iff.mp hMove with
        ⟨thing, hThing, -, hOld, hMoved⟩
      refine ⟨thing, result.1, hThing, ?_, ?_⟩
      · rw [← hOld]
      · rw [hMoved]
        exact hCoherent.movesOnly_moveTo hThing target

------------------------------------------------------------
-- Moves In Worlds Of Accepted Content
------------------------------------------------------------

/-
  In a world that has come from accepted content by steps of
  any kind, a move is refused for the reasons given and no
  others, and then all stays as it is. Otherwise the thing is
  moved, what is told is where it was, and nothing else is
  other than before. After moves one after the other rooms
  list what lies in them and nothing is inside itself.
-/
theorem relocate_moves_one_or_nothing
    {content : Content}
    (hValid : content.IsValid)
    (steps : List Step)
    (id : String)
    (target : Placement) :
    let world := (ofContent content).run steps
    (∀ fault,
      world.relocate id target = .error fault ↔
        world.RefusesMove id target fault) ∧
    ((∃ fault, world.RefusesMove id target fault) →
      world.step (.relocate id target) = world) ∧
    ((¬ ∃ fault, world.RefusesMove id target fault) →
      ∃ thing moved,
        world.thing? id = some thing ∧
          world.relocate id target =
            .ok (moved, thing.placement) ∧
          world.step (.relocate id target) = moved ∧
          world.MovesOnly thing target moved) ∧
    ∀ moves : List (String × Placement),
      let after :=
        world.run (moves.map (fun move =>
          .relocate move.1 move.2))
      (∀ room other,
        after.Lists room other ↔
          after.Places other (.room room)) ∧
        IsAcyclic after.things := by
  intro world
  have hCoherent : world.IsCoherent :=
    (ofContent_isCoherent hValid).run steps
  refine ⟨fun fault => hCoherent.relocate_eq_error_iff,
    ?_, ?_, ?_⟩
  · rintro ⟨fault, hRefuses⟩
    exact step_relocate_of_error
      (hCoherent.relocate_eq_error_iff.mpr hRefuses)
  · intro hMay
    rcases hCoherent.exists_relocate_of_not_refused hMay with
      ⟨thing, moved, hThing, hOk, hMoves⟩
    exact ⟨thing, moved, hThing, hOk,
      step_relocate_of_ok hOk, hMoves⟩
  · intro moves after
    have hAfter : after.IsCoherent := hCoherent.run _
    exact ⟨hAfter.listed, hAfter.acyclic⟩

/- A hall with a chest, a lamp in it, and a cloak in hand. -/
def cloakedHall : Content where
  rules := { startRoom := "hall" }
  rooms :=
    [{ id := "hall", name := "Hall", things := ["chest"] }]
  things :=
    [{ id := "chest"
       name := "chest"
       placement := .room "hall" },
     { id := "lamp"
       name := "lamp"
       placement := .container "chest" },
     { id := "cloak"
       name := "cloak"
       placement := .carried
       isWorn := true }]

/-
  With a cellar added and the cloak in the lamp, the chest may
  not go into the cloak. It may go to the cellar.
-/
theorem chest_of_cloakedHall_is_moved :
    let steps : List Step :=
      [.add (.room { id := "cellar", name := "Cellar" }),
        .relocate "cloak" (.container "lamp"),
        .visit "hall",
        .write "chest" "customState.dusty" (.boolean true)]
    let world := (ofContent cloakedHall).run steps
    cloakedHall.IsValid ∧
    world.relocate "chest" (.container "cloak") =
      .error (.containmentCycle "chest") ∧
    world.step (.relocate "chest" (.container "cloak")) =
      world ∧
    ∃ thing moved,
      world.relocate "chest" (.room "cellar") =
          .ok (moved, .room "hall") ∧
        world.MovesOnly thing (.room "cellar") moved ∧
        moved.rooms.map Room.things = [[], ["chest"]] := by
  intro steps world
  have hValid : cloakedHall.IsValid := by rfl
  have hInside :
      ReflTransGen (Inside world.things) "cloak" "chest" :=
    .head (show Inside world.things "cloak" "lamp" by rfl)
      (.single (show Inside world.things "lamp" "chest" by rfl))
  have hKnown : "chest" ∈ Catalog.ids world.things := by
    decide
  have hCloak : "cloak" ∈ Catalog.ids world.things := by
    decide
  have hCellar : "cellar" ∈ Catalog.ids world.rooms := by
    decide
  have hRefuses :
      world.RefusesMove "chest" (.container "cloak")
        (.containmentCycle "chest") :=
    .inside "cloak" hKnown hCloak hInside
  rcases relocate_moves_one_or_nothing hValid steps "chest"
      (.container "cloak") with
    ⟨hError, hStays, -, -⟩
  rcases relocate_moves_one_or_nothing hValid steps "chest"
      (.room "cellar") with
    ⟨-, -, hMove, -⟩
  have hMay :
      ¬ ∃ fault,
        world.RefusesMove "chest" (.room "cellar") fault := by
    rintro ⟨fault, hNot⟩
    cases hNot with
    | unknown _ hUnknown => exact hUnknown hKnown
    | noRoom _ _ hMissing => exact hMissing hCellar
  rcases hMove hMay with
    ⟨thing, moved, hThing, hOk, -, hMoves⟩
  have hOrigin : thing.placement = .room "hall" := by
    have hFound :
        (world.thing? "chest").map Thing.placement =
          some (.room "hall") := by
      decide
    rw [hThing] at hFound
    exact Option.some.inj hFound
  rw [hOrigin] at hOk
  refine ⟨hValid, (hError _).mpr hRefuses,
    hStays ⟨_, hRefuses⟩, thing, moved, hOk, hMoves, ?_⟩
  have hId : thing.id = "chest" := (Catalog.find?_some hThing).2
  rw [hMoves.rooms, hOrigin, hId]
  decide

end World

end TextAdventure
