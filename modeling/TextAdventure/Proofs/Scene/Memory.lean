import TextAdventure.Proofs.Dict
import TextAdventure.Proofs.Scene.Consistency

/-
  What a session remembers of play, and the values in it.

  Moving things, wearing them and the player's condition
  leave the memory of a session alone. The values in a scene
  are those of its things, flags and remembered states; an
  edit adds only values that effects write.

  Main declarations:
    * `Session.memory`
    * `Scene.memory_of_place`
    * `Scene.Holds`
    * `Scene.Holds.edit`
    * `Scene.Holds.edits`
-/

namespace TextAdventure

------------------------------------------------------------
-- Memory
------------------------------------------------------------

/-
  The flags, solved puzzles, visited rooms, opened exits and
  states of things that a session remembers.
-/
def Session.memory (session : Session) :
    Dict Value × List String × List String × List String ×
      Dict ThingState :=
  (session.flags, session.solvedPuzzles,
    session.visitedRooms, session.openedExits,
    session.thingStates)

namespace Session

@[simp] theorem memory_addItem
    (session : Session)
    (id : String) :
    (session.addItem id).memory = session.memory := by
  unfold addItem
  split <;> rfl

@[simp] theorem memory_putOn
    (session : Session)
    (id : String) :
    (session.putOn id).memory = session.memory := by
  unfold putOn
  split <;> rfl

/- A visit is remembered once. -/
theorem recordVisit_visitedRooms
    (session : Session)
    (room : String) :
    (session.recordVisit room).visitedRooms =
      gather session.visitedRooms [room] := by
  by_cases hMem : room ∈ session.visitedRooms <;>
    simp [recordVisit, gather, hMem]

theorem recordVisit_memory
    (session : Session)
    (room : String) :
    (session.recordVisit room).memory =
      (session.flags, session.solvedPuzzles,
        gather session.visitedRooms [room],
        session.openedExits, session.thingStates) := by
  rw [← recordVisit_visitedRooms]
  unfold recordVisit
  split <;> rfl

/- An opened exit is remembered once. -/
theorem recordOpened_openedExits
    (session : Session)
    (exit : String) :
    (session.recordOpened exit).openedExits =
      gather session.openedExits [exit] := by
  by_cases hMem : exit ∈ session.openedExits <;>
    simp [recordOpened, gather, hMem]

theorem recordOpened_memory
    (session : Session)
    (exit : String) :
    (session.recordOpened exit).memory =
      (session.flags, session.solvedPuzzles,
        session.visitedRooms,
        gather session.openedExits [exit],
        session.thingStates) := by
  rw [← recordOpened_openedExits]
  unfold recordOpened
  split <;> rfl

end Session

namespace Scene

variable {may : Value → Prop}
variable {before after : Scene}

@[simp] theorem memory_afterUnworn
    (scene : Scene)
    (thing : String) :
    (scene.afterUnworn thing).session.memory =
      scene.session.memory := by
  unfold afterUnworn
  split <;> rfl

@[simp] theorem memory_setWorn
    (scene : Scene)
    (thing : String)
    (worn : Bool) :
    (scene.setWorn thing worn).session.memory =
      scene.session.memory := by
  cases worn with
  | true => exact Session.memory_putOn _ thing
  | false => exact memory_afterUnworn _ thing

@[simp] theorem memory_enterRoom
    (scene : Scene)
    (room : String) :
    (scene.enterRoom room).session.memory =
      (scene.session.flags, scene.session.solvedPuzzles,
        gather scene.session.visitedRooms [room],
        scene.session.openedExits,
        scene.session.thingStates) :=
  Session.recordVisit_memory _ room

theorem memory_of_place
    {id : String}
    {target : Placement}
    (hPlace : before.place id target = .ok after) :
    after.session.memory = before.session.memory := by
  unfold place at hPlace
  split at hPlace
  · simp at hPlace
  · split at hPlace
    · cases hPlace
      exact Session.memory_addItem _ id
    · dsimp only at hPlace
      split at hPlace
      · cases hPlace
        exact memory_afterUnworn _ id
      · cases hPlace
        rfl

------------------------------------------------------------
-- Values
------------------------------------------------------------

/- All values in a scene pass a test. -/
structure Holds
    (may : Value → Prop)
    (scene : Scene) : Prop where
  things :
    ∀ thing ∈ scene.world.things, thing.customState.All may
  flags : scene.session.flags.All may
  states :
    scene.session.thingStates.All (fun state =>
      state.customState.All may)

/- Where only things differ, only things are to be tested. -/
theorem Holds.of_eq
    (hHolds : before.Holds may)
    (hThings :
      ∀ thing ∈ after.world.things,
        thing.customState.All may)
    (hFlags : after.session.flags = before.session.flags)
    (hStates :
      after.session.thingStates =
        before.session.thingStates) :
    after.Holds may where
  things := hThings
  flags := by
    rw [hFlags]
    exact hHolds.flags
  states := by
    rw [hStates]
    exact hHolds.states

theorem Holds.of_memory_eq
    (hHolds : before.Holds may)
    (hThings :
      ∀ thing ∈ after.world.things,
        thing.customState.All may)
    (hMemory :
      after.session.memory = before.session.memory) :
    after.Holds may :=
  hHolds.of_eq hThings
    (congrArg (fun memory => memory.1) hMemory)
    (congrArg (fun memory => memory.2.2.2.2) hMemory)

/- A write that may be made is kept in custom state. -/
theorem written_all
    {thing : Thing}
    (hThing : thing.customState.All may)
    {value : Value}
    (hMay : may value)
    (field? : Option Field) :
    (thing.written field? value).customState.All may := by
  cases field? with
  | none => exact hThing
  | some field =>
      cases field with
      | custom key => exact hThing.insert hMay key
      | flag flag => cases flag <;> exact hThing
      | visible => exact hThing

/- Every edit writes only what may be written. -/
theorem Holds.edit
    (hHolds : before.Holds may)
    (hEdit : Edit may before after) :
    after.Holds may := by
  cases hEdit with
  | place id target hPlace =>
      rcases relocate_of_place hPlace with ⟨old, hRelocate⟩
      rcases World.relocate_eq_ok_iff.mp hRelocate with
        ⟨thing, -, -, -, hMoved⟩
      refine hHolds.of_memory_eq ?_ (memory_of_place hPlace)
      rw [hMoved, World.moveTo_things]
      exact Catalog.forall_mem_update hHolds.things
        (fun _ hThing => hThing)
  | putOn id hCarried =>
      refine hHolds.of_memory_eq ?_ (memory_setWorn _ id true)
      rw [setWorn_world, World.updateThing_things]
      exact Catalog.forall_mem_update hHolds.things
        (fun _ hThing => hThing)
  | takeOff id =>
      refine hHolds.of_memory_eq ?_ (memory_setWorn _ id false)
      rw [setWorn_world, World.updateThing_things]
      exact Catalog.forall_mem_update hHolds.things
        (fun _ hThing => hThing)
  | write id field? value hMay =>
      refine hHolds.of_memory_eq ?_ rfl
      simp only [updateThing, World.updateThing_things]
      exact Catalog.forall_mem_update hHolds.things
        (fun _ hThing => written_all hThing hMay field?)
  | unlock exit hUnblock =>
      have hMemory :=
        before.session.recordOpened_memory exit
      rcases (World.unblockExit_eq_ok_iff _).mp hUnblock with
        ⟨key, room, way, -, -, -, -, rfl⟩
      exact hHolds.of_eq hHolds.things
        (congrArg (fun memory => memory.1) hMemory)
        (congrArg (fun memory => memory.2.2.2.2) hMemory)
  | enter room =>
      have hMemory := memory_enterRoom before room
      exact hHolds.of_eq hHolds.things
        (congrArg (fun memory => memory.1) hMemory)
        (congrArg (fun memory => memory.2.2.2.2) hMemory)
  | flag flag value hMay =>
      exact
        { things := hHolds.things
          flags := hHolds.flags.insert hMay flag
          states := hHolds.states }
  | condition state suspended =>
      exact hHolds.of_memory_eq hHolds.things rfl
  | solve puzzle =>
      exact
        { things := hHolds.things
          flags := hHolds.flags
          states := hHolds.states }

theorem Holds.edits
    (hHolds : before.Holds may)
    (hEdits : Edits may before after) :
    after.Holds may := by
  induction hEdits with
  | refl => exact hHolds
  | tail _ hLast ih => exact ih.edit hLast

end Scene

end TextAdventure
