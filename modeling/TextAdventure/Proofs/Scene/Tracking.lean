import TextAdventure.Proofs.Scene.Consistency
import TextAdventure.Proofs.Scene.Memory
import TextAdventure.Proofs.World.Progress

/-
  Sessions that say how their world differs from the world
  it was built as.

  Opened exits, visited rooms and solved puzzles are
  remembered as they happen. A thing that is changed is
  marked, so one that is not marked is as it is remembered,
  or else as it was built.

  Main declarations:
    * `Scene.Tracks`
    * `Scene.remembered`
    * `Scene.Tracks.edit`
    * `Scene.Tracks.edits`
-/

namespace TextAdventure

------------------------------------------------------------
-- Tracked Worlds
------------------------------------------------------------

namespace Scene

/- The state of a thing as remembered, or else as built. -/
def remembered
    (base : World)
    (session : Session)
    (id : String) : Option ThingState :=
  (session.thingStates.get? id).or
    ((base.thing? id).map .capture)

/-
  A session says how its world has come from another one, up
  to the marked things.
-/
structure Tracks (base : World) (scene : Scene) : Prop where
  thingIds :
    Catalog.ids scene.world.things = Catalog.ids base.things
  known :
    ∀ id ∈ scene.world.changed, id ∈ Catalog.ids base.things
  states :
    ∀ id, id ∉ scene.world.changed →
      (scene.world.thing? id).map .capture =
        remembered base scene.session id
  rooms :
    scene.world.rooms.map Room.bare =
      base.rooms.map (fun room =>
        (room.explored scene.session.openedExits
          scene.session.visitedRooms).bare)
  puzzles :
    scene.world.puzzles =
      base.puzzles.map (fun puzzle =>
        scene.session.solvedPuzzles.foldl Puzzle.solvedBy
          puzzle)

variable {may : Value → Prop}
variable {base : World}
variable {before after : Scene}

/- Changes that are marked leave the states tracked. -/
theorem Tracks.of_marks
    (hTracks : before.Tracks base)
    (hMarks : before.world.Marks after.world)
    (hStates :
      after.session.thingStates = before.session.thingStates)
    (hRooms :
      after.world.rooms.map Room.bare =
        base.rooms.map (fun room =>
          (room.explored after.session.openedExits
            after.session.visitedRooms).bare))
    (hPuzzles :
      after.world.puzzles =
        base.puzzles.map (fun puzzle =>
          after.session.solvedPuzzles.foldl Puzzle.solvedBy
            puzzle)) :
    after.Tracks base where
  thingIds := by rw [hMarks.thingIds, hTracks.thingIds]
  known := by
    intro id hMem
    rcases hMarks.known id hMem with hOld | hKnown
    · exact hTracks.known id hOld
    · rw [hTracks.thingIds] at hKnown
      exact hKnown
  states := by
    intro id hUnmarked
    rcases hMarks.kept id hUnmarked with ⟨hOld, hSame⟩
    rw [hSame, hTracks.states id hOld, remembered,
      remembered, hStates]
  rooms := hRooms
  puzzles := hPuzzles

/- Where the memory is the same, rooms and puzzles must be. -/
theorem Tracks.of_memory_eq
    (hTracks : before.Tracks base)
    (hMarks : before.world.Marks after.world)
    (hMemory : after.session.memory = before.session.memory)
    (hRooms :
      after.world.rooms.map Room.bare =
        before.world.rooms.map Room.bare)
    (hPuzzles :
      after.world.puzzles = before.world.puzzles) :
    after.Tracks base := by
  simp only [Session.memory, Prod.mk.injEq] at hMemory
  rcases hMemory with
    ⟨-, hSolved, hVisited, hOpened, hStates⟩
  apply hTracks.of_marks hMarks hStates
  · rw [hRooms, hTracks.rooms, hOpened, hVisited]
  · rw [hPuzzles, hTracks.puzzles, hSolved]

------------------------------------------------------------
-- Edits
------------------------------------------------------------

/- Rooms that are changed all over, with what is explored. -/
theorem Tracks.rooms_map
    (hTracks : before.Tracks base)
    {change : Room → Room}
    (hBare :
      ∀ room, (change room).bare = change room.bare)
    {opened visited : List String}
    (hExplored :
      ∀ room : Room,
        change
            (room.explored before.session.openedExits
              before.session.visitedRooms) =
          room.explored opened visited) :
    (before.world.rooms.map change).map Room.bare =
      base.rooms.map (fun room =>
        (room.explored opened visited).bare) := by
  have hSwap :
      (before.world.rooms.map change).map Room.bare =
        (before.world.rooms.map Room.bare).map change := by
    rw [List.map_map, List.map_map]
    apply List.map_congr_left
    intro room _
    exact hBare room
  rw [hSwap, hTracks.rooms, List.map_map]
  apply List.map_congr_left
  intro room _
  rw [Function.comp_apply, ← hBare, hExplored]

/- An opened exit is open in the world and remembered. -/
theorem Tracks.unlock
    (hTracks : before.Tracks base)
    (hCoherent : before.world.IsCoherent)
    {exit : String}
    {world : World}
    {blocked : Bool}
    (hUnblock :
      before.world.unblockExit exit = .ok (world, blocked)) :
    ({ world := world
       session := before.session.recordOpened exit }
      : Scene).Tracks base := by
  have hMemory := before.session.recordOpened_memory exit
  simp only [Session.memory, Prod.mk.injEq] at hMemory
  rcases hMemory with
    ⟨-, hSolved, hVisited, hOpened, hStates⟩
  have hPuzzles : world.puzzles = before.world.puzzles := by
    rcases (World.unblockExit_eq_ok_iff _).mp hUnblock with
      ⟨key, room, way, -, -, -, -, rfl⟩
    rfl
  apply hTracks.of_marks (World.unblockExit_marks hUnblock)
    hStates
  · rw [World.rooms_unblockExit hCoherent.roomIds hUnblock,
      hOpened, hVisited]
    apply hTracks.rooms_map
    · intro room
      exact room.openedBy_bare exit
    · intro room
      exact room.openedBy_explored _ _ exit
  · rw [hPuzzles, hTracks.puzzles, hSolved]

/- A visited room is visited in the world and remembered. -/
theorem Tracks.enter
    (hTracks : before.Tracks base)
    (hCoherent : before.world.IsCoherent)
    (id : String) :
    (before.enterRoom id).Tracks base := by
  have hMemory := memory_enterRoom before id
  simp only [Session.memory, Prod.mk.injEq] at hMemory
  rcases hMemory with
    ⟨-, hSolved, hVisited, hOpened, hStates⟩
  have hMarks :
      before.world.Marks (before.enterRoom id).world :=
    World.Marks.of_eq rfl rfl
  have hRooms :
      (before.enterRoom id).world.rooms =
        before.world.rooms.map (fun room =>
          room.visitedBy id) :=
    World.rooms_visit hCoherent.roomIds id
  apply hTracks.of_marks hMarks hStates
  · rw [hRooms, hOpened, hVisited]
    apply hTracks.rooms_map
    · intro room
      exact room.visitedBy_bare id
    · intro room
      exact room.visitedBy_explored _ _ id
  · rw [hSolved]
    exact hTracks.puzzles

/- A solved puzzle is solved in the world and remembered. -/
theorem Tracks.solve
    (hTracks : before.Tracks base)
    (hCoherent : before.world.IsCoherent)
    (puzzle : String) :
    (before.markSolved puzzle).Tracks base := by
  have hMarks :
      before.world.Marks (before.markSolved puzzle).world :=
    World.Marks.of_eq rfl rfl
  have hPuzzles :
      (before.world.markSolved puzzle).puzzles =
        base.puzzles.map (fun entry =>
          (before.session.solvedPuzzles ++ [puzzle]).foldl
            Puzzle.solvedBy entry) := by
    rw [World.puzzles_markSolved hCoherent.puzzleIds,
      hTracks.puzzles, List.map_map]
    apply List.map_congr_left
    intro entry _
    rw [List.foldl_append]
    rfl
  exact hTracks.of_marks hMarks rfl hTracks.rooms hPuzzles

/- A moved thing is marked. -/
theorem Tracks.place
    (hTracks : before.Tracks base)
    {id : String}
    {target : Placement}
    (hPlace : before.place id target = .ok after) :
    after.Tracks base := by
  rcases relocate_of_place hPlace with ⟨old, hRelocate⟩
  rcases World.relocate_eq_ok_iff.mp hRelocate with
    ⟨thing, hThing, -, -, hMoved⟩
  have hKnown : id ∈ Catalog.ids before.world.things :=
    (Catalog.has_eq_true_iff_mem_ids _ _).mp
      (Catalog.has_of_find? hThing)
  apply hTracks.of_memory_eq
  · rw [hMoved]
    exact World.moveTo_marks hKnown thing.placement target
  · exact memory_of_place hPlace
  · rw [hMoved]
    exact World.bare_rooms_moveTo id thing.placement target
  · rw [hMoved, World.moveTo_puzzles]

/- A changed thing is marked. -/
theorem Tracks.change
    (hTracks : before.Tracks base)
    {id : String}
    {change : Thing → Thing}
    (hId : ∀ thing, (change thing).id = thing.id)
    (hWorld :
      after.world = before.world.updateThing id change)
    (hMemory :
      after.session.memory = before.session.memory) :
    after.Tracks base := by
  apply hTracks.of_memory_eq
  · rw [hWorld]
    exact World.updateThing_marks before.world id hId
  · exact hMemory
  · rw [hWorld, World.updateThing_rooms]
  · rw [hWorld, World.updateThing_puzzles]

theorem Tracks.edit
    (hTracks : before.Tracks base)
    (hCoherent : before.world.IsCoherent)
    (hEdit : Edit may before after) :
    after.Tracks base := by
  cases hEdit with
  | place id target hPlace => exact hTracks.place hPlace
  | putOn id hCarried =>
      refine hTracks.change ?_ (setWorn_world before id true)
        (memory_setWorn before id true)
      intro thing
      rfl
  | takeOff id =>
      refine hTracks.change ?_ (setWorn_world before id false)
        (memory_setWorn before id false)
      intro thing
      rfl
  | write id field? value hMay =>
      exact hTracks.change (by simp) rfl rfl
  | unlock exit hUnblock =>
      exact hTracks.unlock hCoherent hUnblock
  | enter room => exact hTracks.enter hCoherent room
  | flag flag value hMay =>
      exact
        { thingIds := hTracks.thingIds
          known := hTracks.known
          states := hTracks.states
          rooms := hTracks.rooms
          puzzles := hTracks.puzzles }
  | condition state suspended =>
      exact hTracks.of_memory_eq
        (World.Marks.of_eq rfl rfl) rfl rfl rfl
  | solve puzzle => exact hTracks.solve hCoherent puzzle

/- Coherence goes along, as the edits rely on it. -/
theorem Tracks.edits
    (hTracks : before.Tracks base)
    (hCoherent : before.world.IsCoherent)
    (hEdits : Edits may before after) :
    after.Tracks base := by
  induction hEdits with
  | refl => exact hTracks
  | tail hFirst hLast ih =>
      exact ih.edit (coherent_edits hCoherent hFirst) hLast

end Scene

end TextAdventure
