import TextAdventure.Proofs.Distinct
import TextAdventure.Proofs.World.Relocation
import TextAdventure.Thing.State

/-
  The progress that a world has made: which rooms are
  visited, which exits are open, which puzzles are solved and
  in which state the things are.

  Visits, opened exits and solved puzzles only add up, so the
  lists of them say what rooms and puzzles have become, in
  any order and with any repetitions. Every change of a thing
  is marked.

  Main declarations:
    * `World.SameProgress`
    * `World.Marks`
    * `World.rooms_unblockExit`
    * `World.rooms_visit`
    * `World.puzzles_markSolved`
-/

namespace TextAdventure

------------------------------------------------------------
-- Rooms
------------------------------------------------------------

namespace Room

/- A room without its listing. -/
def bare (room : Room) : Room :=
  { room with things := [] }

@[simp] theorem bare_id (room : Room) :
    room.bare.id = room.id := rfl

/- A room with the exit unblocked that a text names. -/
def openedBy (room : Room) (text : String) : Room :=
  match ExitKey.ofText? text with
  | some key =>
      if key.room = room.id then
        room.updateExit key.direction Exit.unblocked
      else
        room
  | none => room

/- A room visited if it has an id. -/
def visitedBy (room : Room) (id : String) : Room :=
  { room with visited := room.visited || room.id == id }

/- A room after exits were opened and rooms visited. -/
def explored
    (opened visited : List String)
    (room : Room) : Room :=
  visited.foldl visitedBy (opened.foldl openedBy room)

------------------------------------------------------------
-- Opened Exits
------------------------------------------------------------

theorem updateFirstExit_comm
    (left right : Direction)
    (exits : List Exit) :
    updateFirstExit left Exit.unblocked
        (updateFirstExit right Exit.unblocked exits) =
      updateFirstExit right Exit.unblocked
        (updateFirstExit left Exit.unblocked exits) := by
  induction exits with
  | nil => rfl
  | cons exit rest ih =>
      by_cases hLeft : exit.direction = left <;>
        by_cases hRight : exit.direction = right <;>
          simp_all [updateFirstExit, Exit.unblocked]

theorem updateFirstExit_idem
    (direction : Direction)
    (exits : List Exit) :
    updateFirstExit direction Exit.unblocked
        (updateFirstExit direction Exit.unblocked exits) =
      updateFirstExit direction Exit.unblocked exits := by
  induction exits with
  | nil => rfl
  | cons exit rest ih =>
      by_cases hDirection : exit.direction = direction <;>
        simp_all [updateFirstExit, Exit.unblocked]

/- Without an exit in a direction there is none to change. -/
theorem updateFirstExit_eq_self
    {direction : Direction}
    {exits : List Exit}
    (hNone :
      exits.find? (fun exit =>
        exit.direction == direction) = none)
    (change : Exit → Exit) :
    updateFirstExit direction change exits = exits := by
  induction exits with
  | nil => rfl
  | cons exit rest ih =>
      have hParts :
          exit.direction ≠ direction ∧
            rest.find? (fun exit =>
              exit.direction == direction) = none := by
        simpa using hNone
      simp [updateFirstExit, hParts.1, ih hParts.2]

variable (room : Room)

@[simp] theorem openedBy_id (text : String) :
    (room.openedBy text).id = room.id := by
  unfold openedBy
  split
  · split <;> rfl
  · rfl

theorem openedBy_bare (text : String) :
    (room.openedBy text).bare = room.bare.openedBy text := by
  unfold openedBy
  split
  · rename_i key hKey
    by_cases hRoom : key.room = room.id <;>
      simp [bare, updateExit, hRoom]
  · rfl

theorem openedBy_comm (first second : String) :
    (room.openedBy first).openedBy second =
      (room.openedBy second).openedBy first := by
  unfold openedBy
  cases ExitKey.ofText? first with
  | none => rfl
  | some one =>
      cases ExitKey.ofText? second with
      | none => rfl
      | some two =>
          by_cases hOne : one.room = room.id <;>
            by_cases hTwo : two.room = room.id <;>
              simp [hOne, hTwo, updateExit,
                updateFirstExit_comm one.direction]

theorem openedBy_idem (text : String) :
    (room.openedBy text).openedBy text =
      room.openedBy text := by
  unfold openedBy
  cases ExitKey.ofText? text with
  | none => rfl
  | some key =>
      by_cases hRoom : key.room = room.id <;>
        simp [hRoom, updateExit, updateFirstExit_idem]

------------------------------------------------------------
-- Visits
------------------------------------------------------------

theorem visitedBy_bare (id : String) :
    (room.visitedBy id).bare = room.bare.visitedBy id := rfl

theorem visitedBy_comm (first second : String) :
    (room.visitedBy first).visitedBy second =
      (room.visitedBy second).visitedBy first := by
  simp [visitedBy, Bool.or_right_comm]

theorem visitedBy_idem (id : String) :
    (room.visitedBy id).visitedBy id = room.visitedBy id := by
  simp [visitedBy]

theorem openedBy_visitedBy (id text : String) :
    (room.visitedBy id).openedBy text =
      (room.openedBy text).visitedBy id := by
  unfold openedBy
  cases ExitKey.ofText? text with
  | none => rfl
  | some key =>
      by_cases hRoom : key.room = room.id <;>
        simp [hRoom, visitedBy, updateExit]

------------------------------------------------------------
-- Explored Rooms
------------------------------------------------------------

@[simp] theorem foldl_openedBy_id (opened : List String) :
    (opened.foldl openedBy room).id = room.id := by
  induction opened generalizing room with
  | nil => rfl
  | cons text rest ih => rw [List.foldl_cons, ih, openedBy_id]

@[simp] theorem explored_id
    (opened visited : List String) :
    (room.explored opened visited).id = room.id := by
  have hVisited :
      ∀ room : Room,
        (visited.foldl visitedBy room).id = room.id := by
    induction visited with
    | nil => exact fun _ => rfl
    | cons id rest ih => exact fun room => ih _
  rw [explored, hVisited, foldl_openedBy_id]

theorem explored_bare (opened visited : List String) :
    (room.explored opened visited).bare =
      room.bare.explored opened visited := by
  unfold explored
  rw [foldl_comm visitedBy bare visitedBy_bare,
    foldl_comm openedBy bare openedBy_bare]

/- Opening one more exit. -/
theorem openedBy_explored
    (opened visited : List String)
    (text : String) :
    (room.explored opened visited).openedBy text =
      room.explored (gather opened [text]) visited := by
  have hPull :
      (room.explored opened visited).openedBy text =
        visited.foldl visitedBy
          ((opened.foldl openedBy room).openedBy text) :=
    foldl_comm visitedBy (fun room => room.openedBy text)
      (fun room id => openedBy_visitedBy room id text) _ _
  rw [hPull, explored,
    foldl_gather_singleton openedBy_comm openedBy_idem]

/- Visiting one more room. -/
theorem visitedBy_explored
    (opened visited : List String)
    (id : String) :
    (room.explored opened visited).visitedBy id =
      room.explored opened (gather visited [id]) := by
  unfold explored
  rw [foldl_gather_singleton visitedBy_comm visitedBy_idem]

end Room

------------------------------------------------------------
-- Puzzles
------------------------------------------------------------

/- A puzzle solved if it has an id. -/
def Puzzle.solvedBy (puzzle : Puzzle) (id : String) : Puzzle :=
  { puzzle with solved := puzzle.solved || puzzle.id == id }

namespace World

variable {world : World}

------------------------------------------------------------
-- Changes All Over
------------------------------------------------------------

theorem puzzles_markSolved
    (hIds : (Catalog.ids world.puzzles).Nodup)
    (id : String) :
    (world.markSolved id).puzzles =
      world.puzzles.map (fun puzzle => puzzle.solvedBy id) := by
  unfold markSolved
  rw [Catalog.update_eq_map hIds]
  apply List.map_congr_left
  intro puzzle _
  by_cases hId : puzzle.id = id
  · simp [Puzzle.solvedBy, hId]
  · have hOther : (puzzle.id == id) = false := by
      simpa using hId
    simp [Puzzle.solvedBy, hId, hOther]

theorem rooms_visit
    (hIds : (Catalog.ids world.rooms).Nodup)
    (id : String) :
    (world.visit id).rooms =
      world.rooms.map (fun room => room.visitedBy id) := by
  unfold visit updateRoom
  rw [Catalog.update_eq_map hIds]
  apply List.map_congr_left
  intro room _
  by_cases hId : room.id = id
  · simp [Room.visitedBy, hId]
  · have hOther : (room.id == id) = false := by
      simpa using hId
    simp [Room.visitedBy, hId, hOther]

theorem rooms_unblockExit
    (hIds : (Catalog.ids world.rooms).Nodup)
    {text : String}
    {after : World}
    {blocked : Bool}
    (hOk : world.unblockExit text = .ok (after, blocked)) :
    after.rooms =
      world.rooms.map (fun room => room.openedBy text) := by
  rcases (unblockExit_eq_ok_iff world).mp hOk with
    ⟨key, room, exit, hKey, -, -, -, rfl⟩
  have hRooms :
      (world.updateRoom key.room (fun room =>
          room.updateExit key.direction
            Exit.unblocked)).rooms =
        world.rooms.map (fun room =>
          if Identified.idOf room = key.room then
            room.updateExit key.direction Exit.unblocked
          else
            room) :=
    Catalog.update_eq_map hIds _ _
  rw [hRooms]
  apply List.map_congr_left
  intro room _
  simp [Room.openedBy, hKey, eq_comm]

/- A text that names no exit of the world opens none. -/
theorem rooms_of_unblockExit_eq_error
    (hIds : (Catalog.ids world.rooms).Nodup)
    {text : String}
    {fault : WorldFault}
    (hError : world.unblockExit text = .error fault) :
    world.rooms.map (fun room => room.openedBy text) =
      world.rooms := by
  refine (List.map_congr_left ?_).trans
    (List.map_id' world.rooms)
  intro room hMem
  unfold Room.openedBy
  split
  · rename_i key hKey
    split
    · rename_i hRoom
      have hFind : world.room? key.room = some room :=
        (Catalog.find?_eq_some_iff hIds).mpr
          ⟨hMem, hRoom.symm⟩
      cases hExit : room.exit? key.direction with
      | none =>
          unfold Room.updateExit
          rw [Room.updateFirstExit_eq_self hExit]
      | some exit =>
          simp [unblockExit, hKey, hFind, hExit] at hError
    · rfl
  · rfl

/- Moving a thing changes nothing of a room but listings. -/
theorem bare_rooms_moveTo
    (id : String)
    (origin target : Placement) :
    (world.moveTo id origin target).rooms.map Room.bare =
      world.rooms.map Room.bare := by
  have hUnlisted :
      (unlistFrom id world.rooms origin).map Room.bare =
        world.rooms.map Room.bare := by
    cases origin with
    | room old =>
        apply Catalog.map_update
        intro room _
        rfl
    | container | carried | nowhere => rfl
  have hListed :
      (listAt id (unlistFrom id world.rooms origin)
          target).map Room.bare =
        (unlistFrom id world.rooms origin).map
          Room.bare := by
    cases target with
    | room new =>
        apply Catalog.map_update
        intro room _
        unfold Room.list
        split <;> rfl
    | container | carried | nowhere => rfl
  rw [moveTo_rooms, hListed, hUnlisted]

------------------------------------------------------------
-- Marked Changes
------------------------------------------------------------

/-
  What becomes of a world while every change of a thing is
  marked: what is not marked was not changed.
-/
structure Marks (before after : World) : Prop where
  thingIds :
    Catalog.ids after.things = Catalog.ids before.things
  known :
    ∀ id ∈ after.changed,
      id ∈ before.changed ∨ id ∈ Catalog.ids before.things
  kept :
    ∀ id, id ∉ after.changed →
      id ∉ before.changed ∧
        after.thing? id = before.thing? id

theorem Marks.of_eq
    {before after : World}
    (hThings : after.things = before.things)
    (hChanged : after.changed = before.changed) :
    Marks before after where
  thingIds := by rw [hThings]
  known := by
    intro id hMem
    rw [hChanged] at hMem
    exact Or.inl hMem
  kept := by
    intro id hNew
    rw [hChanged] at hNew
    exact ⟨hNew, by rw [thing?, hThings, thing?]⟩

theorem updateThing_marks
    (world : World)
    (id : String)
    {change : Thing → Thing}
    (hId : ∀ thing, (change thing).id = thing.id) :
    Marks world (world.updateThing id change) := by
  unfold updateThing
  split
  · rename_i hKnown
    rw [Catalog.has_eq_true_iff_mem_ids] at hKnown
    refine
      { thingIds := ?_
        known := ?_
        kept := ?_ }
    · rw [markChanged_things]
      exact Catalog.ids_update hId world.things
    · intro other hMem
      rcases (mem_markChanged_iff _ _ _).mp hMem with
        rfl | hOld
      · exact Or.inr hKnown
      · exact Or.inl hOld
    · intro other hNew
      rw [mem_markChanged_iff, not_or] at hNew
      refine ⟨hNew.2, ?_⟩
      rw [thing?, markChanged_things]
      exact Catalog.find?_update_of_ne hId hNew.1 _
  · exact Marks.of_eq rfl rfl

theorem moveTo_marks
    {id : String}
    (hKnown : id ∈ Catalog.ids world.things)
    (origin target : Placement) :
    Marks world (world.moveTo id origin target) where
  thingIds := ids_moveTo_things id origin target
  known := by
    intro other hMem
    rcases (mem_moveTo_changed_iff _ _ _ _).mp hMem with
      rfl | hOld
    · exact Or.inr hKnown
    · exact Or.inl hOld
  kept := by
    intro other hNew
    rw [mem_moveTo_changed_iff, not_or] at hNew
    exact ⟨hNew.2, thing?_moveTo_of_ne hNew.1 origin target⟩

theorem unblockExit_marks
    {text : String}
    {after : World}
    {blocked : Bool}
    (hOk : world.unblockExit text = .ok (after, blocked)) :
    Marks world after := by
  rcases (unblockExit_eq_ok_iff world).mp hOk with
    ⟨key, room, exit, -, -, -, -, rfl⟩
  exact Marks.of_eq rfl rfl

------------------------------------------------------------
-- Progress
------------------------------------------------------------

/-
  Two worlds are alike in all that play changes: the states
  of the things, the rooms but for the order in which they
  list things, and the puzzles.
-/
structure SameProgress (left right : World) : Prop where
  things :
    left.things.map (fun thing =>
        (thing.id, ThingState.capture thing)) =
      right.things.map (fun thing =>
        (thing.id, ThingState.capture thing))
  rooms : left.rooms.map Room.bare = right.rooms.map Room.bare
  puzzles : left.puzzles = right.puzzles

namespace SameProgress

variable {left right : World}

/- Things of one state are at one place. -/
theorem places_iff
    (hSame : left.SameProgress right)
    (id : String)
    (placement : Placement) :
    left.Places id placement ↔ right.Places id placement := by
  have hStates :
      ∀ world : World,
        world.Places id placement ↔
          ∃ entry ∈ world.things.map (fun thing =>
              (thing.id, ThingState.capture thing)),
            entry.1 = id ∧ entry.2.placement = placement := by
    intro world
    simp [Places, ThingState.capture]
  rw [hStates, hStates, hSame.things]

/- Things of one state are worn together. -/
theorem wears_iff
    (hSame : left.SameProgress right)
    (id : String) :
    left.Wears id ↔ right.Wears id := by
  have hStates :
      ∀ world : World,
        world.Wears id ↔
          ∃ entry ∈ world.things.map (fun thing =>
              (thing.id, ThingState.capture thing)),
            entry.1 = id ∧ entry.2.isWorn = true := by
    intro world
    simp [Wears, ThingState.capture]
  rw [hStates, hStates, hSame.things]

end SameProgress

end World

end TextAdventure
