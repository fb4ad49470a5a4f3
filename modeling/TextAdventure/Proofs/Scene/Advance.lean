import TextAdventure.Proofs.Scene.Memory
import TextAdventure.Proofs.World.Progress

/-
  Scenes only advance.

  Play leaves all that content has written as it is: no room,
  thing, puzzle or script comes, goes or takes another place,
  and their texts and rules stay. What it makes of them goes
  one way only, from blocked to free, from unvisited to
  visited and from unsolved to solved, and what a session
  remembers is added to and never forgotten.

  Main declarations:
    * `Room.Unfolds`
    * `Session.Recalls`
    * `Scene.Advances`
    * `Scene.Edit.advances`
    * `Scene.Edits.advances`
-/

namespace TextAdventure

------------------------------------------------------------
-- Entities
------------------------------------------------------------

/- An exit that is at most unblocked. -/
structure Exit.Unfolds (before after : Exit) : Prop where
  static : { after with blocked := before.blocked } = before
  blocked : after.blocked = true → before.blocked = true

/-
  A room that is at most visited, with exits that are at most
  unblocked; what it lists may differ.
-/
structure Room.Unfolds (before after : Room) : Prop where
  static :
    { after with
        visited := before.visited
        exits := before.exits
        things := before.things } = before
  visited : before.visited = true → after.visited = true
  exits : List.Forall₂ Exit.Unfolds before.exits after.exits

/- A puzzle that is at most solved. -/
structure Puzzle.Unfolds (before after : Puzzle) : Prop where
  static : { after with solved := before.solved } = before
  solved : before.solved = true → after.solved = true

namespace Exit

theorem Unfolds.refl (exit : Exit) : exit.Unfolds exit where
  static := rfl
  blocked := fun hBlocked => hBlocked

theorem Unfolds.trans
    {before middle after : Exit}
    (hFirst : before.Unfolds middle)
    (hSecond : middle.Unfolds after) :
    before.Unfolds after where
  static := by
    have hMiddle := hFirst.static
    rw [← hSecond.static] at hMiddle
    exact hMiddle
  blocked := hFirst.blocked ∘ hSecond.blocked

theorem unfolds_unblocked (exit : Exit) :
    exit.Unfolds exit.unblocked where
  static := rfl
  blocked := by simp [unblocked]

end Exit

namespace Room

theorem Unfolds.refl (room : Room) : room.Unfolds room where
  static := rfl
  visited := fun hVisited => hVisited
  exits :=
    List.forall₂_same.mpr (fun exit _ => Exit.Unfolds.refl exit)

theorem Unfolds.trans
    {before middle after : Room}
    (hFirst : before.Unfolds middle)
    (hSecond : middle.Unfolds after) :
    before.Unfolds after where
  static := by
    have hMiddle := hFirst.static
    rw [← hSecond.static] at hMiddle
    exact hMiddle
  visited := hSecond.visited ∘ hFirst.visited
  exits :=
    Catalog.forall₂_trans
      (fun _ _ _ hOne hTwo => hOne.trans hTwo)
      hFirst.exits hSecond.exits

/- Rooms that differ in their listings only. -/
theorem unfolds_of_bare_eq
    {before after : Room}
    (hBare : after.bare = before.bare) :
    before.Unfolds after := by
  have hStatic :
      { after with things := before.things } = before :=
    congrArg
      (fun room : Room => { room with things := before.things })
      hBare
  have hVisited : after.visited = before.visited := by
    have hSame := congrArg Room.visited hBare
    exact hSame
  have hExits : after.exits = before.exits := by
    have hSame := congrArg Room.exits hBare
    exact hSame
  exact
    { static := by
        rw [← hVisited, ← hExits]
        exact hStatic
      visited := fun hBefore => hVisited.trans hBefore
      exits := by
        rw [hExits, List.forall₂_same]
        exact fun exit _ => Exit.Unfolds.refl exit }

theorem unfolds_visited (room : Room) :
    room.Unfolds { room with visited := true } where
  static := rfl
  visited := fun _ => rfl
  exits :=
    List.forall₂_same.mpr (fun exit _ => Exit.Unfolds.refl exit)

/- Unblocking one exit leaves the others as they are. -/
theorem unfolds_updateExit
    (room : Room)
    (direction : Direction) :
    room.Unfolds
      (room.updateExit direction Exit.unblocked) where
  static := rfl
  visited := fun hVisited => hVisited
  exits := by
    have hExits (exits : List Exit) :
        List.Forall₂ Exit.Unfolds exits
          (updateFirstExit direction Exit.unblocked exits) := by
      induction exits with
      | nil => exact .nil
      | cons exit rest ih =>
          unfold updateFirstExit
          split
          · exact .cons exit.unfolds_unblocked
              (List.forall₂_same.mpr
                (fun other _ => Exit.Unfolds.refl other))
          · exact .cons (Exit.Unfolds.refl exit) ih
    exact hExits room.exits

end Room

namespace Puzzle

theorem Unfolds.refl (puzzle : Puzzle) :
    puzzle.Unfolds puzzle where
  static := rfl
  solved := fun hSolved => hSolved

theorem Unfolds.trans
    {before middle after : Puzzle}
    (hFirst : before.Unfolds middle)
    (hSecond : middle.Unfolds after) :
    before.Unfolds after where
  static := by
    have hMiddle := hFirst.static
    rw [← hSecond.static] at hMiddle
    exact hMiddle
  solved := hSecond.solved ∘ hFirst.solved

theorem unfolds_solved (puzzle : Puzzle) :
    puzzle.Unfolds { puzzle with solved := true } where
  static := rfl
  solved := fun _ => rfl

end Puzzle

------------------------------------------------------------
-- Worlds
------------------------------------------------------------

/- A world whose entities unfold, each in its place. -/
structure World.Unfolds (before after : World) : Prop where
  rules : after.rules = before.rules
  scripts : after.scripts = before.scripts
  words :
    after.things.map Thing.words =
      before.things.map Thing.words
  rooms : List.Forall₂ Room.Unfolds before.rooms after.rooms
  puzzles :
    List.Forall₂ Puzzle.Unfolds before.puzzles after.puzzles

namespace World

variable {before after : World}

theorem Unfolds.of_rooms
    (hPlot : after.rules = before.rules ∧
      after.scripts = before.scripts ∧
        after.puzzles = before.puzzles)
    (hWords :
      after.things.map Thing.words =
        before.things.map Thing.words)
    (hRooms :
      List.Forall₂ Room.Unfolds before.rooms after.rooms) :
    before.Unfolds after where
  rules := hPlot.1
  scripts := hPlot.2.1
  words := hWords
  rooms := hRooms
  puzzles := by
    rw [hPlot.2.2, List.forall₂_same]
    exact fun puzzle _ => Puzzle.Unfolds.refl puzzle

theorem Unfolds.refl (world : World) : world.Unfolds world :=
  .of_rooms ⟨rfl, rfl, rfl⟩ rfl
    (List.forall₂_same.mpr
      (fun room _ => Room.Unfolds.refl room))

theorem Unfolds.trans
    {middle : World}
    (hFirst : before.Unfolds middle)
    (hSecond : middle.Unfolds after) :
    before.Unfolds after where
  rules := hSecond.rules.trans hFirst.rules
  scripts := hSecond.scripts.trans hFirst.scripts
  words := hSecond.words.trans hFirst.words
  rooms :=
    Catalog.forall₂_trans
      (fun _ _ _ hOne hTwo => hOne.trans hTwo)
      hFirst.rooms hSecond.rooms
  puzzles :=
    Catalog.forall₂_trans
      (fun _ _ _ hOne hTwo => hOne.trans hTwo)
      hFirst.puzzles hSecond.puzzles

/- A change of a thing that keeps its words. -/
theorem unfolds_updateThing
    (world : World)
    (id : String)
    {change : Thing → Thing}
    (hWords : ∀ thing, (change thing).words = thing.words) :
    world.Unfolds (world.updateThing id change) :=
  .of_rooms (by simp)
    (map_things_updateThing world hWords id)
    (by
      rw [updateThing_rooms, List.forall₂_same]
      exact fun room _ => Room.Unfolds.refl room)

theorem unfolds_relocate
    {id : String}
    {target old : Placement}
    (hOk : before.relocate id target = .ok (after, old)) :
    before.Unfolds after := by
  have hWords :
      after.things.map Thing.words =
        before.things.map Thing.words :=
    map_things_relocate (fun _ _ => rfl) hOk
  rcases relocate_eq_ok_iff.mp hOk with ⟨thing, -, -, -, rfl⟩
  refine .of_rooms (by simp) hWords ?_
  exact (Catalog.forall₂_of_map_eq
    (bare_rooms_moveTo id _ target)).imp
      (fun _ _ => Room.unfolds_of_bare_eq)

theorem unfolds_updateRoom
    (world : World)
    (id : String)
    {change : Room → Room}
    (hUnfolds : ∀ room : Room, room.Unfolds (change room)) :
    world.Unfolds (world.updateRoom id change) :=
  .of_rooms ⟨rfl, rfl, rfl⟩ rfl
    (Catalog.forall₂_update
      (fun room _ => Room.Unfolds.refl room)
      (fun room _ _ => hUnfolds room))

theorem unfolds_unblockExit
    {text : String}
    {blocked : Bool}
    (hOk : before.unblockExit text = .ok (after, blocked)) :
    before.Unfolds after := by
  rcases (unblockExit_eq_ok_iff before).mp hOk with
    ⟨key, -, -, -, -, -, -, rfl⟩
  exact unfolds_updateRoom before key.room
    (fun room => room.unfolds_updateExit key.direction)

theorem unfolds_markSolved (world : World) (id : String) :
    world.Unfolds (world.markSolved id) where
  rules := rfl
  scripts := rfl
  words := rfl
  rooms :=
    List.forall₂_same.mpr
      (fun room _ => Room.Unfolds.refl room)
  puzzles :=
    Catalog.forall₂_update
      (fun puzzle _ => Puzzle.Unfolds.refl puzzle)
      (fun puzzle _ _ => puzzle.unfolds_solved)

end World

------------------------------------------------------------
-- Sessions
------------------------------------------------------------

/-
  A session that remembers all that another one does, in the
  same order and with what is new after it. Opened exits and
  visited rooms are remembered once.
-/
structure Session.Recalls (before after : Session) : Prop where
  solved : before.solvedPuzzles <+: after.solvedPuzzles
  opened : before.openedExits <+: after.openedExits
  visited : before.visitedRooms <+: after.visitedRooms
  openedNodup :
    before.openedExits.Nodup → after.openedExits.Nodup
  visitedNodup :
    before.visitedRooms.Nodup → after.visitedRooms.Nodup
  flags :
    ∀ key, (before.flags.get? key).isSome →
      (after.flags.get? key).isSome
  states :
    ∀ key, (before.thingStates.get? key).isSome →
      (after.thingStates.get? key).isSome

/- A key that is there stays there when another is written. -/
theorem Dict.isSome_get?_insert
    {α : Type}
    {dict : Dict α}
    {key : String}
    (hKey : (dict.get? key).isSome)
    (other : String)
    (value : α) :
    ((dict.insert other value).get? key).isSome := by
  by_cases hSame : key = other
  · rw [hSame, Dict.get?_insert_self]
    rfl
  · rw [Dict.get?_insert_of_ne dict hSame value]
    exact hKey

namespace Session

variable {before after : Session}

theorem Recalls.refl (session : Session) :
    session.Recalls session where
  solved := List.prefix_refl _
  opened := List.prefix_refl _
  visited := List.prefix_refl _
  openedNodup := fun hNodup => hNodup
  visitedNodup := fun hNodup => hNodup
  flags := fun _ hKey => hKey
  states := fun _ hKey => hKey

theorem Recalls.trans
    {middle : Session}
    (hFirst : before.Recalls middle)
    (hSecond : middle.Recalls after) :
    before.Recalls after where
  solved := hFirst.solved.trans hSecond.solved
  opened := hFirst.opened.trans hSecond.opened
  visited := hFirst.visited.trans hSecond.visited
  openedNodup := hSecond.openedNodup ∘ hFirst.openedNodup
  visitedNodup := hSecond.visitedNodup ∘ hFirst.visitedNodup
  flags := fun key => hSecond.flags key ∘ hFirst.flags key
  states := fun key => hSecond.states key ∘ hFirst.states key

/- At most more rooms and exits are remembered. -/
theorem recalls_of_memory
    (visited opened : List String)
    (hMemory :
      after.memory =
        (before.flags, before.solvedPuzzles,
          gather before.visitedRooms visited,
          gather before.openedExits opened,
          before.thingStates)) :
    before.Recalls after := by
  simp only [memory, Prod.mk.injEq] at hMemory
  rcases hMemory with
    ⟨hFlags, hSolved, hVisited, hOpened, hStates⟩
  exact
    { solved := by rw [hSolved]
      opened := by
        rw [hOpened, gather_eq_append]
        exact List.prefix_append _ _
      visited := by
        rw [hVisited, gather_eq_append]
        exact List.prefix_append _ _
      openedNodup := by
        intro hNodup
        rw [hOpened]
        exact nodup_gather hNodup opened
      visitedNodup := by
        intro hNodup
        rw [hVisited]
        exact nodup_gather hNodup visited
      flags := by
        rw [hFlags]
        exact fun _ hKey => hKey
      states := by
        rw [hStates]
        exact fun _ hKey => hKey }

theorem recalls_of_memory_eq
    (hMemory : after.memory = before.memory) :
    before.Recalls after :=
  recalls_of_memory [] [] hMemory

end Session

------------------------------------------------------------
-- Scenes
------------------------------------------------------------

/- A scene whose world unfolds and whose session recalls. -/
structure Scene.Advances (before after : Scene) : Prop where
  world : before.world.Unfolds after.world
  session : before.session.Recalls after.session

namespace Scene

variable {may : Value → Prop}
variable {before after : Scene}

theorem Advances.refl (scene : Scene) :
    scene.Advances scene :=
  ⟨.refl scene.world, .refl scene.session⟩

theorem Advances.trans
    {middle : Scene}
    (hFirst : before.Advances middle)
    (hSecond : middle.Advances after) :
    before.Advances after :=
  ⟨hFirst.world.trans hSecond.world,
    hFirst.session.trans hSecond.session⟩

/- Every edit advances a scene, whatever it writes. -/
theorem Edit.advances
    (hEdit : Edit may before after) :
    before.Advances after := by
  cases hEdit with
  | place id target hPlace =>
      rcases relocate_of_place hPlace with ⟨old, hRelocate⟩
      exact ⟨World.unfolds_relocate hRelocate,
        Session.recalls_of_memory_eq
          (memory_of_place hPlace)⟩
  | putOn id hCarried =>
      refine ⟨?_, Session.recalls_of_memory_eq
        (memory_setWorn before id true)⟩
      rw [setWorn_world]
      exact World.unfolds_updateThing _ id (fun _ => rfl)
  | takeOff id =>
      refine ⟨?_, Session.recalls_of_memory_eq
        (memory_setWorn before id false)⟩
      rw [setWorn_world]
      exact World.unfolds_updateThing _ id (fun _ => rfl)
  | write id field? value hMay =>
      exact ⟨World.unfolds_updateThing _ id
          (Thing.words_written field? value),
        .refl before.session⟩
  | unlock exit hUnblock =>
      exact ⟨World.unfolds_unblockExit hUnblock,
        Session.recalls_of_memory [] [exit]
          (before.session.recordOpened_memory exit)⟩
  | enter room =>
      exact ⟨World.unfolds_updateRoom _ room
          Room.unfolds_visited,
        Session.recalls_of_memory [room] []
          (memory_enterRoom before room)⟩
  | flag flag value hMay =>
      refine ⟨.refl before.world, ?_⟩
      exact
        { Session.Recalls.refl before.session with
          flags := fun _ hKey =>
            Dict.isSome_get?_insert hKey flag value }
  | condition state suspended =>
      exact ⟨.refl before.world,
        Session.recalls_of_memory_eq rfl⟩
  | solve puzzle =>
      refine ⟨World.unfolds_markSolved _ puzzle, ?_⟩
      exact
        { Session.Recalls.refl before.session with
          solved := List.prefix_append _ _ }

/- So a run of edits advances it. -/
theorem Edits.advances
    (hEdits : Edits may before after) :
    before.Advances after := by
  induction hEdits with
  | refl => exact .refl before
  | tail _ hLast ih => exact ih.trans hLast.advances

end Scene

end TextAdventure
