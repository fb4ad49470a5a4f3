import TextAdventure.Proofs.Game.Deeds
import TextAdventure.Proofs.World.Progress

/-
  How the player comes from one room to another.

  Only three verbs lead anywhere: going through an exit that
  is usable, falling asleep and waking up. Whatever else
  happens in a turn, be it the work of another verb or the
  deeds of scripts and puzzles, leaves the whereabouts of the
  player as they are.

  Main declarations:
    * `Scene.whereabouts`
    * `Scene.Touches.whereabouts`
    * `Scene.whereabouts_undergoAll`
    * `Scene.Leads`
    * `Scene.Works.whereabouts_or_enters`
    * `Game.moved_only_where_led`
-/

namespace TextAdventure

------------------------------------------------------------
-- Whereabouts
------------------------------------------------------------

/- A room without its listing and its exits. -/
def Room.ground (room : Room) : Room :=
  { room.bare with exits := [] }

theorem Room.ground_bare (room : Room) :
    room.bare.ground = room.ground := rfl

namespace Scene

/-
  The room the player is in, the one before it and all that
  were visited, and the rooms with their marks of visits.
-/
def whereabouts (scene : Scene) :
    String × Option String × List String × List Room :=
  (scene.session.currentRoom, scene.session.previousRoom,
    scene.session.visitedRooms,
    scene.world.rooms.map Room.ground)

variable {scene before after : Scene}
variable {command : Command}

theorem currentRoom_of_whereabouts_eq
    (hSame : after.whereabouts = before.whereabouts) :
    after.session.currentRoom = before.session.currentRoom :=
  congrArg (fun view => view.1) hSame

theorem previousRoom_of_whereabouts_eq
    (hSame : after.whereabouts = before.whereabouts) :
    after.session.previousRoom =
      before.session.previousRoom :=
  congrArg (fun view => view.2.1) hSame

@[simp] theorem whereabouts_updateThing
    (scene : Scene)
    (id : String)
    (change : Thing → Thing) :
    (scene.updateThing id change).whereabouts =
      scene.whereabouts := by
  simp [whereabouts, updateThing]

@[simp] theorem whereabouts_afterUnworn
    (scene : Scene)
    (thing : String) :
    (scene.afterUnworn thing).whereabouts =
      scene.whereabouts := by
  unfold afterUnworn
  split <;> rfl

@[simp] theorem whereabouts_setWorn
    (scene : Scene)
    (thing : String)
    (worn : Bool) :
    (scene.setWorn thing worn).whereabouts =
      scene.whereabouts := by
  cases worn with
  | true =>
      rw [← whereabouts_updateThing scene thing
        (fun thing => { thing with isWorn := true })]
      simp only [setWorn, if_true, Session.putOn]
      split <;> rfl
  | false =>
      rw [← whereabouts_updateThing scene thing
        (fun thing => { thing with isWorn := false })]
      exact whereabouts_afterUnworn _ thing

theorem whereabouts_of_place
    {id : String}
    {target : Placement}
    (hPlace : before.place id target = .ok after) :
    after.whereabouts = before.whereabouts := by
  have hRooms :
      after.world.rooms.map Room.ground =
        before.world.rooms.map Room.ground := by
    rcases relocate_of_place hPlace with ⟨old, hRelocate⟩
    rcases World.relocate_eq_ok_iff.mp hRelocate with
      ⟨thing, -, -, -, hMoved⟩
    have hBare :
        after.world.rooms.map Room.bare =
          before.world.rooms.map Room.bare := by
      rw [hMoved]
      exact World.bare_rooms_moveTo id _ target
    have hGround := congrArg (List.map Room.ground) hBare
    simpa [Function.comp_def, Room.ground_bare] using hGround
  have hSession :
      (after.session.currentRoom, after.session.previousRoom,
          after.session.visitedRooms) =
        (before.session.currentRoom,
          before.session.previousRoom,
          before.session.visitedRooms) := by
    unfold place at hPlace
    split at hPlace
    · simp at hPlace
    · split at hPlace
      · cases hPlace
        simp only [Session.addItem]
        split <;> rfl
      · dsimp only at hPlace
        split at hPlace
        · cases hPlace
          unfold afterUnworn
          split <;> rfl
        · cases hPlace
          rfl
  simp only [Prod.mk.injEq] at hSession
  simp [whereabouts, hRooms, hSession]

theorem whereabouts_unlock
    {world : World}
    {exit : String}
    {blocked : Bool}
    (hUnblock :
      scene.world.unblockExit exit = .ok (world, blocked)) :
    ({ world := world
       session := scene.session.recordOpened exit }
      : Scene).whereabouts = scene.whereabouts := by
  rcases (World.unblockExit_eq_ok_iff _).mp hUnblock with
    ⟨key, -, -, -, -, -, -, rfl⟩
  have hRooms :
      (scene.world.updateRoom key.room (fun room =>
          room.updateExit key.direction
            Exit.unblocked)).rooms.map Room.ground =
        scene.world.rooms.map Room.ground := by
    apply Catalog.map_update
    intro room _
    rfl
  simp only [whereabouts, hRooms, Session.recordOpened]
  split <;> rfl

/- No effect has the player move. -/
theorem Touches.whereabouts
    {effect : Effect}
    (hTouches : Touches before effect after) :
    after.whereabouts = before.whereabouts := by
  cases hTouches with
  | idle => rfl
  | unlock hUnblock => exact whereabouts_unlock hUnblock
  | reveal => exact whereabouts_updateThing before _ _
  | flag | event => rfl
  | place hPlace => exact whereabouts_of_place hPlace
  | write => exact whereabouts_updateThing before _ _
  | putOn | takeOff => exact whereabouts_setWorn before _ _
  | condition => rfl

theorem whereabouts_undergo (scene : Scene) (deed : Deed) :
    (scene.undergo deed).whereabouts = scene.whereabouts := by
  cases deed with
  | effect effect =>
      exact (applyEffect_touches scene effect).whereabouts
  | fire flag => rfl
  | solve puzzle => rfl

/- Nor has anything else that follows the work of a verb. -/
theorem whereabouts_undergoAll
    (scene : Scene)
    (deeds : List Deed) :
    (scene.undergoAll deeds).whereabouts =
      scene.whereabouts := by
  induction deeds generalizing scene with
  | nil => rfl
  | cons deed rest ih =>
      exact (ih (scene.undergo deed)).trans
        (whereabouts_undergo scene deed)

------------------------------------------------------------
-- Ways
------------------------------------------------------------

/-
  What leads from where the player is to a room: an exit in
  the direction that the command names, the first of them if
  there are several, that is not blocked and has no locked
  door, or else the rule of dreams.
-/
inductive Leads (scene : Scene) (command : Command) :
    Verb → String → Prop where
| exit
    {noun : String}
    {direction : Direction}
    {room : Room}
    {exit : Exit}
    (hNoun : command.noun = some noun)
    (hWord : Direction.ofWord? noun = some direction)
    (hRoom :
      scene.world.room? scene.session.currentRoom = some room)
    (hExit : room.exit? direction = some exit)
    (hOpen : exit.blocked = false)
    (hKnown :
      Catalog.has exit.destination scene.world.rooms = true)
    (hDoor :
      ∀ id door, exit.door = some id →
        scene.world.thing? id = some door →
          door.isLocked = false) :
    Leads scene command .go exit.destination
| sleep
    {rule : DreamRule}
    (hRule : scene.world.rules.dream = some rule)
    (hNormal : scene.session.playerState = .normal)
    (hHere : scene.session.currentRoom = rule.wakingRoom)
    (hKnown :
      Catalog.has rule.dreamingRoom scene.world.rooms = true) :
    Leads scene command .sleep rule.dreamingRoom
| wake
    {rule : DreamRule}
    (hRule : scene.world.rules.dream = some rule)
    (hDreaming : scene.session.playerState = .dreaming) :
    Leads scene command .wake rule.wakingRoom

/- A door that lets the player through is not locked. -/
theorem unlocked_of_openDoor
    {exit : Exit}
    {told : String}
    (hOk : scene.openDoor exit = .ok (after, told))
    {id : String}
    {door : Thing}
    (hId : exit.door = some id)
    (hDoor : scene.world.thing? id = some door) :
    door.isLocked = false := by
  simp only [openDoor, door?, hId, Option.bind_some, hDoor,
    check_bind_eq_ok_iff] at hOk
  simpa using hOk.1

/- Opening a door moves nobody. -/
theorem whereabouts_of_openDoor
    {exit : Exit}
    {told : String}
    (hOk : scene.openDoor exit = .ok (after, told)) :
    after.whereabouts = scene.whereabouts := by
  rcases eq_or_opened_of_openDoor hOk with rfl | ⟨door, rfl⟩
  · rfl
  · exact whereabouts_updateThing scene door _

/- The player has come to a room from where they were. -/
structure Enters
    (before : Scene)
    (room : String)
    (after : Scene) : Prop where
  currentRoom : after.session.currentRoom = room
  previousRoom :
    after.session.previousRoom =
      some before.session.currentRoom
  listed : room ∈ after.session.visitedRooms
  visited :
    ∀ found, after.world.room? room = some found →
      found.visited = true

theorem enters_enterRoom
    (scene origin : Scene)
    (hOrigin :
      scene.session.currentRoom = origin.session.currentRoom)
    (room : String) :
    origin.Enters room (scene.enterRoom room) := by
  have hSession :
      (scene.enterRoom room).session.currentRoom = room ∧
        (scene.enterRoom room).session.previousRoom =
          some scene.session.currentRoom ∧
        room ∈ (scene.enterRoom room).session.visitedRooms := by
    simp only [enterRoom, Session.recordVisit]
    split
    · rename_i hVisited
      exact ⟨rfl, rfl, by simpa using hVisited⟩
    · exact ⟨rfl, rfl, by simp⟩
  refine
    { currentRoom := hSession.1
      previousRoom := hOrigin ▸ hSession.2.1
      listed := hSession.2.2
      visited := ?_ }
  intro found hFound
  have hVisit :
      (scene.world.visit room).room? room =
        (scene.world.room? room).map (fun room =>
          { room with visited := true }) := by
    apply Catalog.find?_update_self
    intro room
    rfl
  rw [enterRoom, hVisit, Option.map_eq_some_iff] at hFound
  rcases hFound with ⟨old, -, rfl⟩
  rfl

/- What leaves the whereabouts alone undoes no arrival. -/
theorem Enters.of_whereabouts_eq
    {origin : Scene}
    {room : String}
    (hEnters : origin.Enters room before)
    (hSame : after.whereabouts = before.whereabouts) :
    origin.Enters room after := by
  simp only [whereabouts, Prod.mk.injEq] at hSame
  rcases hSame with ⟨hCurrent, hPrevious, hVisited, hRooms⟩
  refine
    { currentRoom := hCurrent.trans hEnters.currentRoom
      previousRoom := hPrevious.trans hEnters.previousRoom
      listed := hVisited ▸ hEnters.listed
      visited := ?_ }
  intro found hFound
  have hLookUp (world : World) :
      (world.room? room).map Room.ground =
        Catalog.find? room (world.rooms.map Room.ground) := by
    symm
    apply Catalog.find?_map
    intro found
    rfl
  have hGround :
      (before.world.room? room).map Room.ground =
        (after.world.room? room).map Room.ground := by
    rw [hLookUp, hLookUp, hRooms]
  rw [hFound, Option.map_some,
    Option.map_eq_some_iff] at hGround
  rcases hGround with ⟨old, hOld, hSameGround⟩
  have hVisitedSame : old.visited = found.visited := by
    simpa [Room.ground, Room.bare] using
      congrArg Room.visited hSameGround
  rw [← hVisitedSame]
  exact hEnters.visited old hOld

/- A verb moves the player where something leads, or not. -/
theorem Works.whereabouts_or_enters
    {verb : Verb}
    (hWorks : Works scene command verb after) :
    after.whereabouts = scene.whereabouts ∨
      ∃ room, scene.Leads command verb room ∧
        scene.Enters room after := by
  cases hWorks with
  | idle => exact Or.inl rfl
  | move thing target hPlace =>
      exact Or.inl (whereabouts_of_place hPlace)
  | write =>
      exact Or.inl (whereabouts_updateThing scene _ _)
  | takeOff thing =>
      exact Or.inl (whereabouts_setWorn scene thing false)
  | @putOn _ thing held _ _ _ hInHand =>
      have hHeld : held.whereabouts = scene.whereabouts := by
        cases hInHand with
        | already => rfl
        | taken hPlace => exact whereabouts_of_place hPlace
      refine Or.inl (Eq.trans ?_ hHeld)
      unfold worn
      split
      · exact whereabouts_setWorn held thing.id true
      · exact whereabouts_setWorn held thing.id true
  | @go noun direction exit opened told hNoun hWord hExit
      hDoor =>
      rcases demand_bind_eq_ok_iff.mp hExit with
        ⟨room, hRoom, hFind⟩
      rcases demand_bind_eq_ok_iff.mp hFind with
        ⟨found, hFound, hBlocked⟩
      rcases check_bind_eq_ok_iff.mp hBlocked with
        ⟨hOpen, hLeads⟩
      rcases check_bind_eq_ok_iff.mp hLeads with
        ⟨hKnown, hReturn⟩
      cases hReturn
      have hSame := whereabouts_of_openDoor hDoor
      refine Or.inr ⟨exit.destination, ?_, ?_⟩
      · exact .exit hNoun hWord hRoom hFound
          (by simpa using hOpen) hKnown
          (fun _ _ => unlocked_of_openDoor hDoor)
      · exact enters_enterRoom opened scene
          (currentRoom_of_whereabouts_eq hSame) _
  | @fallAsleep rule hRule hNormal hHere hKnown =>
      exact Or.inr ⟨rule.dreamingRoom,
        .sleep hRule hNormal hHere hKnown,
        enters_enterRoom (scene.setPlayerState .dreaming) scene
          rfl _⟩
  | @wakeUp rule hRule hDreaming =>
      exact Or.inr ⟨rule.wakingRoom, .wake hRule hDreaming,
        enters_enterRoom (scene.setPlayerState .normal) scene
          rfl _⟩

/- So does a command, by the work of its verb. -/
theorem whereabouts_worked_or_enters
    (scene : Scene)
    (command : Command) :
    (scene.worked command).whereabouts = scene.whereabouts ∨
      ∃ verb room,
        Verb.ofName? command.verb = some verb ∧
          scene.Leads command verb room ∧
          scene.Enters room (scene.worked command) := by
  rcases worked_eq_or_works scene command with
    hSame | ⟨verb, hVerb, hWorks⟩
  · exact Or.inl (congrArg whereabouts hSame)
  · rcases hWorks.whereabouts_or_enters with
      hSame | ⟨room, hLeads, hEnters⟩
    · exact Or.inl hSame
    · exact Or.inr ⟨verb, room, hVerb, hLeads, hEnters⟩

end Scene

------------------------------------------------------------
-- Lines
------------------------------------------------------------

namespace Game

/- That a turn is counted leads nowhere. -/
theorem leads_of_nextTurn
    {scene : Scene}
    {command : Command}
    {verb : Verb}
    {room : String}
    (hLeads : (nextTurn scene).Leads command verb room) :
    scene.Leads command verb room := by
  cases hLeads with
  | exit hNoun hWord hRoom hExit hOpen hKnown hDoor =>
      exact .exit hNoun hWord hRoom hExit hOpen hKnown hDoor
  | sleep hRule hNormal hHere hKnown =>
      exact .sleep hRule hNormal hHere hKnown
  | wake hRule hDreaming => exact .wake hRule hDreaming

theorem enters_of_nextTurn
    {scene after : Scene}
    {room : String}
    (hEnters : (nextTurn scene).Enters room after) :
    scene.Enters room after :=
  { currentRoom := hEnters.currentRoom
    previousRoom := hEnters.previousRoom
    listed := hEnters.listed
    visited := hEnters.visited }

theorem whereabouts_recordChanges (scene : Scene) :
    (recordChanges scene).whereabouts = scene.whereabouts := by
  rw [recordChanges_eq]
  rfl

/- After the work of the verb nobody moves any more. -/
theorem Passes.whereabouts
    {game : Game}
    {line : String}
    {moment : Scene}
    (hPasses : game.Passes line moment) :
    moment.whereabouts = (game.worked line).whereabouts := by
  rcases hPasses with ⟨past, future, -, rfl⟩
  exact Scene.whereabouts_undergoAll _ past

theorem whereabouts_execute (game : Game) (line : String) :
    (game.execute line).value.1.scene.whereabouts =
      (game.worked line).whereabouts := by
  rcases Scene.exists_ensues (nextTurn game.scene)
      game.settings.maxPasses (Command.ofLine line) with
    ⟨deeds, hEnsues⟩
  rw [scene_execute, whereabouts_recordChanges, turn,
    hEnsues.scene_eq]
  exact Scene.whereabouts_undergoAll _ deeds

/-
  A line leaves the player and their last room where they
  are, unless its verb goes, sleeps or wakes and something
  leads to the new room from the scene before the line. Then
  the room before is the one that was left, and the new one
  is visited. Scripts and puzzles have no part in that: all
  is as the verb has left it, at every moment of the turn.
-/
theorem moved_only_where_led (game : Game) (line : String) :
    let after := (game.execute line).value.1
    (after.session.currentRoom = game.session.currentRoom ∧
          after.session.previousRoom =
            game.session.previousRoom ∨
        ∃ verb,
          Verb.ofName? (Command.ofLine line).verb =
              some verb ∧
            game.scene.Leads (Command.ofLine line) verb
              after.session.currentRoom ∧
            game.scene.Enters after.session.currentRoom
              after.scene) ∧
      ∀ moment, game.Passes line moment →
        moment.session.currentRoom =
            after.session.currentRoom ∧
          moment.session.previousRoom =
            after.session.previousRoom := by
  intro after
  have hAfter :
      after.scene.whereabouts =
        (game.worked line).whereabouts :=
    whereabouts_execute game line
  clear_value after
  refine ⟨?_, ?_⟩
  · rcases Scene.whereabouts_worked_or_enters
        (nextTurn game.scene) (Command.ofLine line) with
      hSame | ⟨verb, room, hVerb, hLeads, hEnters⟩
    · have hStill := hAfter.trans hSame
      have hCurrent :=
        Scene.currentRoom_of_whereabouts_eq hStill
      have hPrevious :=
        Scene.previousRoom_of_whereabouts_eq hStill
      exact Or.inl ⟨hCurrent, hPrevious⟩
    · have hArrives := hEnters.of_whereabouts_eq hAfter
      have hRoom : after.session.currentRoom = room :=
        hArrives.currentRoom
      rw [hRoom]
      exact Or.inr ⟨verb, hVerb, leads_of_nextTurn hLeads,
        enters_of_nextTurn hArrives⟩
  · intro moment hPasses
    have hSame := hPasses.whereabouts.trans hAfter.symm
    have hCurrent :=
      Scene.currentRoom_of_whereabouts_eq hSame
    have hPrevious :=
      Scene.previousRoom_of_whereabouts_eq hSame
    exact ⟨hCurrent, hPrevious⟩

end Game

end TextAdventure
