import TextAdventure.Game.Basic
import TextAdventure.Game.Growth
import TextAdventure.Proofs.Content.Validity
import TextAdventure.Proofs.Play.Edits
import TextAdventure.Proofs.Scene.Consistency

/-
  Runs of a game: how it begins and what can happen to it.

  A game begins with a new session or with one from before,
  in the world of content that has been accepted. From then
  on lines are played and content is added, in any order. An
  addition that is refused leaves the game as it is, and so
  it is no step.

  Main declarations:
    * `Game.Begins`
    * `Game.Step`
    * `Game.Reaches`
    * `Game.addThing_eq_ok_some_iff`
    * `Game.connect_eq_ok_iff`
    * `Game.start_eq_ok_iff`
    * `Game.begins_of_start`
    * `Game.begins_of_resume`
    * `Game.turn_edits`
    * `Game.plot_execute`
    * `Game.executeAll_keeps`
-/

namespace TextAdventure

open Relation (ReflTransGen)

------------------------------------------------------------
-- Beginnings
------------------------------------------------------------

namespace Settings

/- The content that the settings ask for, unchecked. -/
def content (settings : Settings) (disk : Disk) : Content :=
  settings.limitLayer (settings.source.content disk).value

/- A world is loaded exactly from content that is accepted. -/
theorem loadWorld_eq_ok_iff
    {settings : Settings}
    {disk : Disk}
    {world : World} :
    (settings.loadWorld disk).value = .ok world ↔
      (settings.content disk).IsValid ∧
        world = World.ofContent (settings.content disk) := by
  unfold Content.IsValid
  cases hCheck : (settings.content disk).validate.value with
  | error fault =>
      have hLoad :
          (settings.loadWorld disk).value =
            .error (.content fault) := by
        unfold content at hCheck
        simp [loadWorld, Logged.bind, Logged.map, hCheck]
      simp [hLoad]
  | ok done =>
      have hLoad :
          (settings.loadWorld disk).value =
            .ok (World.ofContent (settings.content disk)) := by
        unfold content at hCheck
        simp [loadWorld, Logged.bind, Logged.map, hCheck,
          content]
      simp [hLoad, eq_comm]

end Settings

namespace Game

/- A game that has just begun with a new session. -/
def fresh
    (settings : Settings)
    (content : Content)
    (id : SessionId) : Game where
  settings := settings
  scene := opening id (World.ofContent content)

/-
  A game as it begins in accepted content: with a session of
  before, or else anew if nothing is carried or worn yet.
-/
inductive Begins (content : Content) : Game → Prop where
| opened
    (settings : Settings)
    (id : SessionId)
    (hLoose : ∀ thing ∈ content.things, thing.IsLoose) :
    Begins content
      { settings := settings
        scene := opening id (World.ofContent content) }
| resumed
    (settings : Settings)
    (session : Session)
    {restored : Logged Scene}
    (hRestore :
      Scene.restore (World.ofContent content) session =
        .ok restored) :
    Begins content
      { settings := settings, scene := restored.value }

/- Only content that is refused keeps a game from starting. -/
theorem start_eq_ok_iff
    {settings : Settings}
    {disk : Disk}
    {id : SessionId}
    {game : Game} :
    (start settings disk id).value = .ok game ↔
      (settings.content disk).IsValid ∧
        game = fresh settings (settings.content disk) id := by
  simp only [start, Logged.map]
  constructor
  · intro hStart
    split at hStart
    · rename_i world hWorld
      rcases Settings.loadWorld_eq_ok_iff.mp hWorld with
        ⟨hValid, rfl⟩
      cases hStart
      exact ⟨hValid, rfl⟩
    · simp at hStart
  · rintro ⟨hValid, rfl⟩
    rw [Settings.loadWorld_eq_ok_iff.mpr ⟨hValid, rfl⟩]
    rfl

/- A started game begins in accepted content. -/
theorem begins_of_start
    {settings : Settings}
    {disk : Disk}
    {id : SessionId}
    {game : Game}
    (hStart : (start settings disk id).value = .ok game)
    (hLoose :
      ∀ thing ∈ (settings.content disk).things,
        thing.IsLoose) :
    (settings.content disk).IsValid ∧
      Begins (settings.content disk) game := by
  rcases start_eq_ok_iff.mp hStart with ⟨hValid, rfl⟩
  exact ⟨hValid, .opened settings id hLoose⟩

/- A resumed game is a session restored in its content. -/
theorem resume_eq_ok_iff
    {settings : Settings}
    {disk : Disk}
    {session : Session}
    {game : Game} :
    (resume settings disk session).value = .ok game ↔
      (settings.content disk).IsValid ∧
        ∃ restored,
          Scene.restore
                (World.ofContent (settings.content disk))
                session =
              .ok restored ∧
            game =
              { settings := settings
                scene := restored.value } := by
  simp only [resume, Logged.bind]
  constructor
  · intro hResume
    split at hResume
    · simp [Logged.silent] at hResume
    · rename_i world hWorld
      rcases Settings.loadWorld_eq_ok_iff.mp hWorld with
        ⟨hValid, rfl⟩
      split at hResume
      · simp [Logged.silent] at hResume
      · rename_i restored hRestore
        cases hResume
        exact ⟨hValid, restored, hRestore, rfl⟩
  · rintro ⟨hValid, restored, hRestore, rfl⟩
    rw [Settings.loadWorld_eq_ok_iff.mpr ⟨hValid, rfl⟩]
    simp only [hRestore, Logged.map]

/- A resumed game begins in accepted content. -/
theorem begins_of_resume
    {settings : Settings}
    {disk : Disk}
    {session : Session}
    {game : Game}
    (hResume :
      (resume settings disk session).value = .ok game) :
    (settings.content disk).IsValid ∧
      Begins (settings.content disk) game := by
  rcases resume_eq_ok_iff.mp hResume with
    ⟨hValid, restored, hRestore, rfl⟩
  exact ⟨hValid, .resumed settings session hRestore⟩

------------------------------------------------------------
-- Steps
------------------------------------------------------------

/-
  What can happen to a game: a line is played, or content is
  added. New things are neither carried nor worn.
-/
inductive Step : Game → Game → Prop where
| execute
    (game : Game)
    (line : String) :
    Step game (game.execute line).value.1
| merge
    (game : Game)
    (content : Content)
    (hLoose :
      ∀ thing ∈ content.things,
        thing.id ∉ Catalog.ids game.world.things →
          thing.IsLoose) :
    Step game (game.merge content).value.1
| addRoom
    {game after : Game}
    (room : Room)
    (hAdd : game.addRoom? room = some after) :
    Step game after
| addThing
    {game after : Game}
    (thing : Thing)
    (hLoose : thing.IsLoose)
    (hAdd : game.addThing thing = .ok (some after)) :
    Step game after
| addPuzzle
    {game after : Game}
    (puzzle : Puzzle)
    (hAdd : game.addPuzzle? puzzle = some after) :
    Step game after
| addScript
    {game after : Game}
    (script : Script)
    (hAdd : game.addScript? script = some after) :
    Step game after
| connect
    {game after : Game}
    (source target : String)
    (direction : Direction)
    (hAdd : game.connect source direction target =
      .ok after) :
    Step game after

/- What can become of a game in any number of steps. -/
abbrev Reaches : Game → Game → Prop :=
  ReflTransGen Step

/- A thing is added to a game if it is added to its world. -/
theorem addThing_eq_ok_some_iff
    {game after : Game}
    {thing : Thing} :
    game.addThing thing = .ok (some after) ↔
      ∃ world, game.world.addThing thing = .ok (some world) ∧
        game.withWorld world = after := by
  unfold addThing
  cases game.world.addThing thing with
  | error fault => simp [Except.map]
  | ok grown => simp [Except.map]

/- Rooms of a game are connected if they are in its world. -/
theorem connect_eq_ok_iff
    {game after : Game}
    {source target : String}
    {direction : Direction} :
    game.connect source direction target = .ok after ↔
      ∃ world,
        game.world.connect source direction target =
            .ok world ∧
          game.withWorld world = after := by
  unfold connect
  cases game.world.connect source direction target with
  | error fault => simp [Except.map]
  | ok world => simp [Except.map]

------------------------------------------------------------
-- Turns
------------------------------------------------------------

/- The states of things with that of a known thing. -/
def recordedState
    (world : World)
    (states : Dict ThingState)
    (id : String) : Dict ThingState :=
  match world.thing? id with
  | some thing => states.insert id (.capture thing)
  | none => states

/- The states of things with those of all changed things. -/
def recordedStates
    (world : World)
    (states : Dict ThingState) : Dict ThingState :=
  world.changed.foldl (recordedState world) states

theorem recordThing_eq
    (scene : Scene)
    (id : String) :
    recordThing scene id =
      { scene with
          session :=
            { scene.session with
                thingStates :=
                  recordedState scene.world
                    scene.session.thingStates id } } := by
  cases hThing : scene.world.thing? id <;>
    simp [recordThing, recordedState, hThing]

/- Only the states of things and the changed things differ. -/
theorem recordChanges_eq (scene : Scene) :
    recordChanges scene =
      { world := scene.world.forgetChanges
        session :=
          { scene.session with
              thingStates :=
                recordedStates scene.world
                  scene.session.thingStates } } := by
  have hFold :
      ∀ (ids : List String) (scene : Scene),
        ids.foldl recordThing scene =
          { scene with
              session :=
                { scene.session with
                    thingStates :=
                      ids.foldl (recordedState scene.world)
                        scene.session.thingStates } } := by
    intro ids
    induction ids with
    | nil => exact fun _ => rfl
    | cons id rest ih =>
        intro scene
        rw [List.foldl_cons, recordThing_eq, ih]
        rfl
  unfold recordChanges
  rw [hFold]
  rfl

/- The turn that a line makes, before it is recorded. -/
def turn (game : Game) (line : String) : Turn :=
  (nextTurn game.scene).perform game.settings.maxPasses
    (Command.ofLine line)

theorem execute_value
    (game : Game)
    (line : String) :
    (game.execute line).value =
      ({ game with
          scene := recordChanges (game.turn line).scene },
        (game.turn line).outcome) :=
  rfl

theorem outcome_execute (game : Game) (line : String) :
    (game.execute line).value.2 =
      (game.turn line).outcome := by
  rw [execute_value]

theorem scene_execute (game : Game) (line : String) :
    (game.execute line).value.1.scene =
      recordChanges (game.turn line).scene := by
  rw [execute_value]

theorem settings_execute (game : Game) (line : String) :
    (game.execute line).value.1.settings = game.settings := by
  rw [execute_value]

/- After a turn no thing is marked as changed. -/
theorem changed_recordChanges (scene : Scene) :
    (recordChanges scene).world.changed = [] := by
  rw [recordChanges_eq]
  rfl

theorem changed_execute
    (game : Game)
    (line : String) :
    (game.execute line).value.1.world.changed = [] := by
  rw [execute_value]
  exact changed_recordChanges _

theorem plot_recordChanges (scene : Scene) :
    (recordChanges scene).world.plot = scene.world.plot := by
  rw [recordChanges_eq]
  rfl

theorem layout_recordChanges (scene : Scene) :
    (recordChanges scene).world.layout =
      scene.world.layout := by
  rw [recordChanges_eq]
  exact World.layout_forgetChanges _

theorem inventory_recordChanges (scene : Scene) :
    (recordChanges scene).session.inventory =
      scene.session.inventory := by
  rw [recordChanges_eq]

/- A line is played in edits, after it has been counted. -/
theorem turn_edits
    {may : Value → Prop}
    {game : Game}
    (hGrants : game.world.Grants may)
    (line : String) :
    Scene.Edits may (nextTurn game.scene)
      (game.turn line).scene := by
  have hNext : (nextTurn game.scene).world.Grants may :=
    hGrants
  exact Scene.perform_edits hNext game.settings.maxPasses
    (Command.ofLine line)

/- Lines keep listings and placements in agreement. -/
theorem isCoherent_execute
    {game : Game}
    (hCoherent : game.world.IsCoherent)
    (line : String) :
    (game.execute line).value.1.world.IsCoherent := by
  have hNext : (nextTurn game.scene).world.IsCoherent :=
    hCoherent
  have hTurn :=
    Scene.coherent_edits hNext
      (turn_edits (World.grants_any game.world) line)
  rw [execute_value]
  exact hTurn.of_layout_eq (layout_recordChanges _)

/- Lines leave the plot of a game as it is. -/
theorem plot_execute (game : Game) (line : String) :
    (game.execute line).value.1.world.plot =
      game.world.plot := by
  have hTurn :=
    (turn_edits (World.grants_any game.world) line).plot
  rw [execute_value]
  exact (plot_recordChanges _).trans hTurn

/- So they leave alone what effects can write. -/
theorem grants_execute
    {may : Value → Prop}
    {game : Game}
    (hGrants : game.world.Grants may)
    (line : String) :
    (game.execute line).value.1.world.Grants may :=
  hGrants.of_plot_eq (plot_execute game line)

------------------------------------------------------------
-- Lines One After The Other
------------------------------------------------------------

/- What every line keeps is kept by all lines. -/
theorem executeAll_keeps
    (holds : Game → Prop)
    (hLine :
      ∀ game line, holds game →
        holds (game.execute line).value.1)
    {game : Game}
    (hFirst : holds game)
    (lines : List String) :
    holds (game.executeAll lines).value.1 := by
  induction lines generalizing game with
  | nil => exact hFirst
  | cons line rest ih => exact ih (hLine game line hFirst)

end Game

end TextAdventure
