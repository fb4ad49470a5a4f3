import TextAdventure.Content.Embedded
import TextAdventure.Content.Files
import TextAdventure.Content.Layer
import TextAdventure.Format.SaveText
import TextAdventure.Game.Briefing
import TextAdventure.Game.Restore
import TextAdventure.Play.Turn

/-
  Games: a scene under given settings, from start to save.

  Content that cannot be read from its directory is replaced
  by the built-in one. Every line of the player counts as a
  turn, whatever comes of it, and the things it changed are
  remembered in the session.

  Key definitions include:
    * `Game.start`
    * `Game.resume`
    * `Game.execute`
    * `Game.save`
    * `Game.load`
-/

namespace TextAdventure

------------------------------------------------------------
-- Loading Content
------------------------------------------------------------

/- The content of a source, which may be the built-in one. -/
def ContentSource.content (disk : Disk) :
    ContentSource → Logged Content
| .embedded => .silent .embedded
| .directory path =>
    (Content.ofDirectory disk path).bind (fun loaded =>
      match loaded with
      | .ok content => .silent content
      | .error _ =>
          { value := .embedded
            warnings := [.embeddedFallback] })

namespace Settings

/- Content up to the highest layer, if there is one. -/
def limitLayer (settings : Settings) (content : Content) :
    Content :=
  match settings.maxLayer with
  | some layer => content.filterLayer layer
  | none => content

/- The world of the content that the settings ask for. -/
def loadWorld (settings : Settings) (disk : Disk) :
    Logged (Except GameFault World) :=
  (settings.source.content disk).bind (fun loaded =>
    let content := settings.limitLayer loaded
    content.validate.map (fun checked =>
      match checked with
      | .ok () => .ok (World.ofContent content)
      | .error fault => .error (.content fault)))

end Settings

------------------------------------------------------------
-- Games
------------------------------------------------------------

/- A scene and the settings it is played under. -/
structure Game where
  settings : Settings
  scene : Scene
deriving DecidableEq

namespace Game

/- The world of a game. -/
def world (game : Game) : World :=
  game.scene.world

/- The session of a game. -/
def session (game : Game) : Session :=
  game.scene.session

/- A new session in a world. -/
def opening (id : SessionId) (world : World) : Scene where
  world := world.visit world.rules.startRoom
  session := .starting id world.rules.startRoom

/- Start a game with a new session. -/
def start (settings : Settings) (disk : Disk) (id : SessionId) :
    Logged (Except GameFault Game) :=
  (settings.loadWorld disk).map (fun loaded =>
    match loaded with
    | .ok world => .ok { settings, scene := opening id world }
    | .error fault => .error fault)

/- Start a game with a session from before. -/
def resume
    (settings : Settings)
    (disk : Disk)
    (session : Session) : Logged (Except GameFault Game) :=
  (settings.loadWorld disk).bind (fun loaded =>
    match loaded with
    | .error fault => .silent (.error fault)
    | .ok world =>
        match Scene.restore world session with
        | .error fault => .silent (.error fault)
        | .ok restored =>
            restored.map (fun scene =>
              .ok { settings, scene }))

------------------------------------------------------------
-- Playing
------------------------------------------------------------

/- Remember a thing as it is, if the world has it. -/
def recordThing (scene : Scene) (id : String) : Scene :=
  match scene.world.thing? id with
  | none => scene
  | some thing =>
      { scene with
          session :=
            { scene.session with
                thingStates :=
                  scene.session.thingStates.insert id
                    (.capture thing) } }

/- Remember all things that were changed. -/
def recordChanges (scene : Scene) : Scene :=
  let recorded := scene.world.changed.foldl recordThing scene
  { recorded with world := recorded.world.forgetChanges }

/- The scene at the beginning of the next turn. -/
def nextTurn (scene : Scene) : Scene :=
  { scene with
      session :=
        { scene.session with turn := scene.session.turn + 1 } }

/- Play one line of the player. -/
def execute (game : Game) (line : String) :
    Logged (Game × Outcome) :=
  let turn :=
    (nextTurn game.scene).perform game.settings.maxPasses
      (Command.ofLine line)
  { value :=
      ({ game with scene := recordChanges turn.scene },
        turn.outcome)
    warnings := turn.warnings }

/- Play lines one after the other, for their outcomes. -/
def executeAll (game : Game) :
    List String → Logged (Game × List Outcome)
| [] => .silent (game, [])
| line :: rest =>
    (game.execute line).bind (fun played =>
      (executeAll played.1 rest).map (fun later =>
        (later.1, played.2 :: later.2)))

/- The game summed up for a writer of text. -/
def briefing (game : Game) : Briefing :=
  .capture game.world game.session

------------------------------------------------------------
-- Saving And Loading
------------------------------------------------------------

/- The text of the game, saved at a time. -/
def save (game : Game) (time : Timestamp) : String :=
  (SavedGame.ofSession time game.session).text

/- The game of a saved text. -/
def load (settings : Settings) (disk : Disk) (text : String) :
    Logged (Except GameFault Game) :=
  match SavedGame.ofText text with
  | .error fault => .silent (.error fault)
  | .ok save => resume settings disk save.session

end Game

end TextAdventure
