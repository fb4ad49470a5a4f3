import TextAdventure.Game.Basic
import TextAdventure.World.Growth

/-
  Adding content to a game that is being played.

  The session is left as it is; an addition that is refused
  leaves the game as it is.

  Key definitions include:
    * `Game.merge`
    * `Game.addThing`
    * `Game.connect`
-/

namespace TextAdventure

namespace Game

/- The game with another world. -/
def withWorld (game : Game) (world : World) : Game :=
  { game with scene := { game.scene with world } }

/- The game with a new room. -/
def addRoom? (game : Game) (room : Room) : Option Game :=
  (game.world.addRoom? room).map game.withWorld

/- The game with a new thing, or nothing if its id is known. -/
def addThing (game : Game) (thing : Thing) :
    Except WorldFault (Option Game) :=
  (game.world.addThing thing).map
    (fun world => world.map game.withWorld)

/- The game with a new puzzle. -/
def addPuzzle? (game : Game) (puzzle : Puzzle) : Option Game :=
  (game.world.addPuzzle? puzzle).map game.withWorld

/- The game with a script for a verb that had none there. -/
def addScript? (game : Game) (script : Script) : Option Game :=
  (game.world.addScript? script).map game.withWorld

/- The game with two rooms connected both ways. -/
def connect
    (game : Game)
    (source : String)
    (direction : Direction)
    (target : String) : Except WorldFault Game :=
  (game.world.connect source direction target).map
    game.withWorld

/- The game with content merged into it, and a report. -/
def merge (game : Game) (content : Content) :
    Logged (Game × MergeReport) :=
  (game.world.merge content).map (fun merged =>
    (game.withWorld merged.1, merged.2))

end Game

end TextAdventure
