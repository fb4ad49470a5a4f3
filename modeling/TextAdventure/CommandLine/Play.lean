import TextAdventure.CommandLine.Style
import TextAdventure.Game.Basic

/-
  Playing line by line: what is printed at the beginning and
  after each line of the player.

  Key definitions include:
    * `Play.greeting`
    * `Play.isQuit`
    * `Play.respond`
    * `Play.transcript`
-/

namespace TextAdventure

namespace Play

/- What is printed before the first line. -/
def greeting (color : Bool) (game : Game) : String :=
  let briefing := game.briefing
  "  " ++ Style.bold.apply color "Umbra" ++ " " ++
    Style.dimmed.apply color
      ("(turn " ++ toString briefing.turn.toNat ++ ")") ++
    "\n  You are in: " ++ briefing.currentRoom.name ++
    "\n  Type 'help' for commands, 'quit' to exit.\n\n"

/- What is printed where a line is expected. -/
def prompt : String := "> "

/- The lower-case form of an ASCII letter. -/
def asciiLowercase (text : String) : String :=
  String.ofList (text.toList.map Char.toLower)

/- Whether a line ends the game. -/
def isQuit (line : String) : Bool :=
  let word := asciiLowercase (Text.trim line)
  word == "quit" || word == "q"

/- How an outcome is printed; no message is not printed. -/
def outcomeText (color : Bool) (outcome : Outcome) : String :=
  if !outcome.success then
    Style.yellow.apply color outcome.message ++ "\n\n"
  else if outcome.message = "" then
    ""
  else
    outcome.message ++ "\n\n"

/- The game after a line, and what is printed for it. -/
def respond (color : Bool) (game : Game) (line : String) :
    Logged (Game × String) :=
  (game.execute (Text.trim line)).map (fun played =>
    (played.1, outcomeText color played.2))

/- The game and all that is printed for some lines. -/
def transcript (color : Bool) (game : Game) :
    List String → Logged (Game × String)
| [] => .silent (game, prompt)
| line :: rest =>
    if isQuit line then
      .silent (game, prompt)
    else
      (respond color game line).bind (fun played =>
        (transcript color played.1 rest).map (fun later =>
          (later.1, prompt ++ played.2 ++ later.2)))

end Play

end TextAdventure
