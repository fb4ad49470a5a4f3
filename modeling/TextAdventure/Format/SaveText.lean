import TextAdventure.Format.Session
import TextAdventure.Game.Fault
import TextAdventure.Json.Printer
import TextAdventure.Json.Reader

/-
  The text of a saved game.

  Key definitions include:
    * `SavedGame.text`
    * `SavedGame.ofText`
-/

namespace TextAdventure

namespace SavedGame

/- The text of a saved game, indented. -/
def text (save : SavedGame) : String :=
  save.toJson.pretty

/-
  The saved game of a text. A text of another version is
  refused as such only if all of it can be read.
-/
def ofText (text : String) : Except GameFault SavedGame :=
  match (Json.parse? text).bind SavedGame.ofJson? with
  | none => .error .corruptSave
  | some save =>
      if save.version = currentVersion then
        .ok save
      else
        .error (.unsupportedVersion save.version)

end SavedGame

end TextAdventure
