import TextAdventure.Command.Basic
import TextAdventure.Format.Value
import TextAdventure.Game.Briefing
import TextAdventure.Game.Outcome
import TextAdventure.Game.Settings
import TextAdventure.Session.Save
import TextAdventure.World.Growth

/-
  The written form of sessions, saved games, commands and
  what the game reports.

  Key definitions include:
    * `Session.toJson` and `Session.ofJson?`
    * `SavedGame.toJson` and `SavedGame.ofJson?`
    * `Outcome.toJson` and `Outcome.ofJson?`
    * `Settings.toJson` and `Settings.ofJson?`
-/

namespace TextAdventure

open Json (string? bool? nullable? strings? uint32? uint64?
  ofStrings ofOption Record)

------------------------------------------------------------
-- Sessions
------------------------------------------------------------

namespace ThingState

/- The written form of the state of a thing. -/
def toJson (state : ThingState) : Json :=
  .object
    [("placement", state.placement.toJson),
      ("hidden", .bool state.hidden),
      ("isWorn", .bool state.isWorn),
      ("isOpen", .bool state.isOpen),
      ("isLocked", .bool state.isLocked),
      ("isLit", .bool state.isLit),
      ("isSwitchedOn", .bool state.isSwitchedOn),
      ("customState",
        Json.ofDict Value.toJson state.customState)]

/- The state of a thing of a written form. -/
def ofJson? (json : Json) : Option ThingState := do
  let fields ← Record.ofJson?
    ["placement", "hidden", "isWorn", "isOpen", "isLocked",
      "isLit", "isSwitchedOn", "customState"] json
  let placement ←
    fields.required? "placement" Placement.ofJson?
  let hidden ← fields.required? "hidden" bool?
  let isWorn ← fields.required? "isWorn" bool?
  let isOpen ← fields.required? "isOpen" bool?
  let isLocked ← fields.required? "isLocked" bool?
  let isLit ← fields.required? "isLit" bool?
  let isSwitchedOn ← fields.required? "isSwitchedOn" bool?
  let customState ←
    fields.withDefault? "customState" .empty
      (Json.dict? Value.ofJson?)
  return { placement, hidden, isWorn, isOpen, isLocked, isLit,
           isSwitchedOn, customState }

end ThingState

namespace Session

/- The written form of a session. -/
def toJson (session : Session) : Json :=
  .object
    [("sessionId", session.id.toJson),
      ("currentRoom", .string session.currentRoom),
      ("previousRoom",
        ofOption .string session.previousRoom),
      ("inventory", ofStrings session.inventory),
      ("worn", ofStrings session.worn),
      ("playerState", session.playerState.toJson),
      ("suspendedState",
        ofOption PlayerState.toJson session.suspendedState),
      ("flags", Json.ofDict Value.toJson session.flags),
      ("solvedPuzzles", ofStrings session.solvedPuzzles),
      ("turn", .integer session.turn.toNat),
      ("visitedRooms", ofStrings session.visitedRooms),
      ("objectStates",
        Json.ofDict ThingState.toJson session.thingStates),
      ("openedExits", ofStrings session.openedExits)]

/- The session of a written form. -/
def ofJson? (json : Json) : Option Session := do
  let fields ← Record.ofJson?
    ["sessionId", "currentRoom", "previousRoom", "inventory",
      "worn", "playerState", "suspendedState", "flags",
      "solvedPuzzles", "turn", "visitedRooms",
      "objectStates", "openedExits"] json
  let id ← fields.required? "sessionId" SessionId.ofJson?
  let currentRoom ← fields.required? "currentRoom" string?
  let previousRoom ←
    fields.withDefault? "previousRoom" none
      (nullable? string?)
  let inventory ←
    fields.withDefault? "inventory" [] strings?
  let worn ← fields.withDefault? "worn" [] strings?
  let playerState ←
    fields.withDefault? "playerState" .normal
      PlayerState.ofJson?
  let suspendedState ←
    fields.withDefault? "suspendedState" none
      (nullable? PlayerState.ofJson?)
  let flags ←
    fields.withDefault? "flags" .empty
      (Json.dict? Value.ofJson?)
  let solvedPuzzles ←
    fields.withDefault? "solvedPuzzles" [] strings?
  let turn ← fields.withDefault? "turn" 0 uint64?
  let visitedRooms ←
    fields.withDefault? "visitedRooms" [] strings?
  let thingStates ←
    fields.withDefault? "objectStates" .empty
      (Json.dict? ThingState.ofJson?)
  let openedExits ←
    fields.withDefault? "openedExits" [] strings?
  return { id, currentRoom, previousRoom, inventory, worn,
           playerState, suspendedState, flags, solvedPuzzles,
           turn, visitedRooms, thingStates, openedExits }

end Session

namespace Timestamp

/- The written form of a point in time. -/
def toJson (time : Timestamp) : Json :=
  .string time.text

/- The point in time of a written form. -/
def ofJson? (json : Json) : Option Timestamp :=
  (string? json).bind ofText?

end Timestamp

namespace SavedGame

/- The written form of a saved game. -/
def toJson (save : SavedGame) : Json :=
  .object
    [("version", .integer save.version.toNat),
      ("savedAt", save.savedAt.toJson),
      ("state", save.session.toJson)]

/- The saved game of a written form, of any version. -/
def ofJson? (json : Json) : Option SavedGame := do
  let fields ←
    Record.ofJson? ["version", "savedAt", "state"] json
  let version ← fields.required? "version" uint32?
  let savedAt ← fields.required? "savedAt" Timestamp.ofJson?
  let session ← fields.required? "state" Session.ofJson?
  return { version, savedAt, session }

end SavedGame

------------------------------------------------------------
-- Commands And Outcomes
------------------------------------------------------------

namespace Command

/- The written form of a command. -/
def toJson (command : Command) : Json :=
  .object
    [("verb", .string command.verb),
      ("noun", ofOption .string command.noun),
      ("preposition", ofOption .string command.preposition),
      ("secondNoun", ofOption .string command.secondNoun),
      ("raw", .string command.raw)]

/- The command of a written form. -/
def ofJson? (json : Json) : Option Command := do
  let fields ← Record.ofJson?
    ["verb", "noun", "preposition", "secondNoun", "raw"] json
  let verb ← fields.required? "verb" string?
  let noun ← fields.optional? "noun" string?
  let preposition ← fields.optional? "preposition" string?
  let secondNoun ← fields.optional? "secondNoun" string?
  let raw ← fields.required? "raw" string?
  return { verb, noun, preposition, secondNoun, raw }

end Command

namespace Outcome

/- The written form of an outcome; no puzzle, no field. -/
def toJson (outcome : Outcome) : Json :=
  let solved :=
    match outcome.solvedPuzzle with
    | some puzzle => [("puzzleSolvedId", .string puzzle)]
    | none => []
  .object
    (("success", .bool outcome.success) ::
      ("message", .string outcome.message) :: solved)

/- The outcome of a written form. -/
def ofJson? (json : Json) : Option Outcome := do
  let fields ← Record.ofJson?
    ["success", "message", "puzzleSolvedId"] json
  let success ← fields.required? "success" bool?
  let message ← fields.required? "message" string?
  let solvedPuzzle ←
    fields.withDefault? "puzzleSolvedId" none
      (nullable? string?)
  return { success, message, solvedPuzzle }

end Outcome

------------------------------------------------------------
-- Reports
------------------------------------------------------------

namespace RoomSummary

/- The written form of the summary of a room. -/
def toJson (room : RoomSummary) : Json :=
  .object
    [("id", .string room.id),
      ("name", .string room.name),
      ("region", .string room.region)]

/- The summary of a room of a written form. -/
def ofJson? (json : Json) : Option RoomSummary := do
  let fields ← Record.ofJson? ["id", "name", "region"] json
  let id ← fields.required? "id" string?
  let name ← fields.required? "name" string?
  let region ← fields.required? "region" string?
  return { id, name, region }

end RoomSummary

namespace Briefing

/- The written form of a briefing. -/
def toJson (briefing : Briefing) : Json :=
  .object
    [("currentRoom", briefing.currentRoom.toJson),
      ("playerState", briefing.playerState.toJson),
      ("inventory", ofStrings briefing.inventory),
      ("unsolvedHints", ofStrings briefing.unsolvedHints),
      ("turn", .integer briefing.turn.toNat)]

/- The briefing of a written form. -/
def ofJson? (json : Json) : Option Briefing := do
  let fields ← Record.ofJson?
    ["currentRoom", "playerState", "inventory",
      "unsolvedHints", "turn"] json
  let currentRoom ←
    fields.required? "currentRoom" RoomSummary.ofJson?
  let playerState ←
    fields.required? "playerState" PlayerState.ofJson?
  let inventory ← fields.required? "inventory" strings?
  let unsolvedHints ←
    fields.required? "unsolvedHints" strings?
  let turn ← fields.required? "turn" uint64?
  return { currentRoom, playerState, inventory,
           unsolvedHints, turn }

end Briefing

namespace MergeReport

/- The written form of a report on a merge. -/
def toJson (report : MergeReport) : Json :=
  .object
    [("roomsAdded", ofStrings report.roomsAdded),
      ("objectsAdded", ofStrings report.thingsAdded),
      ("puzzlesAdded", ofStrings report.puzzlesAdded),
      ("scriptsAdded", .integer report.scriptsAdded.toNat),
      ("skipped", ofStrings report.skipped)]

/- The report on a merge of a written form. -/
def ofJson? (json : Json) : Option MergeReport := do
  let fields ← Record.ofJson?
    ["roomsAdded", "objectsAdded", "puzzlesAdded",
      "scriptsAdded", "skipped"] json
  let roomsAdded ← fields.required? "roomsAdded" strings?
  let thingsAdded ← fields.required? "objectsAdded" strings?
  let puzzlesAdded ←
    fields.required? "puzzlesAdded" strings?
  let scriptsAdded ←
    fields.required? "scriptsAdded" uint64?
  let skipped ← fields.required? "skipped" strings?
  return { roomsAdded, thingsAdded, puzzlesAdded,
           scriptsAdded, skipped }

end MergeReport

------------------------------------------------------------
-- Settings
------------------------------------------------------------

namespace ContentSource

/- The written form of a source of content. -/
def toJson : ContentSource → Json
| .embedded => .string "embedded"
| .directory path => .object [("directory", .string path)]

/- The source of content of a written form. -/
def ofJson? (json : Json) : Option ContentSource := do
  let (name, content) ← Json.variant? json
  match name, content with
  | "embedded", content =>
      if Json.isUnit content then some .embedded else none
  | "directory", some content =>
      (string? content).map .directory
  | _, _ => none

end ContentSource

namespace Settings

/- The written form of settings. -/
def toJson (settings : Settings) : Json :=
  .object
    [("content", settings.source.toJson),
      ("max_layer",
        ofOption (fun layer => .integer layer.toNat)
          settings.maxLayer),
      ("max_evaluation_passes",
        .integer settings.maxPasses.toNat)]

/- The settings of a written form. -/
def ofJson? (json : Json) : Option Settings := do
  let fields ← Record.ofJson?
    ["content", "max_layer", "max_evaluation_passes"] json
  let source ←
    fields.withDefault? "content" .embedded
      ContentSource.ofJson?
  let maxLayer ←
    fields.withDefault? "max_layer" none (nullable? uint32?)
  let maxPasses ←
    fields.withDefault? "max_evaluation_passes" 16 uint64?
  return { source, maxLayer, maxPasses }

end Settings

end TextAdventure
