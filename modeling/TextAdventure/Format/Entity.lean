import TextAdventure.Content.Basic
import TextAdventure.Format.Value

/-
  The written form of content: rooms, things, puzzles,
  scripts and rules.

  Every field is written, also one that has its default. When
  read, a field with a default may be left out.

  Key definitions include:
    * `Room.toJson` and `Room.ofJson?`
    * `Thing.toJson` and `Thing.ofJson?`
    * `Content.toJson` and `Content.ofJson?`
-/

namespace TextAdventure

open Json (string? bool? nullable? list? strings? uint32?
  ofStrings ofOption ofList Record)

------------------------------------------------------------
-- Rooms
------------------------------------------------------------

namespace Exit

/- The written form of an exit. -/
def toJson (exit : Exit) : Json :=
  .object
    [("direction", exit.direction.toJson),
      ("destination", .string exit.destination),
      ("door", ofOption .string exit.door),
      ("blocked", .bool exit.blocked),
      ("blockedMessage",
        ofOption .string exit.blockedMessage)]

/- The exit of a written form. -/
def ofJson? (json : Json) : Option Exit := do
  let fields ← Record.ofJson?
    ["direction", "destination", "door", "blocked",
      "blockedMessage"] json
  let direction ←
    fields.required? "direction" Direction.ofJson?
  let destination ← fields.required? "destination" string?
  let door ←
    fields.withDefault? "door" none (nullable? string?)
  let blocked ← fields.withDefault? "blocked" false bool?
  let blockedMessage ←
    fields.withDefault? "blockedMessage" none
      (nullable? string?)
  return { direction, destination, door, blocked,
           blockedMessage }

end Exit

namespace Room

/- The written form of a room. -/
def toJson (room : Room) : Json :=
  .object
    [("id", .string room.id),
      ("name", .string room.name),
      ("region", .string room.region),
      ("description", .string room.description),
      ("darkDescription",
        ofOption .string room.darkDescription),
      ("isDark", .bool room.isDark),
      ("visited", .bool room.visited),
      ("exits", ofList Exit.toJson room.exits),
      ("objects", ofStrings room.things),
      ("layer", .integer room.layer.toNat)]

/- The room of a written form. -/
def ofJson? (json : Json) : Option Room := do
  let fields ← Record.ofJson?
    ["id", "name", "region", "description",
      "darkDescription", "isDark", "visited", "exits",
      "objects", "layer"] json
  let id ← fields.required? "id" string?
  let name ← fields.required? "name" string?
  let region ← fields.withDefault? "region" "" string?
  let description ←
    fields.withDefault? "description" "" string?
  let darkDescription ←
    fields.withDefault? "darkDescription" none
      (nullable? string?)
  let isDark ← fields.withDefault? "isDark" false bool?
  let visited ← fields.withDefault? "visited" false bool?
  let exits ←
    fields.withDefault? "exits" [] (list? Exit.ofJson?)
  let things ← fields.withDefault? "objects" [] strings?
  let layer ← fields.withDefault? "layer" 0 uint32?
  return { id, name, region, description, darkDescription,
           isDark, visited, exits, things, layer }

end Room

------------------------------------------------------------
-- Things
------------------------------------------------------------

namespace Thing

/- The written form of a thing. -/
def toJson (thing : Thing) : Json :=
  .object
    [("id", .string thing.id),
      ("name", .string thing.name),
      ("aliases", ofStrings thing.aliases),
      ("description", .string thing.description),
      ("text", ofOption .string thing.text),
      ("placement", thing.placement.toJson),
      ("hidden", .bool thing.hidden),
      ("isWearable", .bool thing.isWearable),
      ("isWorn", .bool thing.isWorn),
      ("isOpenable", .bool thing.isOpenable),
      ("isOpen", .bool thing.isOpen),
      ("isLockable", .bool thing.isLockable),
      ("isLocked", .bool thing.isLocked),
      ("isLit", .bool thing.isLit),
      ("isFixed", .bool thing.isFixed),
      ("isScenery", .bool thing.isScenery),
      ("isContainer", .bool thing.isContainer),
      ("isSwitchable", .bool thing.isSwitchable),
      ("isSwitchedOn", .bool thing.isSwitchedOn),
      ("customState",
        Json.ofDict Value.toJson thing.customState)]

/- The thing of a written form. -/
def ofJson? (json : Json) : Option Thing := do
  let fields ← Record.ofJson?
    ["id", "name", "aliases", "description", "text",
      "placement", "hidden", "isWearable", "isWorn",
      "isOpenable", "isOpen", "isLockable", "isLocked",
      "isLit", "isFixed", "isScenery", "isContainer",
      "isSwitchable", "isSwitchedOn", "customState"] json
  let flag (name : String) : Option Bool :=
    fields.withDefault? name false bool?
  let id ← fields.withDefault? "id" "" string?
  let name ← fields.withDefault? "name" "" string?
  let aliases ← fields.withDefault? "aliases" [] strings?
  let description ←
    fields.withDefault? "description" "" string?
  let text ←
    fields.withDefault? "text" none (nullable? string?)
  let placement ←
    fields.withDefault? "placement" .nowhere
      Placement.ofJson?
  let hidden ← flag "hidden"
  let isWearable ← flag "isWearable"
  let isWorn ← flag "isWorn"
  let isOpenable ← flag "isOpenable"
  let isOpen ← flag "isOpen"
  let isLockable ← flag "isLockable"
  let isLocked ← flag "isLocked"
  let isLit ← flag "isLit"
  let isFixed ← flag "isFixed"
  let isScenery ← flag "isScenery"
  let isContainer ← flag "isContainer"
  let isSwitchable ← flag "isSwitchable"
  let isSwitchedOn ← flag "isSwitchedOn"
  let customState ←
    fields.withDefault? "customState" .empty
      (Json.dict? Value.ofJson?)
  return { id, name, aliases, description, text, placement,
           hidden, isWearable, isWorn, isOpenable, isOpen,
           isLockable, isLocked, isLit, isFixed, isScenery,
           isContainer, isSwitchable, isSwitchedOn,
           customState }

end Thing

------------------------------------------------------------
-- Puzzles And Scripts
------------------------------------------------------------

namespace Condition

/- The written form of a condition. -/
def toJson (condition : Condition) : Json :=
  .object
    [("kind", condition.kind.toJson),
      ("target", .string condition.target),
      ("property", ofOption .string condition.property),
      ("value", condition.value.toJson)]

/- The condition of a written form. -/
def ofJson? (json : Json) : Option Condition := do
  let fields ← Record.ofJson?
    ["kind", "target", "property", "value"] json
  let kind ← fields.required? "kind" ConditionKind.ofJson?
  let target ← fields.required? "target" string?
  let property ←
    fields.withDefault? "property" none (nullable? string?)
  let value ←
    fields.withDefault? "value" (.boolean true) Value.ofJson?
  return { kind, target, property, value }

end Condition

namespace Puzzle

/- The written form of a puzzle. -/
def toJson (puzzle : Puzzle) : Json :=
  .object
    [("id", .string puzzle.id),
      ("name", .string puzzle.name),
      ("solved", .bool puzzle.solved),
      ("conditions",
        ofList Condition.toJson puzzle.conditions),
      ("effects", ofList Effect.toJson puzzle.effects),
      ("hint", ofOption .string puzzle.hint),
      ("message", ofOption .string puzzle.message),
      ("dependsOn", ofStrings puzzle.dependsOn),
      ("layer", .integer puzzle.layer.toNat)]

/- The puzzle of a written form. -/
def ofJson? (json : Json) : Option Puzzle := do
  let fields ← Record.ofJson?
    ["id", "name", "solved", "conditions", "effects", "hint",
      "message", "dependsOn", "layer"] json
  let id ← fields.required? "id" string?
  let name ← fields.required? "name" string?
  let solved ← fields.withDefault? "solved" false bool?
  let conditions ←
    fields.withDefault? "conditions" []
      (list? Condition.ofJson?)
  let effects ←
    fields.withDefault? "effects" [] (list? Effect.ofJson?)
  let hint ←
    fields.withDefault? "hint" none (nullable? string?)
  let message ←
    fields.withDefault? "message" none (nullable? string?)
  let dependsOn ←
    fields.withDefault? "dependsOn" [] strings?
  let layer ← fields.withDefault? "layer" 0 uint32?
  return { id, name, solved, conditions, effects, hint,
           message, dependsOn, layer }

end Puzzle

namespace Script

/- The written form of a script. -/
def toJson (script : Script) : Json :=
  .object
    [("object", .string script.thing),
      ("verb", script.verb.toJson),
      ("once", .bool script.once),
      ("message", ofOption .string script.message),
      ("effects", ofList Effect.toJson script.effects)]

/- The script of a written form. -/
def ofJson? (json : Json) : Option Script := do
  let fields ← Record.ofJson?
    ["object", "verb", "once", "message", "effects"] json
  let thing ← fields.required? "object" string?
  let verb ← fields.required? "verb" Verb.ofJson?
  let once ← fields.withDefault? "once" false bool?
  let message ←
    fields.withDefault? "message" none (nullable? string?)
  let effects ←
    fields.withDefault? "effects" [] (list? Effect.ofJson?)
  return { thing, verb, once, message, effects }

end Script

------------------------------------------------------------
-- Rules
------------------------------------------------------------

namespace DreamRule

/- The written form of a dream rule. -/
def toJson (rule : DreamRule) : Json :=
  .object
    [("wakingRoom", .string rule.wakingRoom),
      ("dreamingRoom", .string rule.dreamingRoom)]

/- The dream rule of a written form. -/
def ofJson? (json : Json) : Option DreamRule := do
  let fields ←
    Record.ofJson? ["wakingRoom", "dreamingRoom"] json
  let wakingRoom ← fields.required? "wakingRoom" string?
  let dreamingRoom ← fields.required? "dreamingRoom" string?
  return { wakingRoom, dreamingRoom }

end DreamRule

namespace VoidRule

/- The written form of a void rule. -/
def toJson (rule : VoidRule) : Json :=
  .object
    [("object", .string rule.thing),
      ("room", .string rule.room)]

/- The void rule of a written form. -/
def ofJson? (json : Json) : Option VoidRule := do
  let fields ← Record.ofJson? ["object", "room"] json
  let thing ← fields.required? "object" string?
  let room ← fields.required? "room" string?
  return { thing, room }

end VoidRule

namespace StoryRules

/- The written form of rules. -/
def toJson (rules : StoryRules) : Json :=
  .object
    [("startRoom", .string rules.startRoom),
      ("dream", ofOption DreamRule.toJson rules.dream),
      ("void", ofOption VoidRule.toJson rules.void)]

/- The rules of a written form. -/
def ofJson? (json : Json) : Option StoryRules := do
  let fields ←
    Record.ofJson? ["startRoom", "dream", "void"] json
  let startRoom ←
    fields.withDefault? "startRoom" "" string?
  let dream ←
    fields.withDefault? "dream" none
      (nullable? DreamRule.ofJson?)
  let void ←
    fields.withDefault? "void" none
      (nullable? VoidRule.ofJson?)
  return { startRoom, dream, void }

end StoryRules

------------------------------------------------------------
-- Content
------------------------------------------------------------

namespace Content

/- The written form of content. -/
def toJson (content : Content) : Json :=
  .object
    [("rules", content.rules.toJson),
      ("rooms", ofList Room.toJson content.rooms),
      ("objects", ofList Thing.toJson content.things),
      ("puzzles", ofList Puzzle.toJson content.puzzles),
      ("scripts", ofList Script.toJson content.scripts)]

/- The content of a written form. -/
def ofJson? (json : Json) : Option Content := do
  let fields ← Record.ofJson?
    ["rules", "rooms", "objects", "puzzles", "scripts"] json
  let rules ←
    fields.withDefault? "rules" {} StoryRules.ofJson?
  let rooms ←
    fields.withDefault? "rooms" [] (list? Room.ofJson?)
  let things ←
    fields.withDefault? "objects" [] (list? Thing.ofJson?)
  let puzzles ←
    fields.withDefault? "puzzles" [] (list? Puzzle.ofJson?)
  let scripts ←
    fields.withDefault? "scripts" [] (list? Script.ofJson?)
  return { rules, rooms, things, puzzles, scripts }

end Content

end TextAdventure
