import TextAdventure.Direction
import TextAdventure.Json.Record
import TextAdventure.Puzzle
import TextAdventure.Session.Basic

/-
  The written form of values, words and effects.

  A value is written as the JSON value of its kind, so that
  an integer and a double stay apart. A variant is written as
  its name; an effect is a record that names its kind in the
  field `type`.

  Key definitions include:
    * `Value.toJson` and `Value.ofJson?`
    * `Placement.toJson` and `Placement.ofJson?`
    * `Effect.toJson` and `Effect.ofJson?`
-/

namespace TextAdventure

------------------------------------------------------------
-- Values
------------------------------------------------------------

namespace Value

/- The written form of a value. -/
def toJson : Value → Json
| .boolean value => .bool value
| .integer value => .integer value.toInt
| .float value => .float value
| .text value => .string value

/- The value of a double, if it is a number and finite. -/
def ofDouble? (value : Float) : Option Value :=
  if value.isInf || value.isNaN then none
  else some (.float value)

/-
  The value of a written form. An integer that does not fit
  is a double, and a number without a double is no value.
-/
def ofJson? : Json → Option Value
| .bool value => some (.boolean value)
| .integer value =>
    if Int64.minValue.toInt ≤ value ∧
        value ≤ Int64.maxValue.toInt then
      some (.integer (Int64.ofInt value))
    else
      ofDouble? (Float.ofInt value)
| .float value => ofDouble? value
| .string value => some (.text value)
| _ => none

end Value

------------------------------------------------------------
-- Words
------------------------------------------------------------

namespace Direction

/- The written form of a direction. -/
def toJson (direction : Direction) : Json :=
  .string direction.name

/- The direction of a written form. -/
def ofJson? : Json → Option Direction :=
  Json.unitVariant? ofName?

end Direction

namespace Verb

/- The written form of a verb. -/
def toJson (verb : Verb) : Json :=
  .string verb.name

/- The verb of a written form. -/
def ofJson? : Json → Option Verb :=
  Json.unitVariant? ofName?

end Verb

namespace PlayerState

/- The written form of a condition of the player. -/
def toJson (state : PlayerState) : Json :=
  .string state.name

/- The condition of the player of a written form. -/
def ofJson? : Json → Option PlayerState :=
  Json.unitVariant? ofName?

end PlayerState

namespace ConditionKind

/- The written form of a kind of condition. -/
def toJson (kind : ConditionKind) : Json :=
  .string kind.name

/- The kind of condition of a written form. -/
def ofJson? : Json → Option ConditionKind :=
  Json.unitVariant? ofName?

end ConditionKind

namespace SessionId

/- The written form of a session id. -/
def toJson (id : SessionId) : Json :=
  .string id.text

/- The session id of a written form. -/
def ofJson? : Json → Option SessionId
| .string text => ofText? text
| _ => none

end SessionId

------------------------------------------------------------
-- Placements
------------------------------------------------------------

namespace Placement

/- The written form of a placement. -/
def toJson : Placement → Json
| .room id => .object [("room", .string id)]
| .container id => .object [("container", .string id)]
| .carried => .string "carried"
| .nowhere => .string "nowhere"

/- The placement of a written form. -/
def ofJson? (json : Json) : Option Placement := do
  let (name, content) ← Json.variant? json
  match name, content with
  | "room", some content =>
      (Json.string? content).map .room
  | "container", some content =>
      (Json.string? content).map .container
  | "carried", content =>
      if Json.isUnit content then some .carried else none
  | "nowhere", content =>
      if Json.isUnit content then some .nowhere else none
  | _, _ => none

end Placement

------------------------------------------------------------
-- Effects
------------------------------------------------------------

namespace Effect

/- An effect written as a record with its kind in front. -/
def tagged (kind : String) (fields : List (String × Json)) :
    Json :=
  .object (("type", .string kind) :: fields)

/- The written form of an effect. -/
def toJson : Effect → Json
| .unlockExit exit =>
    tagged "unlock_exit" [("exit", .string exit)]
| .revealThing thing =>
    tagged "reveal_object" [("object", .string thing)]
| .setFlag flag value =>
    tagged "set_flag"
      [("flag", .string flag), ("value", value.toJson)]
| .moveThing thing room =>
    tagged "move_object"
      [("object", .string thing), ("room", .string room)]
| .triggerEvent event =>
    tagged "trigger_event" [("event", .string event)]
| .setProperty thing property value =>
    tagged "set_property"
      [("object", .string thing),
        ("property", .string property),
        ("value", value.toJson)]
| .setPlayerState state =>
    tagged "set_player_state" [("state", state.toJson)]

/- The word in the field that names the kind. -/
def kindOf? : Json → Option String
| .object members =>
    match
        members.filter (fun entry => entry.1 == "type") with
    | [(_, .string kind)] => some kind
    | _ => none
| .array (.string kind :: _) => some kind
| _ => none

/-
  The condition of the player that an effect sets. In an
  effect its name may also come with an empty object.
-/
def stateOfJson? : Json → Option PlayerState
| .object [(name, .object [])] => PlayerState.ofName? name
| json => PlayerState.ofJson? json

/- The effect of a written form without unreadable parts. -/
def ofReadable? (json : Json) : Option Effect := do
  let kind ← kindOf? json
  let record (names : List String) :=
    Json.Record.ofJson? ("type" :: names) json
  match kind with
  | "unlock_exit" =>
      let fields ← record ["exit"]
      let exit ← fields.required? "exit" Json.string?
      return .unlockExit exit
  | "reveal_object" =>
      let fields ← record ["object"]
      let thing ← fields.required? "object" Json.string?
      return .revealThing thing
  | "set_flag" =>
      let fields ← record ["flag", "value"]
      let flag ← fields.required? "flag" Json.string?
      let value ←
        fields.withDefault? "value" (.boolean true)
          Value.ofJson?
      return .setFlag flag value
  | "move_object" =>
      let fields ← record ["object", "room"]
      let thing ← fields.required? "object" Json.string?
      let room ← fields.required? "room" Json.string?
      return .moveThing thing room
  | "trigger_event" =>
      let fields ← record ["event"]
      let event ← fields.required? "event" Json.string?
      return .triggerEvent event
  | "set_property" =>
      let fields ← record ["object", "property", "value"]
      let thing ← fields.required? "object" Json.string?
      let property ←
        fields.required? "property" Json.string?
      let value ←
        fields.withDefault? "value" (.boolean true)
          Value.ofJson?
      return .setProperty thing property value
  | "set_player_state" =>
      let fields ← record ["state"]
      let state ←
        fields.required? "state" stateOfJson?
      return .setPlayerState state
  | _ => none

/-
  The effect of a written form. All of it is read before the
  kind is known, so also what is skipped must be readable.
-/
def ofJson? (json : Json) : Option Effect :=
  if json.isReadable then ofReadable? json else none

end Effect

end TextAdventure
