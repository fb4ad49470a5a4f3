import TextAdventure.Story
import TextAdventure.Value
import TextAdventure.Verb

/-
  Puzzles and scripts, and the conditions and effects they
  are made of.

  Key definitions include:
    * `Condition`
    * `Effect`
    * `Puzzle`
    * `Script`
    * `Script.firedFlag`
-/

namespace TextAdventure

------------------------------------------------------------
-- Conditions
------------------------------------------------------------

/- What a condition looks at. -/
inductive ConditionKind where
| thingState
| inventory
| flag
| room
deriving DecidableEq

namespace ConditionKind

/- The word for a kind of condition. -/
def name : ConditionKind → String
| .thingState => "object_state"
| .inventory => "inventory"
| .flag => "flag"
| .room => "room"

/- Every kind of condition. -/
def all : List ConditionKind :=
  [.thingState, .inventory, .flag, .room]

/- The kind of condition with a name. -/
def ofName? (name : String) : Option ConditionKind :=
  all.find? (fun kind => kind.name == name)

@[simp] theorem ofName?_name (kind : ConditionKind) :
    ofName? kind.name = some kind := by
  cases kind <;> decide

end ConditionKind

/-
  A check of the state of the game. The target is a thing, a
  flag or a room; only a thing has a property to look at.
-/
structure Condition where
  kind : ConditionKind
  target : String
  property : Option String := none
  value : Value := .boolean true
deriving DecidableEq

------------------------------------------------------------
-- Effects
------------------------------------------------------------

/- A change that a solved puzzle or a script makes. -/
inductive Effect where
| unlockExit (exit : String)
| revealThing (thing : String)
| setFlag (flag : String) (value : Value)
| moveThing (thing : String) (room : String)
| triggerEvent (event : String)
| setProperty
    (thing : String) (property : String) (value : Value)
| setPlayerState (state : PlayerState)
deriving DecidableEq

/- The flag that an event raises. -/
def eventFlag (event : String) : String :=
  "event_" ++ event

------------------------------------------------------------
-- Puzzles
------------------------------------------------------------

/-
  A rule that fires once, when the puzzles it depends on are
  solved and all its conditions hold.
-/
structure Puzzle where
  id : String
  name : String
  solved : Bool := false
  conditions : List Condition := []
  effects : List Effect := []
  hint : Option String := none
  message : Option String := none
  dependsOn : List String := []
  layer : UInt32 := 0
deriving DecidableEq

------------------------------------------------------------
-- Scripts
------------------------------------------------------------

/- What a verb on one thing does beyond the verb's own work. -/
structure Script where
  thing : String
  verb : Verb
  once : Bool := false
  message : Option String := none
  effects : List Effect := []
deriving DecidableEq

namespace Script

/- The flag that remembers that a script has fired. -/
def firedFlag (script : Script) : String :=
  "script:" ++ script.thing ++ ":" ++ script.verb.name

/- Whether a script belongs to a verb on a thing. -/
def isFor (script : Script) (thing : String) (verb : Verb) :
    Bool :=
  script.thing == thing && script.verb == verb

end Script

end TextAdventure
