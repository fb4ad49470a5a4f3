/-
  The player's condition and the rules of the story that
  change it.

  Key definitions include:
    * `PlayerState`
    * `DreamRule`
    * `VoidRule`
    * `StoryRules`
-/

namespace TextAdventure

------------------------------------------------------------
-- The Player
------------------------------------------------------------

/- The condition of the player; exactly one holds. -/
inductive PlayerState where
| normal
| dreaming
| void
| dead
deriving DecidableEq

namespace PlayerState

instance : Inhabited PlayerState := ⟨normal⟩

/- The word for a condition. -/
def name : PlayerState → String
| .normal => "normal"
| .dreaming => "dreaming"
| .void => "void"
| .dead => "dead"

/- Every condition. -/
def all : List PlayerState :=
  [.normal, .dreaming, .void, .dead]

/- The condition with a name. -/
def ofName? (name : String) : Option PlayerState :=
  all.find? (fun state => state.name == name)

@[simp] theorem ofName?_name (state : PlayerState) :
    ofName? state.name = some state := by
  cases state <;> decide

end PlayerState

------------------------------------------------------------
-- Rules
------------------------------------------------------------

/- The rooms between which sleeping and waking move. -/
structure DreamRule where
  wakingRoom : String
  dreamingRoom : String
deriving DecidableEq

/- Wearing a thing in a room turns the player into the void. -/
structure VoidRule where
  thing : String
  room : String
deriving DecidableEq

/- Where the story starts and how the player may change. -/
structure StoryRules where
  startRoom : String := ""
  dream : Option DreamRule := none
  void : Option VoidRule := none
deriving DecidableEq

namespace StoryRules

instance : Inhabited StoryRules := ⟨{}⟩

/- Whether a thing is the one that the void rule names. -/
def isVoidThing (rules : StoryRules) (id : String) : Bool :=
  match rules.void with
  | some rule => rule.thing == id
  | none => false

end StoryRules

end TextAdventure
