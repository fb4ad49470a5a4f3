import TextAdventure.Dict
import TextAdventure.Text.Lowercase
import TextAdventure.Text.Search
import TextAdventure.Value

/-
  Things and where they are.

  A thing is in exactly one place: in a room, inside another
  thing, in the player's hands, or nowhere.

  Key definitions include:
    * `Placement`
    * `Thing`
    * `Thing.isOpenContainer`
    * `Thing.matchesExactly`
    * `Thing.matchesPartially`
-/

namespace TextAdventure

------------------------------------------------------------
-- Placements
------------------------------------------------------------

/- Where a thing is. -/
inductive Placement where
| room (id : String)
| container (id : String)
| carried
| nowhere
deriving DecidableEq

namespace Placement

instance : Inhabited Placement := ⟨nowhere⟩

/- The room that a thing lies in directly. -/
def room? : Placement → Option String
| .room id => some id
| _ => none

/- The thing that a thing lies inside of directly. -/
def container? : Placement → Option String
| .container id => some id
| _ => none

/- Whether the player carries the thing. -/
def isCarried : Placement → Bool
| .carried => true
| _ => false

@[simp] theorem isCarried_eq_true_iff
    (placement : Placement) :
    placement.isCarried = true ↔ placement = .carried := by
  cases placement <;> simp [isCarried]

end Placement

------------------------------------------------------------
-- Things
------------------------------------------------------------

/-
  An object of the story. The flags say what it can do and
  what state it is in; `customState` holds entries that only
  the content gives a meaning.
-/
structure Thing where
  id : String := ""
  name : String := ""
  aliases : List String := []
  description : String := ""
  text : Option String := none
  placement : Placement := .nowhere
  hidden : Bool := false
  isWearable : Bool := false
  isWorn : Bool := false
  isOpenable : Bool := false
  isOpen : Bool := false
  isLockable : Bool := false
  isLocked : Bool := false
  isLit : Bool := false
  isFixed : Bool := false
  isScenery : Bool := false
  isContainer : Bool := false
  isSwitchable : Bool := false
  isSwitchedOn : Bool := false
  customState : Dict Value := .empty
deriving DecidableEq

namespace Thing

instance : Inhabited Thing := ⟨{}⟩

/- Whether the player may pick the thing up. -/
def isPortable (thing : Thing) : Bool :=
  !thing.isFixed && !thing.isScenery

/- Whether what is inside can be seen and reached. -/
def isOpenContainer (thing : Thing) : Bool :=
  thing.isContainer && (!thing.isOpenable || thing.isOpen)

/- Whether the thing gives light now. -/
def givesLight (thing : Thing) : Bool :=
  thing.isLit && (!thing.isSwitchable || thing.isSwitchedOn)

/- Whether an entry of custom state is there and true. -/
def hasState (thing : Thing) (key : String) : Bool :=
  match thing.customState.get? key with
  | some value => value.isTruthy
  | none => false

/- The thing with an entry of custom state. -/
def withState
    (thing : Thing)
    (key : String)
    (value : Value) : Thing :=
  { thing with
      customState := thing.customState.insert key value }

------------------------------------------------------------
-- Names
------------------------------------------------------------

/- Whether a lower-case text is the name, id or an alias. -/
def matchesExactly (thing : Thing) (text : String) : Bool :=
  Text.lowercase thing.name == text ||
    Text.lowercase thing.id == text ||
    thing.aliases.any (fun other =>
      Text.lowercase other == text)

/- Whether a lower-case text is part of the name or an alias. -/
def matchesPartially (thing : Thing) (text : String) : Bool :=
  Text.contains (Text.lowercase thing.name) text ||
    thing.aliases.any (fun other =>
      Text.contains (Text.lowercase other) text)

end Thing

end TextAdventure
