import TextAdventure.Thing.Basic

/-
  Properties of things, addressed by text.

  A path names a flag, in any case and with any underscores,
  or an entry of custom state, after the word `customState.`
  or `custom_state.`. Placement and being worn can be read
  but not written, so reading and writing have each a table
  of words of their own.

  Key definitions include:
    * `Flag`
    * `Property`
    * `Property.ofPath?`
    * `Field`
    * `Field.ofPath?`
    * `Thing.property?`
    * `Thing.setProperty?`
-/

namespace TextAdventure

------------------------------------------------------------
-- Flags
------------------------------------------------------------

/- The flags that content may write. -/
inductive Flag where
| hidden
| wearable
| openable
| «open»
| lockable
| locked
| lit
| fixed
| scenery
| container
| switchable
| switchedOn
deriving DecidableEq

namespace Flag

/- The value of a flag. -/
def get (flag : Flag) (thing : Thing) : Bool :=
  match flag with
  | .hidden => thing.hidden
  | .wearable => thing.isWearable
  | .openable => thing.isOpenable
  | .open => thing.isOpen
  | .lockable => thing.isLockable
  | .locked => thing.isLocked
  | .lit => thing.isLit
  | .fixed => thing.isFixed
  | .scenery => thing.isScenery
  | .container => thing.isContainer
  | .switchable => thing.isSwitchable
  | .switchedOn => thing.isSwitchedOn

/- The thing with a flag set to a value. -/
def set (flag : Flag) (value : Bool) (thing : Thing) : Thing :=
  match flag with
  | .hidden => { thing with hidden := value }
  | .wearable => { thing with isWearable := value }
  | .openable => { thing with isOpenable := value }
  | .open => { thing with isOpen := value }
  | .lockable => { thing with isLockable := value }
  | .locked => { thing with isLocked := value }
  | .lit => { thing with isLit := value }
  | .fixed => { thing with isFixed := value }
  | .scenery => { thing with isScenery := value }
  | .container => { thing with isContainer := value }
  | .switchable => { thing with isSwitchable := value }
  | .switchedOn => { thing with isSwitchedOn := value }

@[simp] theorem get_set_self
    (flag : Flag)
    (value : Bool)
    (thing : Thing) :
    flag.get (flag.set value thing) = value := by
  cases flag <;> rfl

theorem get_set_of_ne
    {flag other : Flag}
    (hNe : other ≠ flag)
    (value : Bool)
    (thing : Thing) :
    other.get (flag.set value thing) = other.get thing := by
  cases flag <;> cases other <;>
    simp_all [Flag.get, Flag.set]

end Flag

------------------------------------------------------------
-- Addresses
------------------------------------------------------------

/- What can be read at a property path. -/
inductive Property where
| custom (key : String)
| flag (flag : Flag)
| visible
| carried
| worn
| location
| containedIn
deriving DecidableEq

namespace Property

/- The normalized words under which a property is read. -/
def named : List (String × Property) :=
  [("hidden", .flag .hidden),
    ("visible", .visible),
    ("iscarried", .carried),
    ("iswearable", .flag .wearable),
    ("isworn", .worn),
    ("isopenable", .flag .openable),
    ("isopen", .flag .open),
    ("islockable", .flag .lockable),
    ("islocked", .flag .locked),
    ("islit", .flag .lit),
    ("isfixed", .flag .fixed),
    ("isscenery", .flag .scenery),
    ("iscontainer", .flag .container),
    ("isswitchable", .flag .switchable),
    ("isswitchedon", .flag .switchedOn),
    ("location", .location),
    ("containedin", .containedIn)]

/- The key of a path into custom state. -/
def customKey? (path : String) : Option String :=
  let chars := path.toList
  ((Text.stripStart? "customState.".toList chars).or
    (Text.stripStart? "custom_state.".toList chars)).map
      String.ofList

/- A path without underscores, in lower case. -/
def normalize (path : String) : String :=
  Text.lowercase
    (String.ofList (path.toList.filter (fun c => c != '_')))

/- The property that is read at a path. -/
def ofPath? (path : String) : Option Property :=
  match customKey? path with
  | some key => some (.custom key)
  | none =>
      (named.find? (fun entry =>
        entry.1 == normalize path)).map Prod.snd

end Property

/- What can be written at a property path. -/
inductive Field where
| custom (key : String)
| flag (flag : Flag)
| visible
deriving DecidableEq

namespace Field

/- The normalized words under which a field is written. -/
def named : List (String × Field) :=
  [("hidden", .flag .hidden),
    ("iswearable", .flag .wearable),
    ("isopenable", .flag .openable),
    ("isopen", .flag .open),
    ("islockable", .flag .lockable),
    ("islocked", .flag .locked),
    ("islit", .flag .lit),
    ("isfixed", .flag .fixed),
    ("isscenery", .flag .scenery),
    ("iscontainer", .flag .container),
    ("isswitchable", .flag .switchable),
    ("isswitchedon", .flag .switchedOn),
    ("visible", .visible)]

/- The field that is written at a path. -/
def ofPath? (path : String) : Option Field :=
  match Property.customKey? path with
  | some key => some (.custom key)
  | none =>
      (named.find? (fun entry =>
        entry.1 == Property.normalize path)).map Prod.snd

end Field

------------------------------------------------------------
-- Reading And Writing
------------------------------------------------------------

namespace Thing

/- The value of a property, if the thing has one there. -/
def read? (thing : Thing) : Property → Option Value
| .custom key => thing.customState.get? key
| .flag flag => some (.boolean (flag.get thing))
| .visible => some (.boolean (!thing.hidden))
| .carried => some (.boolean thing.placement.isCarried)
| .worn => some (.boolean thing.isWorn)
| .location => thing.placement.room?.map .text
| .containedIn => thing.placement.container?.map .text

/- The thing with a field written. -/
def write
    (field : Field)
    (value : Value)
    (thing : Thing) : Thing :=
  match field with
  | .custom key => thing.withState key value
  | .flag flag => flag.set value.isTruthy thing
  | .visible => { thing with hidden := !value.isTruthy }

/- The value at a path. -/
def property? (thing : Thing) (path : String) : Option Value :=
  match Property.ofPath? path with
  | some property => thing.read? property
  | none => none

/- The thing with the value at a path, if it may be written. -/
def setProperty?
    (thing : Thing)
    (path : String)
    (value : Value) : Option Thing :=
  match Field.ofPath? path with
  | some field => some (thing.write field value)
  | none => none

end Thing

------------------------------------------------------------
-- Examples
------------------------------------------------------------

example :
    Property.ofPath? "is_Switched_ON" =
      some (.flag .switchedOn) := by
  decide +kernel

example :
    Field.ofPath? "customState.a.b" =
      some (.custom "a.b") := by
  decide +kernel

end TextAdventure
