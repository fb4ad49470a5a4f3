/-
  The verbs of the game and the words for them.

  Key definitions include:
    * `Verb`
    * `Verb.name`
    * `Verb.ofName?`
    * `Verb.ofAlias?`
    * `Verb.isQuery`
-/

namespace TextAdventure

------------------------------------------------------------
-- Verbs
------------------------------------------------------------

/- What a player can ask for. -/
inductive Verb where
| look
| examine
| inventory
| go
| take
| drop
| put
| «open»
| close
| wear
| remove
| switchOn
| switchOff
| burn
| search
| focus
| become
| wait
| sleep
| wake
| unscrew
| screw
| read
| help
deriving DecidableEq

namespace Verb

/- Every verb. -/
def all : List Verb :=
  [.look, .examine, .inventory, .go, .take, .drop, .put,
    .open, .close, .wear, .remove, .switchOn, .switchOff,
    .burn, .search, .focus, .become, .wait, .sleep, .wake,
    .unscrew, .screw, .read, .help]

/- The list of all verbs is complete. -/
theorem mem_all (verb : Verb) : verb ∈ all := by
  cases verb <;> decide

/- The canonical name of a verb. -/
def name : Verb → String
| .look => "look"
| .examine => "examine"
| .inventory => "inventory"
| .go => "go"
| .take => "take"
| .drop => "drop"
| .put => "put"
| .open => "open"
| .close => "close"
| .wear => "wear"
| .remove => "remove"
| .switchOn => "switch_on"
| .switchOff => "switch_off"
| .burn => "burn"
| .search => "search"
| .focus => "focus"
| .become => "become"
| .wait => "wait"
| .sleep => "sleep"
| .wake => "wake"
| .unscrew => "unscrew"
| .screw => "screw"
| .read => "read"
| .help => "help"

/- The words by which a question names a verb. -/
def prompt : Verb → String
| .switchOn => "switch on"
| .switchOff => "switch off"
| verb => verb.name

/- Verbs that only read; they stay open to the dead. -/
def isQuery : Verb → Bool
| .look => true
| .examine => true
| .inventory => true
| .help => true
| .wait => true
| .read => true
| _ => false

/- The verb with a canonical name. -/
def ofName? (name : String) : Option Verb :=
  all.find? (fun verb => verb.name == name)

/- Every verb is found by its name. -/
@[simp] theorem ofName?_name (verb : Verb) :
    ofName? verb.name = some verb := by
  cases verb <;> decide

------------------------------------------------------------
-- Aliases
------------------------------------------------------------

/- Words other than the canonical ones. -/
def otherWords : List (String × Verb) :=
  [("l", .look), ("x", .examine), ("ex", .examine),
    ("inspect", .examine), ("describe", .examine),
    ("i", .inventory), ("inv", .inventory), ("walk", .go),
    ("run", .go), ("move", .go), ("head", .go),
    ("get", .take), ("grab", .take), ("discard", .drop),
    ("place", .put), ("insert", .put), ("shut", .close),
    ("don", .wear), ("doff", .remove),
    ("activate", .switchOn), ("deactivate", .switchOff),
    ("ignite", .burn), ("torch", .burn),
    ("rummage", .search), ("concentrate", .focus),
    ("meditate", .focus), ("transform", .become),
    ("z", .wait), ("nap", .sleep), ("awaken", .wake),
    ("h", .help), ("?", .help), ("commands", .help)]

/- The verb that a single word in lower case stands for. -/
def ofAlias? (word : String) : Option Verb :=
  match ofName? word with
  | some verb => some verb
  | none =>
      (otherWords.find? (fun entry =>
        entry.1 == word)).map Prod.snd

end Verb

end TextAdventure
