import TextAdventure.Text.Blank

/-
  The arguments of the command line.

  An option takes one value, as in `--data dir`, `--data=dir`,
  `-d dir` or `-ddir`, and may be given once. What begins with
  a hyphen is a value only behind `=` or right behind a short
  option; a hyphen alone is a value everywhere.

  Key definitions include:
    * `Task`
    * `Topic`
    * `Invocation`
    * `Invocation.ofArguments`
-/

namespace TextAdventure

------------------------------------------------------------
-- Invocations
------------------------------------------------------------

/- What the program can be asked to do. -/
inductive Task where
| play
| constraints
| check
deriving DecidableEq

/- The options that tasks may have. -/
inductive CommandOption where
| data
| maxLayer
| config
| load
| save
deriving DecidableEq

/- The options that say how a session starts. -/
structure SessionOptions where
  data : Option String := none
  maxLayer : Option UInt32 := none
  config : Option String := none
  load : Option String := none
deriving DecidableEq

/-
  What help can be about: the program, one of its tasks, or
  help itself.
-/
inductive Topic where
| program
| task (task : Task)
| help
deriving DecidableEq

/-
  What the program is asked to do. The version may be that
  of one task.
-/
inductive Invocation where
| play (options : SessionOptions) (save : Option String)
| constraints (options : SessionOptions)
| check (data : String)
| help (topic : Topic)
| version (task : Option Task)
| wrongUsage
deriving DecidableEq

------------------------------------------------------------
-- Names
------------------------------------------------------------

namespace Task

/- Every task. -/
def all : List Task :=
  [.play, .constraints, .check]

/- The name of a task. -/
def name : Task → String
| .play => "play"
| .constraints => "constraints"
| .check => "check"

/- The task with a name. -/
def ofName? (name : String) : Option Task :=
  all.find? (fun task => task.name == name)

/- The options of a task. -/
def options : Task → List CommandOption
| .play => [.data, .maxLayer, .config, .load, .save]
| .constraints => [.data, .maxLayer, .config, .load]
| .check => [.data]

end Task

namespace CommandOption

/- The long name of an option. -/
def longName : CommandOption → String
| .data => "data"
| .maxLayer => "max-layer"
| .config => "config"
| .load => "load"
| .save => "save"

/- The letter of an option, if it has one. -/
def letter? : CommandOption → Option Char
| .data => some 'd'
| .maxLayer => none
| .config => some 'c'
| .load => some 'l'
| .save => some 's'

end CommandOption

------------------------------------------------------------
-- Values
------------------------------------------------------------

/- The number of a text of digits, which may have a sign. -/
def signedNumber? (text : String) : Option Int :=
  let (negative, digits) :=
    match text.toList with
    | '-' :: rest => (true, rest)
    | '+' :: rest => (false, rest)
    | chars => (false, chars)
  if digits.isEmpty ∨ !digits.all Char.isDigit then
    none
  else
    let size : Int :=
      digits.foldl
        (fun number c => 10 * number + (c.toNat - '0'.toNat)) 0
    some (if negative then -size else size)

/- The layer that a text gives. -/
def layerOfText? (text : String) : Option UInt32 := do
  let number ← signedNumber? text
  if 0 ≤ number ∧ number < UInt32.size then
    some (UInt32.ofNat number.toNat)
  else
    none

/- Whether an option takes a value. -/
def CommandOption.accepts (value : String) :
    CommandOption → Bool
| .maxLayer => (layerOfText? value).isSome
| _ => value != ""

/- Whether an argument can be the value of the one before. -/
def isValue (argument : String) : Bool :=
  argument = "-" || argument.toList.head? != some '-'

------------------------------------------------------------
-- Reading Options
------------------------------------------------------------

/- The options given so far, with their values. -/
abbrev Given :=
  List (CommandOption × String)

/- What ends the reading of options early. -/
inductive Stop where
| help
| version
| wrongUsage
deriving DecidableEq

/- Take up an option with its value, unless it was given. -/
def Given.add
    (given : Given)
    (option : CommandOption)
    (value : String) : Except Stop Given :=
  if option.accepts value &&
      !given.any (fun entry => entry.1 == option) then
    .ok (given ++ [(option, value)])
  else
    .error .wrongUsage

/- An option that still may need the next argument. -/
inductive Reading where
| complete (option : CommandOption) (value : String)
| awaiting (option : CommandOption)

/- The name of a long option, and its value behind `=`. -/
def splitLong (text : List Char) : String × Option String :=
  let name := text.takeWhile (fun c => c != '=')
  (String.ofList name,
    match text.drop name.length with
    | _ :: value => some (String.ofList value)
    | [] => none)

/- Read a long option behind its two hyphens. -/
def readLong (options : List CommandOption) (text : List Char) :
    Except Stop Reading :=
  match splitLong text with
  | ("help", none) => .error .help
  | ("version", none) => .error .version
  | (name, value) =>
      match options.find? (fun option =>
        option.longName == name) with
      | none => .error .wrongUsage
      | some option =>
          match value with
          | some value => .ok (.complete option value)
          | none => .ok (.awaiting option)

/- Read a short option behind its hyphen. -/
def readShort (options : List CommandOption) :
    List Char → Except Stop Reading
| [] => .error .wrongUsage
| letter :: rest =>
    if letter = 'h' then
      .error .help
    else if letter = 'V' then
      .error .version
    else
      match options.find? (fun option =>
        option.letter? == some letter) with
      | none => .error .wrongUsage
      | some option =>
          match rest with
          | [] => .ok (.awaiting option)
          | '=' :: value =>
              .ok (.complete option (String.ofList value))
          | value =>
              .ok (.complete option (String.ofList value))

/- Read an argument that has to be an option. -/
def readOption (options : List CommandOption)
    (argument : String) : Except Stop Reading :=
  match argument.toList with
  | '-' :: '-' :: text => readLong options text
  | '-' :: text => readShort options text
  | _ => .error .wrongUsage

/- Read options up to the end, or up to two hyphens there. -/
def readOptions (options : List CommandOption) :
    Given → List String → Except Stop Given
| given, [] => .ok given
| given, ["--"] => .ok given
| given, argument :: rest =>
    match readOption options argument with
    | .error stop => .error stop
    | .ok (.complete option value) =>
        match given.add option value with
        | .error stop => .error stop
        | .ok given => readOptions options given rest
    | .ok (.awaiting option) =>
        match rest with
        | [] => .error .wrongUsage
        | value :: rest =>
            if isValue value then
              match given.add option value with
              | .error stop => .error stop
              | .ok given => readOptions options given rest
            else
              .error .wrongUsage

/- The value of an option, if it was given. -/
def Given.value? (given : Given) (option : CommandOption) :
    Option String :=
  (given.find? (fun entry => entry.1 == option)).map Prod.snd

------------------------------------------------------------
-- Reading Invocations
------------------------------------------------------------

namespace Invocation

/- The session options among those given. -/
def sessionOptions (given : Given) : SessionOptions where
  data := given.value? .data
  maxLayer := (given.value? .maxLayer).bind layerOfText?
  config := given.value? .config
  load := given.value? .load

/- A task with the options given. -/
def ofGiven (task : Task) (given : Given) : Invocation :=
  match task with
  | .play => .play (sessionOptions given) (given.value? .save)
  | .constraints => .constraints (sessionOptions given)
  | .check =>
      match given.value? .data with
      | some data => .check data
      | none => .wrongUsage

/- What is asked for when reading stops early. -/
def ofStop (task : Task) : Stop → Invocation
| .help => .help (.task task)
| .version => .version (some task)
| .wrongUsage => .wrongUsage

/- Help on what is named, or on the whole program. -/
def helpOn : List String → Invocation
| [] => .help .program
| ["help"] => .help .help
| [name] =>
    match Task.ofName? name with
    | some task => .help (.task task)
    | none => .wrongUsage
| _ => .wrongUsage

/- What the arguments ask for. -/
def ofArguments : List String → Invocation
| [] => .wrongUsage
| first :: rest =>
    if first = "help" then
      helpOn rest
    else
      match Task.ofName? first with
      | some task =>
          match readOptions task.options [] rest with
          | .ok given => ofGiven task given
          | .error stop => ofStop task stop
      | none =>
          match readOption [] first with
          | .error .help => .help .program
          | .error .version => .version none
          | _ => .wrongUsage

end Invocation

------------------------------------------------------------
-- Examples
------------------------------------------------------------

example :
    Invocation.ofArguments
        ["play", "-dc", "--max-layer=+1", "-s", "-"] =
      .play { data := some "c", maxLayer := some 1 }
        (some "-") := by
  decide +kernel

example :
    Invocation.ofArguments ["play", "-d", "a", "--data=b"] =
      .wrongUsage := by
  decide +kernel

end TextAdventure
