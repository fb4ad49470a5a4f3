import Std.Time.DateTime.Timestamp
import TextAdventure.CommandLine.Run

/-
  The program.

  It reads files, arguments and lines, prints what the
  library answers and writes the saved game. All decisions
  are the library's.

  Key definitions include:
    * `main`
-/

namespace TextAdventure

namespace Program

/- What is found at a path. -/
def find (path : String) : IO Found := do
  try
    return .text (← IO.FS.readFile path)
  catch
  | .noFileOrDirectory .. => return .nothing
  | _ => return .unreadable

/- The files at some paths. -/
def readDisk (paths : List String) : IO Disk := do
  let files ← paths.mapM (fun path => do
    return (path, ← find path))
  return fun path =>
    match files.find? (fun file => file.1 == path) with
    | some file => file.2
    | none => .nothing

/- All files that an invocation needs. -/
def disk (invocation : Invocation) : IO Disk := do
  let named ← readDisk
    (invocation.files (fun _ => .nothing))
  readDisk (invocation.files named)

/- A random id for a new session. -/
def newId : IO SessionId := do
  let words ← (List.range 4).mapM
    (fun _ => IO.rand 0 (UInt32.size - 1))
  return .ofRandom words

/- The present time. -/
def now : IO Timestamp := do
  let time ← Std.Time.Timestamp.now
  return {
    seconds := time.val.second.val
    nanoseconds := time.val.nano.val.toNat }

/- Print a text at once. -/
def print (text : String) : IO Unit := do
  let output ← IO.getStdout
  output.putStr text
  output.flush

/- Print warnings apart from the output. -/
def warn (warnings : List Warning) : IO Unit :=
  warnings.forM (fun warning =>
    IO.eprintln ("warning: " ++ warning.message))

/- Print a report and give its exit code. -/
def finish (report : Report) : IO UInt32 := do
  warn report.warnings
  print report.output
  match report.failure with
  | some message => IO.eprintln ("error: " ++ message)
  | none => pure ()
  return report.code

/- Play until the player quits or the input ends. -/
partial def playOn (color : Bool) (game : Game) : IO Game := do
  print Play.prompt
  let line ← (← IO.getStdin).getLine
  if line.isEmpty || Play.isQuit line then
    return game
  let answer := Play.respond color game line
  warn answer.warnings
  print answer.value.2
  playOn color answer.value.1

/- Write a game to a file. -/
def writeSave (game : Game) (path : String) : IO UInt32 := do
  let text := game.save (← now)
  try
    IO.FS.writeFile path text
    finish { output := Report.savedText path }
  catch _ =>
    finish (.failed [] (Report.unsavedText path))

/- Play a game, and save it if asked to. -/
def play
    (color : Bool)
    (game : Game)
    (save : Option String) : IO UInt32 := do
  print (Play.greeting color game)
  let last ← playOn color game
  match save with
  | some path => writeSave last path
  | none => return 0

/- Whether styles are wanted. -/
def color : IO Bool := do
  return wantsColor
    (← IO.getEnv "CLICOLOR_FORCE")
    (← IO.getEnv "NO_COLOR")
    (← IO.getEnv "CLICOLOR")
    (← (← IO.getStdout).isTty)

/- Do what the arguments ask for. -/
def run (arguments : List String) : IO UInt32 := do
  let invocation := Invocation.ofArguments arguments
  let color ← color
  let disk ← disk invocation
  let id ← newId
  match Launch.ofInvocation color disk id invocation with
  | .finished report => finish report
  | .playing game save warnings => do
      warn warnings
      play color game save

end Program

end TextAdventure

/- Run the program on its arguments. -/
def main (arguments : List String) : IO UInt32 :=
  TextAdventure.Program.run arguments
