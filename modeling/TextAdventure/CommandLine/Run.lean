import TextAdventure.CommandLine.Help
import TextAdventure.CommandLine.Play
import TextAdventure.Disk.Tree
import TextAdventure.Format.SettingsText

/-
  Running the program: from arguments and files to what is
  printed, what is written and the exit code.

  The flags of the command line go before the settings in a
  file. A wrong usage has the exit code 2, any other failure
  the exit code 1.

  Key definitions include:
    * `Launch`
    * `Launch.ofInvocation`
    * `Report`
    * `run`
-/

namespace TextAdventure

------------------------------------------------------------
-- Settings And Games
------------------------------------------------------------

namespace SessionOptions

/- A failure that concerns a file. -/
def fileFailure (what path cause : String) : String :=
  "failed to " ++ what ++ " '" ++ path ++ "': " ++ cause

/- The settings in the file of the options, if there is one. -/
def fileSettings (options : SessionOptions) (disk : Disk) :
    Except String Settings :=
  match options.config with
  | none => .ok {}
  | some path =>
      match disk path with
      | .text text =>
          match Settings.ofText? text with
          | some settings => .ok settings
          | none =>
              .error
                (fileFailure "parse config" path
                  "not valid settings")
      | _ =>
          .error
            (fileFailure "read config" path "cannot be read")

/- Settings with the flags of the options on top. -/
def override (options : SessionOptions) (settings : Settings) :
    Settings :=
  let settings :=
    match options.data with
    | some path => settings.withDirectory path
    | none => settings
  match options.maxLayer with
  | some layer => settings.withMaxLayer layer
  | none => settings

/- The settings that the options ask for. -/
def settings (options : SessionOptions) (disk : Disk) :
    Except String Settings :=
  (options.fileSettings disk).map options.override

/- A game, or why there is none. -/
def orFailure (what : String) :
    Logged (Except GameFault Game) →
    Logged (Except String Game) :=
  Logged.map (fun started =>
    match started with
    | .ok game => .ok game
    | .error fault => .error (what ++ ": " ++ fault.message))

/- The game that the options ask for. -/
def game
    (options : SessionOptions)
    (disk : Disk)
    (id : SessionId) : Logged (Except String Game) :=
  match options.settings disk with
  | .error failure => .silent (.error failure)
  | .ok settings =>
      match options.load with
      | none =>
          orFailure "failed to start session"
            (Game.start settings disk id)
      | some path =>
          match disk path with
          | .text text =>
              orFailure
                ("failed to load save '" ++ path ++ "'")
                (Game.load settings disk text)
          | _ =>
              .silent (.error
                (fileFailure "read save" path
                  "cannot be read"))

/-
  The files that the options need, as far as can be told from
  those that have been read.
-/
def files (options : SessionOptions) (disk : Disk) :
    List String :=
  let named := options.config.toList ++ options.load.toList
  match options.settings disk with
  | .ok settings =>
      match settings.source with
      | .directory path => named ++ contentFiles path
      | .embedded => named
  | .error _ => named
where
  /- The files of a directory of content. -/
  contentFiles (path : String) : List String :=
    ["rooms.json", "objects.json", "puzzles.json",
      "scripts.json", "rules.json"].map (joinPath path)

end SessionOptions

------------------------------------------------------------
-- Reports
------------------------------------------------------------

/- What a run prints, how it ends and the warnings it gives. -/
structure Report where
  output : String := ""
  code : UInt32 := 0
  failure : Option String := none
  warnings : List Warning := []
deriving DecidableEq

namespace Report

/- A run that failed. -/
def failed (warnings : List Warning) (message : String) :
    Report where
  code := 1
  failure := some message
  warnings := warnings

/- A run of arguments that cannot be understood. -/
def wrongUsage : Report where
  code := 2
  failure := some "wrong usage; try 'help'"

/- What is printed once a game is saved. -/
def savedText (path : String) : String :=
  "  Saved to " ++ path ++ "\n"

/- The failure to write a save. -/
def unsavedText (path : String) : String :=
  SessionOptions.fileFailure "write save" path
    "cannot be written"

/- A report on the content of a directory. -/
def ofContent (color : Bool) (path : String)
    (content : Content) : String :=
  "  " ++ Style.green.apply color "All checks passed" ++
    " for '" ++ path ++ "'.\n  " ++
    toString content.rooms.length ++ " rooms, " ++
    toString content.things.length ++ " objects, " ++
    toString content.puzzles.length ++ " puzzles, " ++
    toString content.scripts.length ++ " scripts\n" ++
    "  Start room: " ++ content.rules.startRoom ++ "\n"

end Report

------------------------------------------------------------
-- Launching
------------------------------------------------------------

/- What arguments lead to: a finished run, or a game to play. -/
inductive Launch where
| finished (report : Report)
| playing
    (game : Game) (save : Option String)
    (warnings : List Warning)
deriving DecidableEq

namespace Launch

/- The run that checks a directory. -/
def check (color : Bool) (disk : Disk) (path : String) :
    Report :=
  let loaded := Content.ofDirectory disk path
  match loaded.value with
  | .ok content =>
      { output := Report.ofContent color path content
        warnings := loaded.warnings }
  | .error fault =>
      .failed loaded.warnings (path ++ ": " ++ fault.message)

/- The run that prints the briefing of a game. -/
def constraints
    (options : SessionOptions)
    (disk : Disk)
    (id : SessionId) : Report :=
  let started := options.game disk id
  match started.value with
  | .ok game =>
      { output := game.briefing.toJson.pretty ++ "\n"
        warnings := started.warnings }
  | .error failure => .failed started.warnings failure

/- What an invocation leads to. -/
def ofInvocation
    (color : Bool)
    (disk : Disk)
    (id : SessionId) : Invocation → Launch
| .play options save =>
    let started := options.game disk id
    match started.value with
    | .ok game => .playing game save started.warnings
    | .error failure =>
        .finished (.failed started.warnings failure)
| .constraints options =>
    .finished (constraints options disk id)
| .check path => .finished (check color disk path)
| .help topic => .finished { output := helpOn topic }
| .version task => .finished { output := versionText task }
| .wrongUsage => .finished .wrongUsage

end Launch

/-
  The files that an invocation needs, as far as can be told
  from those that have been read.
-/
def Invocation.files (invocation : Invocation) (disk : Disk) :
    List String :=
  match invocation with
  | .play options _ => options.files disk
  | .constraints options => options.files disk
  | .check path => SessionOptions.files.contentFiles path
  | _ => []

------------------------------------------------------------
-- Whole Runs
------------------------------------------------------------

/- The lines of a text; the last one may lack its line end. -/
def linesOf (text : String) : List String :=
  let pieces := (text.toList.splitOn '\n').map String.ofList
  if pieces.getLast? = some "" then pieces.dropLast else pieces

/-
  A whole run with all of its input, on files held in memory,
  and the files after it.
-/
def run
    (color : Bool)
    (tree : FileTree)
    (id : SessionId)
    (time : Timestamp)
    (arguments : List String)
    (input : String) : Report × FileTree :=
  match
      Launch.ofInvocation color tree.disk id
        (.ofArguments arguments) with
  | .finished report => (report, tree)
  | .playing game save warnings =>
      let played := Play.transcript color game (linesOf input)
      let output := Play.greeting color game ++ played.value.2
      let warnings := warnings ++ played.warnings
      match save with
      | none => ({ output, warnings }, tree)
      | some path =>
          match
              tree.write? path (played.value.1.save time) with
          | some written =>
              ({ output := output ++ Report.savedText path
                 warnings }, written)
          | none =>
              ({ Report.failed warnings
                  (Report.unsavedText path) with output },
                tree)

end TextAdventure
