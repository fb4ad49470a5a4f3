import TextAdventure.CommandLine.Arguments

/-
  What the program tells of itself.

  Key definitions include:
    * `versionText`
    * `helpOn`
-/

namespace TextAdventure

/- The name of the program. -/
def programName : String := "umbra"

/- The version of the program. -/
def programVersion : String := "0.1.0"

namespace Task

/- What a task does. -/
def summary : Task → String
| .play => "Play interactively, reading commands from stdin"
| .constraints =>
    "Print the narrative constraints of a session as JSON"
| .check => "Validate a content directory"

/- How the options of a task are written. -/
def usage : Task → String
| .check => "--data <DATA>"
| _ => "[OPTIONS]"

/- The lines on the options of a task. -/
def optionLines : Task → List String
| .check =>
    ["  -d, --data <DATA>  Directory of JSON content files",
      "  -h, --help         Print help",
      "  -V, --version      Print version"]
| task =>
    ["  -d, --data <DATA>            " ++
        "Directory of JSON content files " ++
        "(default: built-in world)",
      "      --max-layer <MAX_LAYER>  " ++
        "Highest progression layer to load",
      "  -c, --config <CONFIG>        " ++
        "TOML file with engine settings; flags override it",
      "  -l, --load <LOAD>            " ++
        "Resume from a save file"] ++
      (if task = .play then
        ["  -s, --save <SAVE>            " ++
          "Write the session here on quit or end of input"]
      else
        []) ++
      ["  -h, --help                   Print help",
        "  -V, --version                Print version"]

end Task

/- The version of the program or of one of its tasks. -/
def versionText : Option Task → String
| none => programName ++ " " ++ programVersion ++ "\n"
| some task =>
    programName ++ "-" ++ task.name ++ " " ++
      programVersion ++ "\n"

/- Lines as a text. -/
def textOfLines (lines : List String) : String :=
  String.join (lines.map (fun line => line ++ "\n"))

/- What asking for help does. -/
def helpSummary : String :=
  "Print this message or the help of the given subcommand(s)"

/- Help on the program, on one of its tasks or on help. -/
def helpOn : Topic → String
| .program =>
    textOfLines
      ["Umbra: a text adventure about fairgrounds, " ++
        "dreams and the dark",
        "",
        "Usage: " ++ programName ++ " <COMMAND>",
        "",
        "Commands:",
        "  play         " ++ Task.play.summary,
        "  constraints  " ++ Task.constraints.summary,
        "  check        " ++ Task.check.summary,
        "  help         " ++ helpSummary,
        "",
        "Options:",
        "  -h, --help     Print help",
        "  -V, --version  Print version"]
| .task task =>
    textOfLines
      ([task.summary,
        "",
        "Usage: " ++ programName ++ " " ++ task.name ++ " " ++
          task.usage,
        "",
        "Options:"] ++ task.optionLines)
| .help =>
    textOfLines
      [helpSummary,
        "",
        "Usage: " ++ programName ++ " help [COMMAND]...",
        "",
        "Arguments:",
        "  [COMMAND]...  Print help for the subcommand(s)"]

end TextAdventure
