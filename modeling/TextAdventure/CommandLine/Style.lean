import TextAdventure.Text.Search

/-
  Styled text for terminals.

  A style is switched on in front of a text and everything is
  switched off behind it. Where the text itself switches all
  off, the style is switched on again.

  Key definitions include:
    * `Style`
    * `Style.apply`
    * `wantsColor`
-/

namespace TextAdventure

/- The styles of the program. -/
inductive Style where
| bold
| dimmed
| green
| yellow
deriving DecidableEq

namespace Style

/- The text that switches a style on. -/
def start : Style → String
| .bold => "\x1b[1m"
| .dimmed => "\x1b[2m"
| .green => "\x1b[32m"
| .yellow => "\x1b[33m"

/- The text that switches all styles off. -/
def reset : String := "\x1b[0m"

/- A text with a style switched on after every reset. -/
def resume (style : Style) (text : String) : String :=
  let chars := text.toList
  String.ofList
    (Text.replaceWithin reset.toList
      (reset ++ style.start).toList chars.length chars)

/- A text in a style, if styles are wanted. -/
def apply (style : Style) (color : Bool) (text : String) :
    String :=
  if color then
    style.start ++ style.resume text ++ reset
  else
    text

end Style

/- Whether a setting of the environment is on; "0" is off. -/
def isSwitchedOn (setting : String) : Bool :=
  setting != "0"

/-
  Whether styles are wanted: when forced, otherwise unless
  they are refused or the output is no terminal.
-/
def wantsColor
    (force refuse allow : Option String)
    (isTerminal : Bool) : Bool :=
  if force.any isSwitchedOn then
    true
  else if refuse.isSome then
    false
  else
    isTerminal && allow.all isSwitchedOn

end TextAdventure
