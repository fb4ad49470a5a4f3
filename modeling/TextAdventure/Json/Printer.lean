import TextAdventure.Decimal.Layout
import TextAdventure.Json.Basic

/-
  Writing JSON text, on one line or indented.

  Only the quote, the backslash and control characters are
  escaped. The indented form puts every item and member on a
  line of its own, two blanks deeper than its parent, and
  writes an empty array or object without a line break.

  Key definitions include:
    * `Json.quoted`
    * `Json.compact`
    * `Json.pretty`
-/

namespace TextAdventure

namespace Json

------------------------------------------------------------
-- Strings
------------------------------------------------------------

/- The escaped form of one character. -/
def escapedChar (c : Char) : List Char :=
  if c = '"' then ['\\', '"']
  else if c = '\\' then ['\\', '\\']
  else if c = '\n' then ['\\', 'n']
  else if c = '\u000D' then ['\\', 'r']
  else if c = '\t' then ['\\', 't']
  else if c = '\u0008' then ['\\', 'b']
  else if c = '\u000C' then ['\\', 'f']
  else if c.toNat < 0x20 then
    ['\\', 'u', '0', '0',
      Nat.digitChar (c.toNat / 16),
      Nat.digitChar (c.toNat % 16)]
  else [c]

/- A text between quotes. -/
def quoted (text : String) : String :=
  String.ofList
    ('"' :: text.toList.flatMap escapedChar ++ ['"'])

/- A double; what is not finite has no JSON number. -/
def floatText (x : Float) : String :=
  if x.isNaN || x.isInf then "null" else Decimal.pointed x

------------------------------------------------------------
-- One Line
------------------------------------------------------------

mutual

/- A value on one line. -/
def compact : Json → String
| .null => "null"
| .unreadable => "null"
| .bool value => if value then "true" else "false"
| .integer value => toString value
| .float value => floatText value
| .string value => quoted value
| .array items =>
    "[" ++ compactItems items ++ "]"
| .object members =>
    "\x7b" ++ compactMembers members ++ "\x7d"

/- Items on one line, with commas between them. -/
def compactItems : List Json → String
| [] => ""
| [item] => compact item
| item :: rest => compact item ++ "," ++ compactItems rest

/- Members on one line, with commas between them. -/
def compactMembers : List (String × Json) → String
| [] => ""
| [(name, value)] => quoted name ++ ":" ++ compact value
| (name, value) :: rest =>
    quoted name ++ ":" ++ compact value ++ "," ++
      compactMembers rest

end

------------------------------------------------------------
-- Indented
------------------------------------------------------------

/- A line break and the blanks of a depth. -/
def lineAt (depth : Nat) : String :=
  String.ofList ('\n' :: List.replicate (2 * depth) ' ')

mutual

/- A value whose first line stands at a depth. -/
def prettyAt (depth : Nat) : Json → String
| .null => "null"
| .unreadable => "null"
| .bool value => if value then "true" else "false"
| .integer value => toString value
| .float value => floatText value
| .string value => quoted value
| .array [] => "[]"
| .array items =>
    "[" ++ prettyItems (depth + 1) items ++
      lineAt depth ++ "]"
| .object [] => "\x7b\x7d"
| .object members =>
    "\x7b" ++ prettyMembers (depth + 1) members ++
      lineAt depth ++ "\x7d"

/- Items on lines at a depth. -/
def prettyItems (depth : Nat) : List Json → String
| [] => ""
| [item] => lineAt depth ++ prettyAt depth item
| item :: rest =>
    lineAt depth ++ prettyAt depth item ++ "," ++
      prettyItems depth rest

/- Members on lines at a depth. -/
def prettyMembers
    (depth : Nat) : List (String × Json) → String
| [] => ""
| [(name, value)] =>
    lineAt depth ++ quoted name ++ ": " ++
      prettyAt depth value
| (name, value) :: rest =>
    lineAt depth ++ quoted name ++ ": " ++
      prettyAt depth value ++ "," ++
      prettyMembers depth rest

end

/- A value in the indented form. -/
def pretty (json : Json) : String :=
  prettyAt 0 json

end Json

end TextAdventure
