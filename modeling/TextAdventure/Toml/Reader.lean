import TextAdventure.Toml.Token
import TextAdventure.Toml.Tree

/-
  Reading TOML documents.

  A document is a list of lines: keys with values, headers of
  tables, comments. Arrays and inline tables may stand inside
  each other up to a depth.

  Key definitions include:
    * `Toml.scanValue?`
    * `Toml.parse?`
-/

namespace TextAdventure

namespace Toml

------------------------------------------------------------
-- Values
------------------------------------------------------------

/- A reader of a value. -/
abbrev ValueReader :=
  List Char → Option (Toml × List Char)

/- What follows the lines and blanks in front. -/
def skipSpace (text : List Char) : List Char :=
  skipLines text.length text

/-
  The items of an array after its opening bracket. A comma
  may follow the last item.
-/
def scanItems? (item : ValueReader) :
    Nat → List Char → Option (List Toml × List Char)
| 0, _ => none
| steps + 1, text =>
    match skipSpace text with
    | ']' :: rest => some ([], rest)
    | text => do
        let (value, rest) ← item text
        match skipSpace rest with
        | ',' :: rest =>
            let (values, rest) ← scanItems? item steps rest
            return (value :: values, rest)
        | ']' :: rest => return ([value], rest)
        | _ => none

/- A key with its value. -/
def scanEntry? (item : ValueReader) (text : List Char) :
    Option ((List String × Toml) × List Char) := do
  let (keys, rest) ← scanKey? text
  let rest ← afterMark? '=' rest
  let (value, rest) ← item (skipBlanks rest)
  return ((keys, value), rest)

/- The entries of an inline table, of which there is one. -/
def scanEntries? (item : ValueReader) :
    Nat → Entries → List Char → Option (Entries × List Char)
| 0, _, _ => none
| steps + 1, entries, text => do
    let ((keys, value), rest) ← scanEntry? item text
    let entries ← putAt keys value entries
    match skipBlanks rest with
    | ',' :: rest => scanEntries? item steps entries rest
    | '\x7d' :: rest => return (entries, rest)
    | _ => none

/- An inline table after its opening brace. -/
def scanInline? (item : ValueReader) (text : List Char) :
    Option (Toml × List Char) :=
  match skipBlanks text with
  | '\x7d' :: rest => some (.table [], rest)
  | text => do
      let (entries, rest) ←
        scanEntries? item text.length [] text
      return (.table (entriesToToml entries), rest)

/- A value without parts. -/
def scanPlain? (text : List Char) :
    Option (Toml × List Char) :=
  match text with
  | 't' :: 'r' :: 'u' :: 'e' :: rest =>
      some (.boolean true, rest)
  | 'f' :: 'a' :: 'l' :: 's' :: 'e' :: rest =>
      some (.boolean false, rest)
  | c :: _ =>
      if c = '"' ∨ c = '\'' then
        (scanString? text).map (fun parts =>
          (.string parts.1, parts.2))
      else
        (scanTime? text).or (scanNumber? text)
  | [] => none

/- A value whose parts go down to a depth. -/
def scanValue? : Nat → ValueReader
| 0, _ => none
| depth + 1, text =>
    match text with
    | '[' :: rest =>
        if depth = 0 then
          none
        else
          (scanItems? (scanValue? depth) rest.length.succ
            rest).map (fun parts => (.array parts.1, parts.2))
    | '\x7b' :: rest =>
        if depth = 0 then
          none
        else
          scanInline? (scanValue? depth) rest
    | text => scanPlain? text

/- The depth of values that is read. -/
def maxDepth : Nat := 80

------------------------------------------------------------
-- Lines
------------------------------------------------------------

/- The key of a header after its opening brackets. -/
def scanHeader? (closing : List Char) (text : List Char) :
    Option (List String × List Char) := do
  let (keys, rest) ← scanKey? text
  let rest ←
    closing.foldlM (fun rest mark => afterMark? mark rest) rest
  let rest ← lineEnd? rest
  return (keys, rest)

/- The lines of a document, under the header of a path. -/
def scanLines? :
    Nat → List String → Entries → List Char → Option Entries
| 0, _, _, _ => none
| steps + 1, path, entries, text =>
    match skipBlanks text with
    | [] => some entries
    | '[' :: '[' :: rest => do
        let (keys, rest) ← scanHeader? [']', ']'] rest
        let entries ← openItem keys entries
        scanLines? steps keys entries rest
    | '[' :: rest => do
        let (keys, rest) ← scanHeader? [']'] rest
        let entries ← openTable keys entries
        scanLines? steps keys entries rest
    | c :: rest =>
        if c = '#' ∨ c = '\n' ∨ c = '\r' then do
          let rest ← lineEnd? (c :: rest)
          scanLines? steps path entries rest
        else do
          let ((keys, value), rest) ←
            scanEntry? (scanValue? maxDepth) (c :: rest)
          let rest ← lineEnd? rest
          let entries ← descend (putAt keys value) path entries
          scanLines? steps path entries rest

/- The table that a text describes. -/
def parse? (text : String) : Option Toml :=
  let chars :=
    match text.toList with
    | '\ufeff' :: rest => rest
    | chars => chars
  (scanLines? (chars.length + 1) [] [] chars).map
    (fun entries => .table (entriesToToml entries))

end Toml

end TextAdventure
