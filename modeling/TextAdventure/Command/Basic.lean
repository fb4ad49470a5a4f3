import TextAdventure.Direction
import TextAdventure.Text.Blank
import TextAdventure.Text.Search
import TextAdventure.Verb

/-
  Commands: what the player types, taken apart.

  The words of a line are a verb and its objects. A direction
  on its own means to go there, and a phrase such as "pick
  up" means one verb. A preposition after the first word of
  the objects stands between two nouns. Every line is a
  command; a word that is no verb is kept as it is.

  Key definitions include:
    * `Command`
    * `Command.phrases`
    * `Command.ofWords`
    * `Command.ofLine`
-/

namespace TextAdventure

------------------------------------------------------------
-- Commands
------------------------------------------------------------

/-
  A line of the player, taken apart. The verb is the name of
  a verb, or the first word if that stands for none.
-/
structure Command where
  verb : String
  noun : Option String := none
  preposition : Option String := none
  secondNoun : Option String := none
  raw : String
deriving DecidableEq

namespace Command

/- Phrases of several words that mean one verb. -/
def phrases : List (String × Verb) :=
  [("pick up", .take),
    ("put on", .wear),
    ("take off", .remove),
    ("switch on", .switchOn),
    ("turn on", .switchOn),
    ("switch off", .switchOff),
    ("turn off", .switchOff),
    ("look at", .examine),
    ("look in", .examine),
    ("look under", .search),
    ("wake up", .wake),
    ("go to sleep", .sleep),
    ("set fire to", .burn)]

/- The words that may stand between two nouns. -/
def prepositions : List String :=
  ["with", "on", "in", "to", "from", "at"]

/- Whether a word may stand between two nouns. -/
def isPreposition (word : String) : Bool :=
  prepositions.contains word

------------------------------------------------------------
-- Verbs
------------------------------------------------------------

/-
  The words after a phrase, if a line begins with it. The
  phrase must end where a word of the line ends.
-/
def wordsAfter? (phrase line : String) : Option (List String) :=
  match Text.stripStart? phrase.toList line.toList with
  | some [] => some []
  | some (c :: rest) =>
      if c = ' ' then
        some (Text.words (String.ofList (c :: rest)))
      else
        none
  | none => none

/- The verb of a phrase in front, and the words after it. -/
def phraseOf? (line : String) : Option (Verb × List String) :=
  phrases.findSome? (fun entry =>
    (wordsAfter? entry.1 line).map (fun rest =>
      (entry.2, rest)))

/- The name of the verb that a word stands for, or the word. -/
def verbOfWord (word : String) : String :=
  match Verb.ofAlias? word with
  | some verb => verb.name
  | none => word

/- The name of the verb in front, and the words after it. -/
def verbAndObjects (first : String) (rest : List String) :
    String × List String :=
  match phraseOf? (Text.joinWith " " (first :: rest)) with
  | some (verb, objects) => (verb.name, objects)
  | none => (verbOfWord first, rest)

------------------------------------------------------------
-- Objects
------------------------------------------------------------

/- The words of a noun as one text, if there are any. -/
def nounOfWords? : List String → Option String
| [] => none
| words => some (Text.joinWith " " words)

/-
  The objects of a verb: a noun, which takes the first word
  whatever it is, and the first preposition after that with
  the second noun.
-/
def withObjects (verb raw : String) : List String → Command
| [] => { verb, raw }
| first :: others =>
    let noun :=
      others.takeWhile (fun word => !isPreposition word)
    let rest :=
      others.dropWhile (fun word => !isPreposition word)
    { verb
      raw
      noun := nounOfWords? (first :: noun)
      preposition := rest.head?
      secondNoun := nounOfWords? rest.tail }

------------------------------------------------------------
-- Lines
------------------------------------------------------------

/- The command of the lower-case words of a line. -/
def ofWords (raw : String) : List String → Command
| [] => { verb := Verb.name .look, raw }
| first :: rest =>
    match Direction.ofWord? first with
    | some direction =>
        { verb := Verb.name .go
          noun := some direction.name
          raw }
    | none =>
        let (verb, objects) := verbAndObjects first rest
        withObjects verb raw objects

/- The command of a line. -/
def ofLine (line : String) : Command :=
  ofWords line (Text.words (Text.lowercase (Text.trim line)))

------------------------------------------------------------
-- Examples
------------------------------------------------------------

example :
    ofLine "set fire to Vines with lighter" =
      { verb := "burn"
        noun := some "vines"
        preposition := some "with"
        secondNoun := some "lighter"
        raw := "set fire to Vines with lighter" } := by
  decide +kernel

example :
    ofLine "look inside" =
      { verb := "look"
        noun := some "inside"
        raw := "look inside" } := by
  decide +kernel

end Command

end TextAdventure
