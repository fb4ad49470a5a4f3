/-
  The settings of a game: where its content comes from and
  the limits of play.

  Key definitions include:
    * `ContentSource`
    * `Settings`
-/

namespace TextAdventure

/- Where content comes from. -/
inductive ContentSource where
| embedded
| directory (path : String)
deriving DecidableEq

/-
  The settings of a game. Without a highest layer all content
  is kept; after each command the puzzles are gone through at
  most `maxPasses` times.
-/
structure Settings where
  source : ContentSource := .embedded
  maxLayer : Option UInt32 := none
  maxPasses : UInt64 := 16
deriving DecidableEq

namespace Settings

instance : Inhabited Settings := ⟨{}⟩

/- Take content from a directory. -/
def withDirectory
    (settings : Settings)
    (path : String) : Settings :=
  { settings with source := .directory path }

/- Keep content up to a layer only. -/
def withMaxLayer
    (settings : Settings)
    (layer : UInt32) : Settings :=
  { settings with maxLayer := some layer }

/- Limit the passes over the puzzles; one is the least. -/
def withMaxPasses
    (settings : Settings)
    (passes : UInt64) : Settings :=
  { settings with maxPasses := max passes 1 }

end Settings

end TextAdventure
