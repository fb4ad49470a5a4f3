import TextAdventure.Text.Lowercase

/-
  Compass directions and the words for them.

  Key definitions include:
    * `Direction`
    * `Direction.name`
    * `Direction.ofWord?`
    * `Direction.opposite`
-/

namespace TextAdventure

------------------------------------------------------------
-- Directions
------------------------------------------------------------

/- A direction in which a room may have an exit. -/
inductive Direction where
| north
| south
| east
| west
| northeast
| northwest
| southeast
| southwest
| up
| down
| inward
| outward
deriving DecidableEq

namespace Direction

/- Every direction. -/
def all : List Direction :=
  [.north, .south, .east, .west, .northeast, .northwest,
    .southeast, .southwest, .up, .down, .inward, .outward]

/- The list of all directions is complete. -/
theorem mem_all (direction : Direction) :
    direction ∈ all := by
  cases direction <;> decide

/- The canonical word for a direction. -/
def name : Direction → String
| .north => "north"
| .south => "south"
| .east => "east"
| .west => "west"
| .northeast => "northeast"
| .northwest => "northwest"
| .southeast => "southeast"
| .southwest => "southwest"
| .up => "up"
| .down => "down"
| .inward => "in"
| .outward => "out"

/- The direction that leads back. -/
def opposite : Direction → Direction
| .north => .south
| .south => .north
| .east => .west
| .west => .east
| .northeast => .southwest
| .southwest => .northeast
| .northwest => .southeast
| .southeast => .northwest
| .up => .down
| .down => .up
| .inward => .outward
| .outward => .inward

@[simp] theorem opposite_opposite (direction : Direction) :
    direction.opposite.opposite = direction := by
  cases direction <;> rfl

------------------------------------------------------------
-- Words
------------------------------------------------------------

/- The direction with a canonical name. -/
def ofName? (name : String) : Option Direction :=
  all.find? (fun direction => direction.name == name)

/- Every direction is found by its name. -/
@[simp] theorem ofName?_name (direction : Direction) :
    ofName? direction.name = some direction := by
  cases direction <;> decide

/- Words other than the canonical ones, in lower case. -/
def otherWords : List (String × Direction) :=
  [("n", .north), ("s", .south), ("e", .east), ("w", .west),
    ("ne", .northeast), ("nw", .northwest),
    ("se", .southeast), ("sw", .southwest), ("u", .up),
    ("d", .down), ("inside", .inward), ("enter", .inward),
    ("outside", .outward), ("exit", .outward)]

/- The direction that a word in any case stands for. -/
def ofWord? (word : String) : Option Direction :=
  let lowered := Text.lowercase word
  match ofName? lowered with
  | some direction => some direction
  | none =>
      (otherWords.find? (fun entry =>
        entry.1 == lowered)).map Prod.snd

/- Every direction is understood by its name. -/
@[simp] theorem ofWord?_name (direction : Direction) :
    ofWord? direction.name = some direction := by
  cases direction <;> decide +kernel

end Direction

end TextAdventure
