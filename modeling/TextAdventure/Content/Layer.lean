import TextAdventure.Content.Basic

/-
  The part of content up to a layer.

  Rooms and puzzles above the layer go, and with a room go
  the exits that lead to it, the things that lie in it,
  directly or not, and the scripts and rules that name what
  is gone.

  Key definitions include:
    * `Content.Root`
    * `Content.rootOf`
    * `Content.filterLayer`
-/

namespace TextAdventure

namespace Content

------------------------------------------------------------
-- Roots Of Placements
------------------------------------------------------------

/-
  Where a chain of containers ends: in a room, with the
  player (or nowhere yet), or never at anything known.
-/
inductive Root where
| room (id : String)
| player
| lost
deriving DecidableEq

/- The end of a thing's chain, within a number of steps. -/
def rootOf (things : List Thing) : Nat → Thing → Root
| 0, _ => .lost
| steps + 1, thing =>
    match thing.placement with
    | .room room => .room room
    | .carried => .player
    | .nowhere => .player
    | .container container =>
        match Catalog.find? container things with
        | some next => rootOf things steps next
        | none => .lost

/- Whether a thing stays when only some rooms do. -/
def isKept
    (rooms : List Room)
    (things : List Thing)
    (thing : Thing) : Bool :=
  match rootOf things (things.length + 1) thing with
  | .room room => Catalog.has room rooms
  | .player => true
  | .lost => false

------------------------------------------------------------
-- Filtering
------------------------------------------------------------

/- A room without ways and listings to what is gone. -/
def pruneRoom
    (rooms : List Room)
    (things : List String)
    (room : Room) : Room :=
  { room with
      exits :=
        room.exits.filter (fun exit =>
          Catalog.has exit.destination rooms)
      things :=
        room.things.filter (fun id => things.contains id) }

/- The rules that name only what is left. -/
def pruneRules
    (rooms : List Room)
    (things : List String)
    (rules : StoryRules) : StoryRules :=
  { rules with
      dream :=
        rules.dream.filter (fun dream =>
          Catalog.has dream.wakingRoom rooms &&
            Catalog.has dream.dreamingRoom rooms)
      void :=
        rules.void.filter (fun rule =>
          Catalog.has rule.room rooms &&
            things.contains rule.thing) }

/- The content up to a layer. -/
def filterLayer (content : Content) (layer : UInt32) :
    Content :=
  let rooms :=
    content.rooms.filter (fun room => room.layer ≤ layer)
  let kept :=
    Catalog.ids
      (content.things.filter (isKept rooms content.things))
  { rules := pruneRules rooms kept content.rules
    rooms := rooms.map (pruneRoom rooms kept)
    things :=
      content.things.filter (fun thing =>
        kept.contains thing.id)
    puzzles :=
      content.puzzles.filter (fun puzzle =>
        puzzle.layer ≤ layer)
    scripts :=
      content.scripts.filter (fun script =>
        kept.contains script.thing) }

end Content

end TextAdventure
