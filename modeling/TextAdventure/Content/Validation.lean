import TextAdventure.Content.Basic
import TextAdventure.Warning

/-
  Checking that content hangs together.

  Ids given twice, a missing start room, placements and
  listings that name nothing, and containers inside
  themselves are faults. Exits, doors, prerequisites and
  scripts that name nothing are only warned about.

  Key definitions include:
    * `Content.firstRepeat?`
    * `Content.chainEnds`
    * `Content.validate`
-/

namespace TextAdventure

namespace Content

------------------------------------------------------------
-- Ids
------------------------------------------------------------

/- The first text that already occurred earlier. -/
def firstRepeat? (seen : List String) :
    List String → Option String
| [] => none
| id :: rest =>
    if seen.contains id then some id
    else firstRepeat? (id :: seen) rest

/- The first id of a kind that is given twice. -/
def repeatedId?
    (kind : EntityKind)
    (ids : List String) : Option WorldFault :=
  (firstRepeat? [] ids).map (WorldFault.duplicateId kind)

------------------------------------------------------------
-- Places
------------------------------------------------------------

/- The start room, if there are rooms but not that one. -/
def startFault? (content : Content) : Option WorldFault :=
  let start := content.rules.startRoom
  if content.rooms.isEmpty ||
      Catalog.has start content.rooms then
    none
  else
    some (.unknownRoom start)

/- What a thing's placement names in vain. -/
def placementFault?
    (content : Content)
    (thing : Thing) : Option WorldFault :=
  match thing.placement with
  | .room room =>
      if Catalog.has room content.rooms then none
      else some (.unknownRoom room)
  | .container container =>
      if Catalog.has container content.things then none
      else some (.unknownThing container)
  | .carried => none
  | .nowhere => none

/-
  Whether the chain of containers from a thing comes to an
  end in the given number of steps.
-/
def chainEnds (things : List Thing) : Nat → String → Bool
| 0, _ => false
| steps + 1, id =>
    match Catalog.find? id things with
    | none => true
    | some thing =>
        match thing.placement.container? with
        | none => true
        | some container => chainEnds things steps container

/- The first thing whose chain of containers has no end. -/
def cycleFault? (content : Content) : Option WorldFault :=
  let steps := content.things.length + 1
  (content.things.find? (fun thing =>
    !chainEnds content.things steps thing.id)).map
      (fun thing => .containmentCycle thing.id)

------------------------------------------------------------
-- Rooms
------------------------------------------------------------

/- The warnings about one exit. -/
def exitWarnings
    (content : Content)
    (room : Room)
    (exit : Exit) : List Warning :=
  let destination :=
    if Catalog.has exit.destination content.rooms then []
    else
      [.exitToUnknownRoom room.id exit.direction
        exit.destination]
  let door :=
    match exit.door with
    | some door =>
        if Catalog.has door content.things then []
        else [.unknownDoor room.id door]
    | none => []
  destination ++ door

/- Check listings and exits, room after room. -/
def checkRooms (content : Content) :
    List Room → Logged (Except WorldFault Unit)
| [] => .silent (.ok ())
| room :: rest =>
    match
        room.things.find? (fun id =>
          !Catalog.has id content.things) with
    | some id => .silent (.error (.unknownThing id))
    | none =>
        (checkRooms content rest).after
          (room.exits.flatMap (exitWarnings content room))

------------------------------------------------------------
-- Puzzles And Scripts
------------------------------------------------------------

/- The warnings about prerequisites that are no puzzles. -/
def dependencyWarnings (content : Content) : List Warning :=
  content.puzzles.flatMap (fun puzzle =>
    (puzzle.dependsOn.filter (fun id =>
      !Catalog.has id content.puzzles)).map
        (Warning.unknownDependency puzzle.id))

/- The warnings about scripts on nothing. -/
def scriptWarnings (content : Content) : List Warning :=
  (content.scripts.filter (fun script =>
    !Catalog.has script.thing content.things)).map
      (fun script =>
        .unknownScriptThing script.thing script.verb)

------------------------------------------------------------
-- Whole Content
------------------------------------------------------------

/- The first fault of ids and placements. -/
def structuralFault? (content : Content) : Option WorldFault :=
  (repeatedId? .room (Catalog.ids content.rooms)).or <|
  (repeatedId? .thing (Catalog.ids content.things)).or <|
  (repeatedId? .puzzle (Catalog.ids content.puzzles)).or <|
  content.startFault?.or <|
  (content.things.findSome? content.placementFault?).or
    content.cycleFault?

/- Whether content hangs together, with warnings. -/
def validate (content : Content) :
    Logged (Except WorldFault Unit) :=
  match content.structuralFault? with
  | some fault => .silent (.error fault)
  | none =>
      let rooms := checkRooms content content.rooms
      match rooms.value with
      | .error fault => ⟨.error fault, rooms.warnings⟩
      | .ok () =>
          ⟨.ok (), rooms.warnings ++
            content.dependencyWarnings ++
            content.scriptWarnings⟩

end Content

end TextAdventure
