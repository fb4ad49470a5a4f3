import TextAdventure.Proofs.World.Growth

/-
  Worlds that are extended from outside.

  Rooms, things, puzzles, scripts, connections and whole
  content may be offered to a world. What is refused changes
  nothing. What is accepted goes behind what is there: a room
  that was there before gets exits and listed things only.

  Main declarations:
    * `Addition`
    * `World.addAll`
    * `World.add?_eq_none_iff`
    * `World.Extends`
    * `World.merge_eq_addAll`
    * `World.extends_addAll`
-/

namespace TextAdventure

open Relation (ReflTransGen)

------------------------------------------------------------
-- Offers
------------------------------------------------------------

/- What may be offered to a world. -/
inductive Addition where
| room (room : Room)
| thing (thing : Thing)
| puzzle (puzzle : Puzzle)
| script (script : Script)
| exits
    (source : String)
    (direction : Direction)
    (target : String)
| content (content : Content)

namespace Addition

/- The exits that an offer brings, each with its room. -/
def joins : Addition → List (String × Exit)
| .exits source direction target =>
    [(source,
        { direction := direction
          destination := target }),
      (target,
        { direction := direction.opposite
          destination := source })]
| _ => []

end Addition

/- The single entities of content, as offers. -/
def Content.parts (content : Content) : List Addition :=
  content.rooms.map .room ++ content.things.map .thing ++
    content.puzzles.map .puzzle ++
      content.scripts.map .script

/- The entities of content bring no exits to other rooms. -/
theorem Content.joins_of_mem_parts
    {content : Content}
    {part : Addition}
    (hPart : part ∈ content.parts) :
    part.joins = [] := by
  simp only [parts, List.mem_append, List.mem_map] at hPart
  rcases hPart with
    ((⟨_, -, rfl⟩ | ⟨_, -, rfl⟩) | ⟨_, -, rfl⟩) |
      ⟨_, -, rfl⟩ <;> rfl

/- The entities of content are not content themselves. -/
theorem Content.ne_of_mem_parts
    {content : Content}
    {part : Addition}
    (hPart : part ∈ content.parts)
    (other : Content) :
    part ≠ .content other := by
  simp only [parts, List.mem_append, List.mem_map] at hPart
  rcases hPart with
    ((⟨_, -, rfl⟩ | ⟨_, -, rfl⟩) | ⟨_, -, rfl⟩) |
      ⟨_, -, rfl⟩ <;> simp

namespace World

/- The world with what is offered, or nothing if refused. -/
def add? (world : World) : Addition → Option World
| .room room => world.addRoom? room
| .thing thing =>
    match world.addThing thing with
    | .ok after? => after?
    | .error _ => none
| .puzzle puzzle => world.addPuzzle? puzzle
| .script script => world.addScript? script
| .exits source direction target =>
    match world.connect source direction target with
    | .ok after => some after
    | .error _ => none
| .content content => some (world.merge content).value.1

/- The world after an offer, accepted or not. -/
def add (world : World) (addition : Addition) : World :=
  (world.add? addition).getD world

/- The world after several offers. -/
def addAll
    (world : World)
    (additions : List Addition) : World :=
  additions.foldl add world

@[simp] theorem addAll_nil (world : World) :
    world.addAll [] = world := rfl

@[simp] theorem addAll_cons
    (world : World)
    (addition : Addition)
    (rest : List Addition) :
    world.addAll (addition :: rest) =
      (world.add addition).addAll rest := rfl

theorem addAll_append
    (world : World)
    (first rest : List Addition) :
    world.addAll (first ++ rest) =
      (world.addAll first).addAll rest :=
  List.foldl_append

------------------------------------------------------------
-- Refusals
------------------------------------------------------------

/-
  An offer is refused if its id is known, if its placement or
  its rooms are not, or if the verb has a script already.
-/
def Refuses (world : World) : Addition → Prop
| .room room => room.id ∈ Catalog.ids world.rooms
| .thing thing =>
    thing.id ∈ Catalog.ids world.things ∨
      ¬ world.Resolves thing.placement
| .puzzle puzzle => puzzle.id ∈ Catalog.ids world.puzzles
| .script script =>
    ∃ old ∈ world.scripts,
      old.thing = script.thing ∧ old.verb = script.verb
| .exits source _ target =>
    source ∉ Catalog.ids world.rooms ∨
      target ∉ Catalog.ids world.rooms
| .content _ => False

variable {world before after : World}

theorem addThing_eq_ok_none_iff
    {thing : Thing} :
    world.addThing thing = .ok none ↔
      thing.id ∈ Catalog.ids world.things := by
  rw [← Catalog.has_eq_true_iff_mem_ids]
  unfold addThing
  cases Catalog.has thing.id world.things <;>
    cases world.newPlacementFault? thing <;> simp

/- A thing that would be new is refused for its placement. -/
theorem exists_addThing_eq_error_iff
    {thing : Thing} :
    (∃ fault, world.addThing thing = .error fault) ↔
      thing.id ∉ Catalog.ids world.things ∧
        ¬ world.Resolves thing.placement := by
  rw [← newPlacementFault?_eq_none_iff,
    ← Catalog.has_eq_false_iff]
  unfold addThing
  cases Catalog.has thing.id world.things <;>
    cases world.newPlacementFault? thing <;> simp

/- An offered thing is accepted if it is added. -/
theorem add?_thing_iff
    {thing : Thing} :
    world.add? (.thing thing) = some after ↔
      world.addThing thing = .ok (some after) := by
  simp only [add?]
  cases world.addThing thing <;> simp

theorem add?_exits_iff
    {source target : String}
    {direction : Direction} :
    world.add? (.exits source direction target) =
        some after ↔
      world.connect source direction target = .ok after := by
  simp only [add?]
  cases world.connect source direction target <;> simp

/- Two rooms are connected if both are there. -/
theorem connect_eq_ok_iff_mem
    {source target : String}
    {direction : Direction} :
    world.connect source direction target = .ok after ↔
      source ∈ Catalog.ids world.rooms ∧
        target ∈ Catalog.ids world.rooms ∧
        after =
          (world.updateRoom source
              (joinRoom direction target)).updateRoom target
                (joinRoom direction.opposite source) := by
  simp only [← Catalog.has_eq_true_iff_mem_ids]
  unfold connect
  cases Catalog.has target world.rooms <;>
    cases Catalog.has source world.rooms <;>
      simp [eq_comm]

/- An offer is refused for these reasons and no others. -/
theorem add?_eq_none_iff
    (world : World)
    (addition : Addition) :
    world.add? addition = none ↔ world.Refuses addition := by
  cases addition with
  | room room =>
      simp [add?, addRoom?, Refuses,
        Catalog.has_eq_true_iff_mem_ids]
  | thing thing =>
      cases hAdd : world.addThing thing with
      | ok after? =>
          cases after? with
          | none =>
              have hKnown := addThing_eq_ok_none_iff.mp hAdd
              simp [add?, hAdd, Refuses, hKnown]
          | some after =>
              rcases addThing_eq_ok_some_iff.mp hAdd with
                ⟨hNew, hResolves, -⟩
              rw [Catalog.has_eq_false_iff] at hNew
              simp [add?, hAdd, Refuses, hNew, hResolves]
      | error fault =>
          have hLost :=
            exists_addThing_eq_error_iff.mp ⟨fault, hAdd⟩
          simp [add?, hAdd, Refuses, hLost.2]
  | puzzle puzzle =>
      simp [add?, addPuzzle?, Refuses,
        Catalog.has_eq_true_iff_mem_ids]
  | script script =>
      simp [add?, addScript?, Refuses, Script.isFor]
  | exits source direction target =>
      simp only [add?, connect, Refuses,
        ← Catalog.has_eq_false_iff]
      cases Catalog.has target world.rooms <;>
        cases Catalog.has source world.rooms <;> simp
  | content content => simp [add?, Refuses]

/- What is refused changes nothing. -/
theorem add_of_refuses
    {addition : Addition}
    (hRefuses : world.Refuses addition) :
    world.add addition = world := by
  unfold add
  rw [(add?_eq_none_iff world addition).mpr hRefuses]
  rfl

theorem addAll_of_refuses
    {additions : List Addition}
    (hRefuses :
      ∀ addition ∈ additions, world.Refuses addition) :
    world.addAll additions = world := by
  induction additions with
  | nil => rfl
  | cons addition rest ih =>
      rcases List.forall_mem_cons.mp hRefuses with
        ⟨hFirst, hRest⟩
      rw [addAll_cons, add_of_refuses hFirst, ih hRest]

------------------------------------------------------------
-- Coherence
------------------------------------------------------------

/- An addition stays one if any thing may be added. -/
theorem Grows.anyThing
    {may : Thing → Prop}
    (hGrows : Grows may before after) :
    Grows (fun _ => True) before after := by
  cases hGrows with
  | room room hAdd => exact .room room hAdd
  | thing thing hMay hAdd => exact .thing thing trivial hAdd
  | puzzle puzzle hAdd => exact .puzzle puzzle hAdd
  | script script hAdd => exact .script script hAdd
  | exits source target direction hAdd =>
      exact .exits source target direction hAdd

/- An offer is a run of accepted additions. -/
theorem add_grows
    (world : World)
    (addition : Addition) :
    ReflTransGen (Grows (fun _ => True))
      world (world.add addition) := by
  unfold add
  cases hAdd : world.add? addition with
  | none => exact ReflTransGen.refl
  | some after =>
      rw [Option.getD_some]
      cases addition with
      | room room => exact .single (.room room hAdd)
      | thing thing =>
          exact .single
            (.thing thing trivial (add?_thing_iff.mp hAdd))
      | puzzle puzzle => exact .single (.puzzle puzzle hAdd)
      | script script => exact .single (.script script hAdd)
      | exits source direction target =>
          exact .single
            (.exits source target direction
              (add?_exits_iff.mp hAdd))
      | content content =>
          cases Option.some.inj hAdd
          exact ReflTransGen.mono
            (fun _ _ hGrows => hGrows.anyThing) _ _
            (world.merge_grows content)

theorem IsCoherent.add
    (hCoherent : world.IsCoherent)
    (addition : Addition) :
    (world.add addition).IsCoherent :=
  hCoherent.grows (world.add_grows addition)

theorem IsCoherent.addAll
    (hCoherent : world.IsCoherent)
    (additions : List Addition) :
    (world.addAll additions).IsCoherent := by
  induction additions generalizing world with
  | nil => exact hCoherent
  | cons addition rest ih => exact ih (hCoherent.add addition)

end World

------------------------------------------------------------
-- Extended Rooms
------------------------------------------------------------

/-
  A room to which offered exits were added, each in a
  direction without one, and in which new things are listed.
-/
structure Room.Extends
    (offered : List (String × Exit))
    (newcomers : List Thing)
    (before after : Room) : Prop where
  static :
    { after with
        exits := before.exits
        things := before.things } = before
  exits :
    ∃ joined, after.exits = before.exits ++ joined ∧
      (joined.map Exit.direction).Nodup ∧
      ∀ exit ∈ joined,
        (before.id, exit) ∈ offered ∧
          before.exit? exit.direction = none
  things :
    after.things =
      before.things ++ World.placedIn newcomers before.id

namespace Room

variable {offered : List (String × Exit)}
variable {before after : Room}

theorem exit?_eq_none_iff
    (room : Room)
    (direction : Direction) :
    room.exit? direction = none ↔
      ∀ exit ∈ room.exits, exit.direction ≠ direction := by
  simp [exit?]

theorem Extends.id_eq
    {newcomers : List Thing}
    (hExtends : before.Extends offered newcomers after) :
    after.id = before.id := by
  have hId := congrArg Room.id hExtends.static
  exact hId

/- What is left as it is is extended by nothing. -/
theorem Extends.refl
    (offered : List (String × Exit))
    (room : Room) :
    room.Extends offered [] room where
  static := rfl
  exits := ⟨[], by simp⟩
  things := by simp [World.placedIn]

theorem Extends.trans
    {first second : List Thing}
    {middle : Room}
    (hFirst : before.Extends offered first middle)
    (hSecond : middle.Extends offered second after) :
    before.Extends offered (first ++ second) after where
  static := by
    have hMiddle := hFirst.static
    rw [← hSecond.static] at hMiddle
    exact hMiddle
  exits := by
    rcases hFirst.exits with ⟨old, hOld, hOldApart, hOldNew⟩
    rcases hSecond.exits with ⟨new, hNew, hNewApart, hFresh⟩
    have hApart (exit : Exit) (hExit : exit ∈ new) :
        ∀ other ∈ before.exits ++ old,
          other.direction ≠ exit.direction := by
      rw [← hOld]
      exact (exit?_eq_none_iff _ _).mp (hFresh exit hExit).2
    refine ⟨old ++ new, ?_, ?_, ?_⟩
    · rw [hNew, hOld, List.append_assoc]
    · rw [List.map_append]
      refine List.nodup_append.mpr
        ⟨hOldApart, hNewApart, ?_⟩
      intro left hLeft right hRight
      rcases List.mem_map.mp hLeft with ⟨other, hOther, rfl⟩
      rcases List.mem_map.mp hRight with ⟨exit, hExit, rfl⟩
      exact hApart exit hExit other
        (List.mem_append_right _ hOther)
    · intro exit hExit
      rcases List.mem_append.mp hExit with hLeft | hRight
      · exact hOldNew exit hLeft
      · refine ⟨hFirst.id_eq ▸ (hFresh exit hRight).1, ?_⟩
        rw [exit?_eq_none_iff]
        intro other hOther
        exact hApart exit hRight other
          (List.mem_append_left _ hOther)
  things := by
    rw [hSecond.things, hFirst.things, hFirst.id_eq,
      List.append_assoc]
    simp [World.placedIn]

theorem Extends.mono
    {more : List (String × Exit)}
    {newcomers : List Thing}
    (hExtends : before.Extends offered newcomers after)
    (hOffered : offered ⊆ more) :
    before.Extends more newcomers after where
  static := hExtends.static
  exits := by
    rcases hExtends.exits with ⟨joined, hExits, hApart, hNew⟩
    refine ⟨joined, hExits, hApart, ?_⟩
    intro exit hExit
    exact ⟨hOffered (hNew exit hExit).1, (hNew exit hExit).2⟩
  things := hExtends.things

/- A room is joined only where it has no exit. -/
theorem extends_joinRoom
    {direction : Direction}
    {destination : String}
    (hOffered :
      (before.id,
        { direction := direction
          destination := destination : Exit }) ∈ offered) :
    before.Extends offered []
      (World.joinRoom direction destination before) := by
  unfold World.joinRoom
  split
  · exact Extends.refl offered before
  · rename_i hFree
    exact
      { static := rfl
        exits := by
          refine ⟨[_], rfl, by simp, ?_⟩
          intro exit hExit
          rw [List.mem_singleton] at hExit
          subst hExit
          exact ⟨hOffered, hFree⟩
        things := by simp [World.placedIn, withExit] }

theorem exit?_joinRoom
    (direction : Direction)
    (destination : String)
    (room : Room) :
    ((World.joinRoom direction destination room).exit?
      direction).isSome = true := by
  unfold World.joinRoom
  split
  · rename_i exit hExit
    rw [hExit]
    rfl
  · simp [exit?, withExit]

/- An exit that is there is still there in a joined room. -/
theorem exit?_joinRoom_of_isSome
    {other : Direction}
    {room : Room}
    (hExit : (room.exit? other).isSome = true)
    (direction : Direction)
    (destination : String) :
    ((World.joinRoom direction destination room).exit?
      other).isSome = true := by
  unfold World.joinRoom
  split
  · exact hExit
  · simp only [exit?, List.find?_isSome] at hExit
    rcases hExit with ⟨exit, hMem, hDirection⟩
    simp only [exit?, withExit, List.find?_isSome]
    exact ⟨exit, List.mem_append_left _ hMem, hDirection⟩

end Room

------------------------------------------------------------
-- Extended Worlds
------------------------------------------------------------

/-
  A world with more behind what was there, of which only the
  rooms are changed, by offered exits and by new things.
-/
structure World.Extends
    (offered : List (String × Exit))
    (newcomers : List Thing)
    (before after : World) : Prop where
  rules : after.rules = before.rules
  changed : after.changed = before.changed
  things : after.things = before.things ++ newcomers
  puzzles : before.puzzles <+: after.puzzles
  scripts : before.scripts <+: after.scripts
  rooms :
    ∃ old new, after.rooms = old ++ new ∧
      List.Forall₂ (Room.Extends offered newcomers)
        before.rooms old

namespace World

variable {offered : List (String × Exit)}
variable {world before after : World}

theorem Extends.refl
    (offered : List (String × Exit))
    (world : World) :
    world.Extends offered [] world where
  rules := rfl
  changed := rfl
  things := by simp
  puzzles := List.prefix_refl _
  scripts := List.prefix_refl _
  rooms := by
    refine ⟨world.rooms, [], by simp, ?_⟩
    exact List.forall₂_same.mpr
      (fun room _ => Room.Extends.refl offered room)

theorem Extends.trans
    {first second : List Thing}
    {middle : World}
    (hFirst : before.Extends offered first middle)
    (hSecond : middle.Extends offered second after) :
    before.Extends offered (first ++ second) after where
  rules := hSecond.rules.trans hFirst.rules
  changed := hSecond.changed.trans hFirst.changed
  things := by
    rw [hSecond.things, hFirst.things, List.append_assoc]
  puzzles := hFirst.puzzles.trans hSecond.puzzles
  scripts := hFirst.scripts.trans hSecond.scripts
  rooms := by
    rcases hFirst.rooms with ⟨old, new, hRooms, hOld⟩
    rcases hSecond.rooms with ⟨both, later, hAll, hBoth⟩
    rw [hRooms] at hBoth
    have hKept := List.forall₂_take old.length hBoth
    rw [List.take_left] at hKept
    refine ⟨both.take old.length,
      both.drop old.length ++ later, ?_, ?_⟩
    · rw [hAll, ← List.append_assoc, List.take_append_drop]
    · exact Catalog.forall₂_trans
        (fun _ _ _ hOne hTwo => hOne.trans hTwo) hOld hKept

theorem Extends.mono
    {more : List (String × Exit)}
    {newcomers : List Thing}
    (hExtends : before.Extends offered newcomers after)
    (hOffered : offered ⊆ more) :
    before.Extends more newcomers after where
  rules := hExtends.rules
  changed := hExtends.changed
  things := hExtends.things
  puzzles := hExtends.puzzles
  scripts := hExtends.scripts
  rooms := by
    rcases hExtends.rooms with ⟨old, new, hRooms, hOld⟩
    exact ⟨old, new, hRooms,
      hOld.imp (fun _ _ hRoom => hRoom.mono hOffered)⟩

/- New entities of other kinds leave the rooms as they are. -/
theorem Extends.of_rooms_eq
    (hRules : after.rules = before.rules)
    (hChanged : after.changed = before.changed)
    (hThings : after.things = before.things)
    (hPuzzles : before.puzzles <+: after.puzzles)
    (hScripts : before.scripts <+: after.scripts)
    (hRooms : before.rooms <+: after.rooms) :
    before.Extends offered [] after where
  rules := hRules
  changed := hChanged
  things := by simp [hThings]
  puzzles := hPuzzles
  scripts := hScripts
  rooms := by
    rcases hRooms with ⟨new, hNew⟩
    refine ⟨before.rooms, new, hNew.symm, ?_⟩
    exact List.forall₂_same.mpr
      (fun room _ => Room.Extends.refl offered room)

/- A new thing is listed by the one room it is placed in. -/
theorem extends_addThing
    (hRooms : (Catalog.ids world.rooms).Nodup)
    {thing : Thing}
    (hAdd : world.addThing thing = .ok (some after)) :
    world.Extends offered [thing] after := by
  rcases addThing_eq_ok_some_iff.mp hAdd with ⟨-, -, rfl⟩
  refine
    { rules := rfl
      changed := rfl
      things := rfl
      puzzles := List.prefix_refl _
      scripts := List.prefix_refl _
      rooms := ⟨listNew world.rooms thing, [], by simp, ?_⟩ }
  have hElsewhere
      (room : Room)
      (hNot : thing.placement.room? ≠ some room.id) :
      room.Extends offered [thing] room :=
    { static := rfl
      exits := ⟨[], by simp⟩
      things := by simp [placedIn, hNot] }
  unfold listNew
  split
  · rename_i place hPlacement
    rw [Catalog.update_eq_map hRooms,
      List.forall₂_map_right_iff]
    refine List.forall₂_same.mpr ?_
    intro room hRoom
    by_cases hHere : room.id = place
    · rw [idOf_room, if_pos hHere]
      exact
        { static := rfl
          exits := ⟨[], by simp⟩
          things := by
            simp [placedIn, hPlacement, Placement.room?,
              hHere] }
    · rw [idOf_room, if_neg hHere]
      apply hElsewhere
      simp [hPlacement, Placement.room?, Ne.symm hHere]
  · rename_i hNoRoom
    refine List.forall₂_same.mpr ?_
    intro room hRoom
    apply hElsewhere
    intro hHere
    cases hPlacement : thing.placement with
    | room place => exact hNoRoom place hPlacement
    | container => simp [hPlacement, Placement.room?] at hHere
    | carried => simp [hPlacement, Placement.room?] at hHere
    | nowhere => simp [hPlacement, Placement.room?] at hHere

/- A connection gives two rooms an exit where they had none. -/
theorem extends_connect
    {source target : String}
    {direction : Direction}
    (hAdd : world.connect source direction target =
      .ok after) :
    world.Extends
      (Addition.exits source direction target).joins
      [] after := by
  let offered :=
    (Addition.exits source direction target).joins
  have hJoin
      (world : World)
      (id destination : String)
      (direction : Direction)
      (hOffered :
        (id,
          { direction := direction
            destination := destination : Exit }) ∈ offered) :
      world.Extends offered []
        (world.updateRoom id
          (joinRoom direction destination)) :=
    { rules := rfl
      changed := rfl
      things := by simp [updateRoom]
      puzzles := List.prefix_refl _
      scripts := List.prefix_refl _
      rooms := by
        refine ⟨_, [], (List.append_nil _).symm, ?_⟩
        apply Catalog.forall₂_update
        · intro room _
          exact Room.Extends.refl offered room
        · rintro room - rfl
          exact Room.extends_joinRoom hOffered }
  rw [eq_of_connect_eq_ok hAdd]
  exact (hJoin world source target direction
      (by simp [offered, Addition.joins])).trans
    (hJoin _ target source direction.opposite
      (by simp [offered, Addition.joins]))

/- What one offer of a single entity does to a world. -/
theorem extends_add_part
    (hCoherent : world.IsCoherent)
    (addition : Addition)
    (hPart : ∀ content, addition ≠ .content content) :
    ∃ newcomers, world.Extends addition.joins newcomers
      (world.add addition) := by
  unfold add
  cases hAdd : world.add? addition with
  | none => exact ⟨[], Extends.refl _ world⟩
  | some after =>
      rw [Option.getD_some]
      cases addition with
      | room room =>
          rcases eq_of_addRoom?_eq_some hAdd with
            ⟨-, listing, -, rfl⟩
          exact ⟨[], Extends.of_rooms_eq rfl rfl rfl
            (List.prefix_refl _) (List.prefix_refl _)
            (List.prefix_append _ _)⟩
      | thing thing =>
          exact ⟨[thing], extends_addThing hCoherent.roomIds
            (add?_thing_iff.mp hAdd)⟩
      | puzzle puzzle =>
          rcases addPuzzle?_eq_some_iff.mp hAdd with ⟨-, rfl⟩
          exact ⟨[], Extends.of_rooms_eq rfl rfl rfl
            (List.prefix_append _ _) (List.prefix_refl _)
            (List.prefix_refl _)⟩
      | script script =>
          cases eq_of_addScript?_eq_some hAdd
          exact ⟨[], Extends.of_rooms_eq rfl rfl rfl
            (List.prefix_refl _) (List.prefix_append _ _)
            (List.prefix_refl _)⟩
      | exits source direction target =>
          exact ⟨[], extends_connect
            (add?_exits_iff.mp hAdd)⟩
      | content content => exact absurd rfl (hPart content)

/- What each offer does to a world, several do. -/
theorem extends_addAll_of_forall
    {additions : List Addition}
    (hEach : ∀ addition ∈ additions,
      ∀ world : World, world.IsCoherent →
        ∃ newcomers, world.Extends addition.joins newcomers
          (world.add addition))
    (hCoherent : world.IsCoherent) :
    ∃ newcomers, world.Extends
      (additions.flatMap Addition.joins) newcomers
      (world.addAll additions) := by
  induction additions generalizing world with
  | nil => exact ⟨[], Extends.refl _ world⟩
  | cons addition rest ih =>
      rcases List.forall_mem_cons.mp hEach with
        ⟨hFirst, hRest⟩
      rcases hFirst world hCoherent with ⟨first, hOne⟩
      rcases ih hRest (hCoherent.add addition) with
        ⟨later, hMore⟩
      refine ⟨first ++ later, Extends.trans
        (hOne.mono ?_) (hMore.mono ?_)⟩
      · exact List.subset_append_left _ _
      · exact List.subset_append_right _ _

------------------------------------------------------------
-- Merges As Offers
------------------------------------------------------------

theorem foldl_eq_addAll
    {α : Type}
    {step : Merge → α → Merge}
    {part : α → Addition}
    (hStep : ∀ merge entity,
      (step merge entity).world =
        merge.world.add (part entity))
    (entities : List α)
    (merge : Merge) :
    (entities.foldl step merge).world =
      merge.world.addAll (entities.map part) := by
  induction entities generalizing merge with
  | nil => rfl
  | cons entity rest ih =>
      rw [List.foldl_cons, ih, hStep, List.map_cons,
        addAll_cons]

theorem room_eq_add (merge : Merge) (room : Room) :
    (merge.room room).world =
      merge.world.add (.room room) := by
  simp only [Merge.room, add, add?]
  cases merge.world.addRoom? room <;> rfl

theorem puzzle_eq_add (merge : Merge) (puzzle : Puzzle) :
    (merge.puzzle puzzle).world =
      merge.world.add (.puzzle puzzle) := by
  simp only [Merge.puzzle, add, add?]
  cases merge.world.addPuzzle? puzzle <;> rfl

theorem script_eq_add (merge : Merge) (script : Script) :
    (merge.script script).world =
      merge.world.add (.script script) := by
  simp only [Merge.script, add, add?]
  cases merge.world.addScript? script <;> rfl

/- One pass offers every thing once. -/
theorem thingsOnce_eq_addAll
    (things : List Thing)
    (merge : Merge) :
    (merge.thingsOnce things).1.world =
      merge.world.addAll (things.map .thing) := by
  induction things generalizing merge with
  | nil => rfl
  | cons thing rest ih =>
      rw [List.map_cons, addAll_cons]
      unfold Merge.thingsOnce add
      cases hAdd : merge.world.addThing thing with
      | ok after? =>
          cases after? <;> simp [add?, hAdd, ih]
      | error fault => simp [add?, hAdd, ih]

/- What a pass puts off is left of what it was given. -/
theorem thingsOnce_sublist
    (things : List Thing)
    (merge : Merge) :
    (merge.thingsOnce things).2.Sublist things := by
  induction things generalizing merge with
  | nil => exact List.Sublist.refl _
  | cons thing rest ih =>
      unfold Merge.thingsOnce
      split
      · exact (ih _).cons _
      · exact (ih _).cons _
      · exact (ih merge).cons_cons _

/- All passes offer things of the list, some repeatedly. -/
theorem things_eq_addAll
    (passes : Nat)
    (things : List Thing)
    (merge : Merge) :
    ∃ offered, offered ⊆ things ∧
      (merge.things passes things).1.world =
        merge.world.addAll (offered.map .thing) := by
  induction passes generalizing things merge with
  | zero => exact ⟨[], List.nil_subset _, rfl⟩
  | succ passes ih =>
      unfold Merge.things
      simp only
      split
      · exact ⟨things, List.Subset.refl _,
          thingsOnce_eq_addAll things merge⟩
      · rcases ih (merge.thingsOnce things).2
          (merge.thingsOnce things).1 with
          ⟨later, hLater, hWorld⟩
        refine ⟨things ++ later, ?_, ?_⟩
        · exact List.append_subset.mpr
            ⟨List.Subset.refl _, List.Subset.trans hLater
              (thingsOnce_sublist things merge).subset⟩
        · rw [hWorld, thingsOnce_eq_addAll, List.map_append,
            addAll_append]

/-
  A merge offers the entities of its content kind by kind, and
  things perhaps repeatedly.
-/
theorem merge_eq_addAll_kinds
    (world : World)
    (content : Content) :
    ∃ offered, offered ⊆ content.placeListed.things ∧
      (world.merge content).value.1 =
        world.addAll
          (content.placeListed.rooms.map .room ++
            offered.map .thing ++
              content.placeListed.puzzles.map .puzzle ++
                content.placeListed.scripts.map .script) := by
  rcases things_eq_addAll
      (content.placeListed.things.length + 1)
      content.placeListed.things
      (content.placeListed.rooms.foldl Merge.room
        ⟨world, {}⟩) with ⟨offered, hOffered, hThings⟩
  refine ⟨offered, hOffered, ?_⟩
  simp only [merge, addAll_append,
    foldl_eq_addAll script_eq_add,
    foldl_eq_addAll puzzle_eq_add, hThings,
    foldl_eq_addAll room_eq_add]

/- A merge offers the entities of its content one by one. -/
theorem merge_eq_addAll
    (world : World)
    (content : Content) :
    ∃ parts, parts ⊆ content.placeListed.parts ∧
      (world.merge content).value.1 =
        world.addAll parts := by
  rcases merge_eq_addAll_kinds world content with
    ⟨offered, hOffered, hWorld⟩
  refine ⟨_, ?_, hWorld⟩
  intro part hPart
  simp only [Content.parts, List.mem_append] at hPart ⊢
  rcases hPart with ((hRoom | hThing) | hPuzzle) | hScript
  · exact Or.inl (Or.inl (Or.inl hRoom))
  · exact Or.inl (Or.inl (Or.inr
      (List.map_subset _ hOffered hThing)))
  · exact Or.inl (Or.inr hPuzzle)
  · exact Or.inr hScript

/- What is offered to a world only extends it. -/
theorem extends_add
    (hCoherent : world.IsCoherent)
    (addition : Addition) :
    ∃ newcomers, world.Extends addition.joins newcomers
      (world.add addition) := by
  by_cases hContent : ∃ content, addition = .content content
  · rcases hContent with ⟨content, rfl⟩
    rcases merge_eq_addAll world content with
      ⟨parts, hParts, hWorld⟩
    have hJoins : parts.flatMap Addition.joins = [] := by
      refine List.flatMap_eq_nil_iff.mpr ?_
      intro part hPart
      exact Content.joins_of_mem_parts (hParts hPart)
    have hEach := extends_addAll_of_forall
      (fun part hPart world hWorld =>
        extends_add_part hWorld part
          (Content.ne_of_mem_parts (hParts hPart)))
      hCoherent
    rw [hJoins, ← hWorld] at hEach
    exact hEach
  · exact extends_add_part hCoherent addition
      (fun content hSame => hContent ⟨content, hSame⟩)

/- A run of offers only extends a world. -/
theorem extends_addAll
    (hCoherent : world.IsCoherent)
    (additions : List Addition) :
    ∃ newcomers, world.Extends
      (additions.flatMap Addition.joins) newcomers
      (world.addAll additions) :=
  extends_addAll_of_forall
    (fun addition _ _ hWorld => extends_add hWorld addition)
    hCoherent

end World

end TextAdventure
