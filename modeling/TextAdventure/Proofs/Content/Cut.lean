import TextAdventure.Proofs.Content.Outermost

/-
  Cutting content at a layer, once and again.

  Rooms go by their layer and things by the room that their
  chain of containers ends in; ways, listings, scripts and
  rules go with what they name. As the chain of a thing that
  stays is the one it had, cutting twice is cutting once at
  the lower layer.

  Main declarations:
    * `Content.IsCut`
    * `Content.HangsTogether.isCut_filterLayer`
    * `Content.HangsTogether.filterLayer_filterLayer`
    * `Content.filterLayer_is_coherent`
-/

namespace TextAdventure

namespace Content

variable {content : Content}
variable {layer : UInt32}

------------------------------------------------------------
-- What Is Left
------------------------------------------------------------

/- Content that is what another is up to a layer. -/
structure IsCut
    (content : Content)
    (layer : UInt32)
    (left : Content) : Prop where
  rooms :
    ∀ id, id ∈ Catalog.ids left.rooms ↔
      ∃ room ∈ content.rooms,
        room.id = id ∧ room.layer ≤ layer
  exits :
    ∀ room ∈ left.rooms, ∃ old ∈ content.rooms,
      old.id = room.id ∧
        ∀ exit, exit ∈ room.exits ↔
          exit ∈ old.exits ∧
            exit.destination ∈ Catalog.ids left.rooms
  listings :
    ∀ room ∈ left.rooms, ∃ old ∈ content.rooms,
      old.id = room.id ∧
        ∀ id, id ∈ room.things ↔
          id ∈ old.things ∧ id ∈ Catalog.ids left.things
  things :
    ∀ thing, thing ∈ left.things ↔
      thing ∈ content.things ∧
        ∃ last, Outermost content.things thing last ∧
          ∀ room, last.placement = .room room →
            room ∈ Catalog.ids left.rooms
  chains :
    ∀ thing ∈ left.things,
      ∃ last, Outermost left.things thing last ∧
        ∀ room, last.placement = .room room →
          room ∈ Catalog.ids left.rooms
  puzzles :
    ∀ puzzle, puzzle ∈ left.puzzles ↔
      puzzle ∈ content.puzzles ∧ puzzle.layer ≤ layer
  scripts :
    ∀ script, script ∈ left.scripts ↔
      script ∈ content.scripts ∧
        script.thing ∈ Catalog.ids left.things
  dream :
    ∀ rule, left.rules.dream = some rule ↔
      content.rules.dream = some rule ∧
        rule.wakingRoom ∈ Catalog.ids left.rooms ∧
        rule.dreamingRoom ∈ Catalog.ids left.rooms
  void :
    ∀ rule, left.rules.void = some rule ↔
      content.rules.void = some rule ∧
        rule.room ∈ Catalog.ids left.rooms ∧
        rule.thing ∈ Catalog.ids left.things

/- The things that a cut keeps. -/
def thingsUpTo (content : Content) (layer : UInt32) :
    List Thing :=
  content.things.filter
    (isKept (content.roomsUpTo layer) content.things)

theorem filterLayer_rooms
    (content : Content)
    (layer : UInt32) :
    (content.filterLayer layer).rooms =
      (content.roomsUpTo layer).map
        (pruneRoom (content.roomsUpTo layer)
          (Catalog.ids (content.thingsUpTo layer))) :=
  rfl

namespace HangsTogether

/- With distinct ids no other thing stays along with one. -/
theorem filterLayer_things
    (hTogether : content.HangsTogether) :
    (content.filterLayer layer).things =
      content.thingsUpTo layer := by
  apply List.filter_congr
  intro thing hMem
  have hThings :=
    @mem_filterLayer_things_iff _ layer hTogether.thingIds thing
  rw [Bool.eq_iff_iff]
  constructor
  · intro hListed
    exact (hThings.mp
      (List.mem_filter.mpr ⟨hMem, hListed⟩)).2
  · intro hKept
    exact (List.mem_filter.mp
      (hThings.mpr ⟨hMem, hKept⟩)).2

/- A thing stays if its chain ends in no room that goes. -/
theorem mem_filterLayer_things_iff
    (hTogether : content.HangsTogether)
    {thing last : Thing}
    (hLast : Outermost content.things thing last) :
    thing ∈ (content.filterLayer layer).things ↔
      thing ∈ content.things ∧
        ∀ room, last.placement = .room room →
          room ∈ Catalog.ids (content.filterLayer layer).rooms
    := by
  rw [Content.mem_filterLayer_things_iff hTogether.thingIds,
    ids_filterLayer_rooms]
  exact and_congr_right fun hMem =>
    hTogether.isKept_iff hMem hLast _

/- The filter leaves what a cut has to leave. -/
theorem isCut_filterLayer
    (hTogether : content.HangsTogether)
    (layer : UInt32) :
    content.IsCut layer (content.filterLayer layer) := by
  have hThings :
      Catalog.ids (content.thingsUpTo layer) =
        Catalog.ids (content.filterLayer layer).things := by
    rw [hTogether.filterLayer_things]
  have hRooms := @ids_filterLayer_rooms layer content
  refine ⟨?rooms, ?exits, ?listings, ?things, ?chains,
    ?puzzles, ?scripts, ?dream, ?void⟩
  case rooms =>
    intro id
    rw [hRooms]
    exact mem_ids_roomsUpTo_iff
  case exits =>
    intro room hRoom
    rcases List.mem_map.mp hRoom with ⟨old, hOld, rfl⟩
    refine ⟨old, (List.mem_filter.mp hOld).1, rfl, ?_⟩
    intro exit
    rw [hRooms, ← Catalog.has_eq_true_iff_mem_ids]
    exact List.mem_filter
  case listings =>
    intro room hRoom
    rcases List.mem_map.mp hRoom with ⟨old, hOld, rfl⟩
    refine ⟨old, (List.mem_filter.mp hOld).1, rfl, ?_⟩
    intro id
    rw [← hThings]
    exact List.mem_filter.trans
      (and_congr_right fun _ => List.contains_iff_mem)
  case things =>
    intro thing
    constructor
    · intro hStays
      have hMem := (List.mem_filter.mp hStays).1
      rcases hTogether.exists_outermost hMem with
        ⟨last, hLast⟩
      have hStay :=
        (hTogether.mem_filterLayer_things_iff hLast).mp hStays
      exact ⟨hMem, last, hLast, hStay.2⟩
    · rintro ⟨hMem, last, hLast, hEnds⟩
      exact (hTogether.mem_filterLayer_things_iff hLast).mpr
        ⟨hMem, hEnds⟩
  case chains =>
    intro thing hStays
    rcases (hTogether.filterLayer layer).exists_outermost
        hStays with ⟨last, hLast⟩
    have hOld :=
      (hTogether.outermost_filterLayer_iff hStays).mp hLast
    exact ⟨last, hLast,
      ((hTogether.mem_filterLayer_things_iff hOld).mp
        hStays).2⟩
  case puzzles =>
    intro puzzle
    simp [Content.filterLayer]
  case scripts =>
    intro script
    rw [← hThings]
    exact List.mem_filter.trans
      (and_congr_right fun _ => List.contains_iff_mem)
  case dream =>
    intro rule
    rw [hRooms, ← Catalog.has_eq_true_iff_mem_ids,
      ← Catalog.has_eq_true_iff_mem_ids, ← Bool.and_eq_true]
    exact Option.filter_eq_some_iff
  case void =>
    intro rule
    rw [hRooms, ← hThings, ← Catalog.has_eq_true_iff_mem_ids,
      ← List.contains_iff_mem, ← Bool.and_eq_true]
    exact Option.filter_eq_some_iff

end HangsTogether

------------------------------------------------------------
-- Cutting Again
------------------------------------------------------------

/- What passes the narrower test alone passes both. -/
theorem filter_filter_of_imp
    {α : Type}
    {narrow wide : α → Bool}
    (hImp : ∀ entry, narrow entry = true → wide entry = true)
    (entries : List α) :
    (entries.filter wide).filter narrow =
      entries.filter narrow := by
  rw [List.filter_filter]
  apply List.filter_congr
  intro entry _
  simpa using hImp entry

theorem option_filter_filter_of_imp
    {α : Type}
    {narrow wide : α → Bool}
    (hImp : ∀ entry, narrow entry = true → wide entry = true)
    (given? : Option α) :
    (given?.filter wide).filter narrow =
      given?.filter narrow := by
  cases given? with
  | none => rfl
  | some entry =>
      cases hNarrow : narrow entry with
      | true => simp [Option.filter, hImp entry hNarrow]
      | false =>
          cases hWide : wide entry <;>
            simp [Option.filter, hNarrow, hWide]

/- What is up to two layers is up to the lower one. -/
theorem filter_layer_filter_layer
    {α : Type}
    (layerOf : α → UInt32)
    (first second : UInt32)
    (entries : List α) :
    (entries.filter (fun entry => layerOf entry ≤ first)).filter
        (fun entry => layerOf entry ≤ second) =
      entries.filter (fun entry =>
        layerOf entry ≤ min first second) := by
  rw [List.filter_filter]
  apply List.filter_congr
  intro entry _
  simp [Std.LawfulOrderInf.le_min_iff, Bool.and_comm]

/- Content is its five parts. -/
theorem eq_of_parts
    {left right : Content}
    (hRules : left.rules = right.rules)
    (hRooms : left.rooms = right.rooms)
    (hThings : left.things = right.things)
    (hPuzzles : left.puzzles = right.puzzles)
    (hScripts : left.scripts = right.scripts) :
    left = right := by
  cases left
  cases right
  simp_all

section Pruning

variable {rooms more : List Room}
variable {things others : List String}

/- Pruning by less leaves nothing of what more had left. -/
theorem pruneRoom_pruneRoom
    (hRooms : ∀ id,
      Catalog.has id rooms = true → Catalog.has id more = true)
    (hThings : ∀ id,
      things.contains id = true → others.contains id = true)
    (room : Room) :
    pruneRoom rooms things (pruneRoom more others room) =
      pruneRoom rooms things room := by
  have hExits :=
    filter_filter_of_imp
      (fun exit : Exit => hRooms exit.destination) room.exits
  have hListed := filter_filter_of_imp hThings room.things
  simp only [pruneRoom, hExits, hListed]

theorem pruneRules_pruneRules
    (hRooms : ∀ id,
      Catalog.has id rooms = true → Catalog.has id more = true)
    (hThings : ∀ id,
      things.contains id = true → others.contains id = true)
    (rules : StoryRules) :
    pruneRules rooms things (pruneRules more others rules) =
      pruneRules rooms things rules := by
  have hDream :
      ∀ rule : DreamRule,
        (Catalog.has rule.wakingRoom rooms &&
            Catalog.has rule.dreamingRoom rooms) = true →
          (Catalog.has rule.wakingRoom more &&
            Catalog.has rule.dreamingRoom more) = true := by
    intro rule
    simpa only [Bool.and_eq_true] using
      And.imp (hRooms _) (hRooms _)
  have hVoid :
      ∀ rule : VoidRule,
        (Catalog.has rule.room rooms &&
            things.contains rule.thing) = true →
          (Catalog.has rule.room more &&
            others.contains rule.thing) = true := by
    intro rule
    simpa only [Bool.and_eq_true] using
      And.imp (hRooms _) (hThings _)
  simp only [pruneRules, option_filter_filter_of_imp hDream,
    option_filter_filter_of_imp hVoid]

/- Pruning looks only at the ids of the rooms that stay. -/
theorem pruneRoom_congr
    (hIds : Catalog.ids rooms = Catalog.ids more) :
    pruneRoom rooms things = pruneRoom more things := by
  funext room
  simp only [pruneRoom, Catalog.has_congr hIds]

theorem pruneRules_congr
    (hIds : Catalog.ids rooms = Catalog.ids more) :
    pruneRules rooms things = pruneRules more things := by
  funext rules
  simp only [pruneRules, Catalog.has_congr hIds]

end Pruning

variable {first second : UInt32}

/- The rooms that two cuts keep are those of the lower one. -/
theorem roomsUpTo_filterLayer
    (content : Content) :
    (content.filterLayer first).roomsUpTo second =
      (content.roomsUpTo (min first second)).map
        (pruneRoom (content.roomsUpTo first)
          (Catalog.ids (content.thingsUpTo first))) := by
  have hBoth :
      (content.roomsUpTo first).filter
          (fun room => room.layer ≤ second) =
        content.roomsUpTo (min first second) :=
    filter_layer_filter_layer Room.layer first second _
  rw [← hBoth]
  exact List.filter_map

theorem ids_roomsUpTo_filterLayer
    (content : Content)
    (first second : UInt32) :
    Catalog.ids
        ((content.filterLayer first).roomsUpTo second) =
      Catalog.ids (content.roomsUpTo (min first second)) := by
  rw [roomsUpTo_filterLayer]
  exact @Catalog.ids_map _ _ (pruneRoom _ _) (fun _ => rfl) _

theorem has_roomsUpTo_of_min
    (id : String)
    (hHas :
      Catalog.has id (content.roomsUpTo (min first second)) =
        true) :
    Catalog.has id (content.roomsUpTo first) = true := by
  rw [Catalog.has_eq_true_iff_mem_ids] at hHas ⊢
  rw [roomsUpTo, ← filter_layer_filter_layer] at hHas
  exact (List.filter_sublist.map _).subset hHas

namespace HangsTogether

/-
  A thing stays twice if it stays up to the lower layer: its
  chain is the same after the first cut.
-/
theorem isKept_filterLayer_iff
    (hTogether : content.HangsTogether)
    {thing : Thing}
    (hMem : thing ∈ content.things) :
    isKept (content.roomsUpTo first) content.things thing =
          true ∧
        isKept ((content.filterLayer first).roomsUpTo second)
          (content.thingsUpTo first) thing = true ↔
      isKept (content.roomsUpTo (min first second))
        content.things thing = true := by
  rcases hTogether.exists_outermost hMem with ⟨last, hLast⟩
  have hAgain
      (hKept :
        isKept (content.roomsUpTo first) content.things thing =
          true) :
      isKept ((content.filterLayer first).roomsUpTo second)
          (content.thingsUpTo first) thing = true ↔
        ∀ room, last.placement = .room room →
          room ∈ Catalog.ids
            (content.roomsUpTo (min first second)) := by
    have hStays :=
      (Content.mem_filterLayer_things_iff
        hTogether.thingIds).mpr ⟨hMem, hKept⟩
    have hSame :=
      (hTogether.outermost_filterLayer_iff hStays).mpr hLast
    rw [← ids_roomsUpTo_filterLayer,
      ← hTogether.filterLayer_things]
    exact (hTogether.filterLayer first).isKept_iff hStays
      hSame _
  rw [hTogether.isKept_iff hMem hLast
    (content.roomsUpTo (min first second))]
  constructor
  · rintro ⟨hKept, hTwice⟩
    exact (hAgain hKept).mp hTwice
  · intro hLower
    have hKept :
        isKept (content.roomsUpTo first) content.things thing =
          true := by
      rw [hTogether.isKept_iff hMem hLast]
      intro room hRoom
      have hHas := hLower room hRoom
      rw [← Catalog.has_eq_true_iff_mem_ids] at hHas ⊢
      exact has_roomsUpTo_of_min room hHas
    exact ⟨hKept, (hAgain hKept).mpr hLower⟩

/- The things that two cuts keep are those of the lower one. -/
theorem thingsUpTo_filterLayer
    (hTogether : content.HangsTogether)
    (first second : UInt32) :
    (content.filterLayer first).thingsUpTo second =
      content.thingsUpTo (min first second) := by
  unfold thingsUpTo
  rw [hTogether.filterLayer_things, thingsUpTo,
    List.filter_filter]
  apply List.filter_congr
  intro thing hMem
  rw [Bool.eq_iff_iff, Bool.and_eq_true, and_comm]
  exact hTogether.isKept_filterLayer_iff hMem

theorem contains_thingsUpTo_of_min
    (hTogether : content.HangsTogether)
    (id : String)
    (hContains :
      (Catalog.ids (content.thingsUpTo
        (min first second))).contains id = true) :
    (Catalog.ids (content.thingsUpTo first)).contains id =
      true := by
  rw [List.contains_iff_mem] at hContains ⊢
  rw [← hTogether.thingsUpTo_filterLayer] at hContains
  rw [← hTogether.filterLayer_things]
  exact (List.filter_sublist.map _).subset hContains

/- To cut twice is to cut once, at the lower layer. -/
theorem filterLayer_filterLayer
    (hTogether : content.HangsTogether)
    (first second : UInt32) :
    (content.filterLayer first).filterLayer second =
      content.filterLayer (min first second) := by
  have hIds := ids_roomsUpTo_filterLayer content first second
  have hThings :=
    hTogether.thingsUpTo_filterLayer first second
  have hHas := @has_roomsUpTo_of_min content first second
  have hContains :=
    @contains_thingsUpTo_of_min content first second hTogether
  apply eq_of_parts
  case hRules =>
    show pruneRules
        ((content.filterLayer first).roomsUpTo second)
        (Catalog.ids
          ((content.filterLayer first).thingsUpTo second))
        (content.filterLayer first).rules = _
    rw [hThings, pruneRules_congr hIds]
    exact pruneRules_pruneRules hHas hContains _
  case hRooms =>
    rw [filterLayer_rooms, hThings, pruneRoom_congr hIds,
      roomsUpTo_filterLayer, List.map_map]
    exact List.map_congr_left (fun room _ =>
      pruneRoom_pruneRoom hHas hContains room)
  case hThings =>
    rw [(hTogether.filterLayer first).filterLayer_things,
      hThings, hTogether.filterLayer_things]
  case hPuzzles =>
    exact filter_layer_filter_layer Puzzle.layer first second _
  case hScripts =>
    show (content.filterLayer first).scripts.filter
        (fun script =>
          (Catalog.ids
            ((content.filterLayer first).thingsUpTo
              second)).contains script.thing) = _
    rw [hThings]
    exact filter_filter_of_imp
      (fun script : Script => hContains script.thing) _

end HangsTogether

------------------------------------------------------------
-- Accepted Content
------------------------------------------------------------

/- The start room lies above a layer that has other rooms. -/
def LosesStart (content : Content) (layer : UInt32) : Prop :=
  (∃ room ∈ content.rooms,
      room.id = content.rules.startRoom ∧
        layer < room.layer) ∧
    ∃ room ∈ content.rooms, room.layer ≤ layer

instance (layer : UInt32) :
    Decidable (content.LosesStart layer) :=
  inferInstanceAs (Decidable (_ ∧ _))

/- A cut lacks its start room where that lies too high. -/
theorem startFault?_filterLayer
    (hValid : content.IsValid)
    (layer : UInt32) :
    (content.filterLayer layer).startFault? =
      if content.LosesStart layer then
        some (.unknownRoom content.rules.startRoom)
      else none := by
  have hStart :
      (content.filterLayer layer).rules.startRoom =
        content.rules.startRoom :=
    rfl
  have hSome :
      (content.filterLayer layer).rooms ≠ [] ↔
        ∃ room ∈ content.rooms, room.layer ≤ layer := by
    simp [filterLayer]
  split
  case isTrue hHigh =>
    rcases hHigh with ⟨⟨high, hMem, hId, hAbove⟩, hLeft⟩
    refine startFault?_eq_some_iff.mpr
      ⟨hSome.mpr hLeft, ?_, by rw [hStart]⟩
    rw [ids_filterLayer_rooms, mem_ids_roomsUpTo_iff, hStart]
    rintro ⟨other, hOther, hOtherId, hLayer⟩
    have hSame :=
      Catalog.eq_of_idOf_eq hValid.roomIds hOther hMem
        (hOtherId.trans hId.symm)
    rw [hSame] at hLayer
    exact absurd hLayer (UInt32.not_le.mpr hAbove)
  case isFalse hLow =>
    rw [startFault?_eq_none_iff]
    by_cases hNone : (content.filterLayer layer).rooms = []
    · exact Or.inl hNone
    · refine Or.inr ?_
      have hLeft := hSome.mp hNone
      have hRooms : content.rooms ≠ [] := by
        intro hEmpty
        simp [hEmpty] at hLeft
      have hKnown :=
        (startFault?_eq_none_iff.mp
          hValid.startFault?_eq_none).resolve_left hRooms
      rcases (Catalog.mem_ids_iff _ _).mp hKnown with
        ⟨room, hMem, hId⟩
      rw [ids_filterLayer_rooms, mem_ids_roomsUpTo_iff, hStart]
      refine ⟨room, hMem, hId, ?_⟩
      by_contra hAbove
      exact hLow
        ⟨⟨room, hMem, hId, UInt32.not_le.mp hAbove⟩, hLeft⟩

/-
  Cutting accepted content is coherent: two cuts are one at
  the lower layer, what is left is accepted unless rooms are
  left without the start room, and nothing that is left leads
  to, lies in, or names what is gone.
-/
theorem filterLayer_is_coherent
    (hValid : content.IsValid)
    (first second : UInt32) :
    (content.filterLayer first).filterLayer second =
        content.filterLayer (min first second) ∧
      (content.filterLayer first).validate.value =
        (if content.LosesStart first then
          .error (.unknownRoom content.rules.startRoom)
        else .ok ()) ∧
      content.IsCut first (content.filterLayer first) := by
  have hTogether := hValid.hangsTogether
  refine ⟨hTogether.filterLayer_filterLayer first second, ?_,
    hTogether.isCut_filterLayer first⟩
  rw [hValid.validate_filterLayer,
    startFault?_filterLayer hValid]
  by_cases hLost : content.LosesStart first
  · simp only [hLost, if_true]
  · simp only [hLost, if_false]

/-
  A hall below an attic. A letter lies in a trunk in the
  attic, and a script and the rules of the story name both
  floors.
-/
def trunkInTheAttic : Content where
  rules :=
    { startRoom := "hall"
      dream :=
        some
          { wakingRoom := "hall", dreamingRoom := "attic" }
      void := some { thing := "rug", room := "hall" } }
  rooms :=
    [{ id := "hall"
       name := "Hall"
       exits :=
         [{ direction := .up, destination := "attic" }]
       things := ["rug"] },
     { id := "attic"
       name := "Attic"
       layer := 2
       exits :=
         [{ direction := .down, destination := "hall" }]
       things := ["trunk"] }]
  things :=
    [{ id := "rug", name := "rug", placement := .room "hall" },
     { id := "trunk"
       name := "trunk"
       placement := .room "attic"
       isContainer := true },
     { id := "letter"
       name := "letter"
       placement := .container "trunk" }]
  scripts := [{ thing := "letter", verb := .read }]

/- Up to the first layer only the hall and its rug are left. -/
theorem filterLayer_trunkInTheAttic :
    trunkInTheAttic.IsValid ∧
      (trunkInTheAttic.filterLayer 2).filterLayer 1 =
        trunkInTheAttic.filterLayer 1 ∧
      (trunkInTheAttic.filterLayer 1).validate.value = .ok () ∧
      Catalog.ids (trunkInTheAttic.filterLayer 1).things =
        ["rug"] ∧
      (trunkInTheAttic.filterLayer 1).rules.dream = none := by
  have hValid : trunkInTheAttic.IsValid := by rfl
  have hLower :=
    (filterLayer_is_coherent hValid 1 1).2.1
  refine ⟨hValid, (filterLayer_is_coherent hValid 2 1).1, ?_,
    by decide, by decide⟩
  rw [hLower, if_neg (by decide)]

end Content

end TextAdventure
