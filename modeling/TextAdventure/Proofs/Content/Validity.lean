import TextAdventure.Proofs.Distinct
import TextAdventure.Proofs.World.Coherence

/-
  Content that hangs together, and the world it describes.

  What a check of content accepts has distinct ids, places
  that are there and no container inside itself. The world
  that is built from it is coherent.

  Main declarations:
    * `Content.IsValid`
    * `Content.IsValid.structuralFault?_eq_none`
    * `World.resolves_ofContent`
    * `World.ofContent_isCoherent`
-/

namespace TextAdventure

open Relation (TransGen)

namespace Content

------------------------------------------------------------
-- Accepted Content
------------------------------------------------------------

/- Content that the check accepts. -/
def IsValid (content : Content) : Prop :=
  content.validate.value = .ok ()

/- No id is repeated if the search for one finds none. -/
theorem firstRepeat?_eq_none_iff
    (seen ids : List String) :
    firstRepeat? seen ids = none ↔
      ids.Nodup ∧ ∀ id ∈ ids, id ∉ seen := by
  induction ids generalizing seen with
  | nil => simp [firstRepeat?]
  | cons id rest ih =>
      by_cases hSeen : id ∈ seen
      · simp [firstRepeat?, hSeen]
      · simp only [firstRepeat?, List.contains_eq_mem, hSeen,
          decide_false, Bool.false_eq_true, if_false, ih,
          List.nodup_cons, List.mem_cons, not_or]
        constructor
        · rintro ⟨hNodup, hFresh⟩
          refine ⟨⟨?_, hNodup⟩, ?_⟩
          · intro hMem
            exact (hFresh id hMem).1 rfl
          · rintro other (rfl | hMem)
            · exact hSeen
            · exact (hFresh other hMem).2
        · rintro ⟨⟨hNew, hNodup⟩, hFresh⟩
          refine ⟨hNodup, ?_⟩
          intro other hMem
          refine ⟨?_, hFresh other (Or.inr hMem)⟩
          rintro rfl
          exact hNew hMem

theorem repeatedId?_eq_none_iff
    (kind : EntityKind)
    (ids : List String) :
    repeatedId? kind ids = none ↔ ids.Nodup := by
  simp [repeatedId?, firstRepeat?_eq_none_iff]

variable {content : Content}

/- Accepted content has no fault of ids and placements. -/
theorem IsValid.structuralFault?_eq_none
    (hValid : content.IsValid) :
    content.structuralFault? = none := by
  unfold IsValid validate at hValid
  cases hFault : content.structuralFault? with
  | none => rfl
  | some fault => simp [hFault, Logged.silent] at hValid

/- The parts of the structural check, one by one. -/
theorem structuralFault?_eq_none_iff :
    content.structuralFault? = none ↔
      (Catalog.ids content.rooms).Nodup ∧
        (Catalog.ids content.things).Nodup ∧
        (Catalog.ids content.puzzles).Nodup ∧
        content.startFault? = none ∧
        (∀ thing ∈ content.things,
          content.placementFault? thing = none) ∧
        content.cycleFault? = none := by
  simp [structuralFault?, repeatedId?_eq_none_iff,
    Option.or_eq_none_iff]

theorem IsValid.roomIds
    (hValid : content.IsValid) :
    (Catalog.ids content.rooms).Nodup :=
  (structuralFault?_eq_none_iff.mp
    hValid.structuralFault?_eq_none).1

theorem IsValid.thingIds
    (hValid : content.IsValid) :
    (Catalog.ids content.things).Nodup :=
  (structuralFault?_eq_none_iff.mp
    hValid.structuralFault?_eq_none).2.1

theorem IsValid.puzzleIds
    (hValid : content.IsValid) :
    (Catalog.ids content.puzzles).Nodup :=
  (structuralFault?_eq_none_iff.mp
    hValid.structuralFault?_eq_none).2.2.1

/- Accepted placements name what is there. -/
theorem IsValid.resolves
    (hValid : content.IsValid)
    {thing : Thing}
    (hMem : thing ∈ content.things) :
    match thing.placement with
    | .room room => room ∈ Catalog.ids content.rooms
    | .container container =>
        container ∈ Catalog.ids content.things
    | .carried => True
    | .nowhere => True := by
  have hNone :=
    (structuralFault?_eq_none_iff.mp
      hValid.structuralFault?_eq_none).2.2.2.2.1 thing hMem
  unfold placementFault? at hNone
  cases hPlacement : thing.placement with
  | room room =>
      simpa [hPlacement,
        Catalog.has_eq_true_iff_mem_ids] using hNone
  | container container =>
      simpa [hPlacement,
        Catalog.has_eq_true_iff_mem_ids] using hNone
  | carried => trivial
  | nowhere => trivial

/- Accepted containers are not inside themselves. -/
theorem IsValid.acyclic
    (hValid : content.IsValid) :
    IsAcyclic content.things := by
  have hNone :=
    (structuralFault?_eq_none_iff.mp
      hValid.structuralFault?_eq_none).2.2.2.2.2
  apply isAcyclic_of_chainEnds (content.things.length + 1)
  intro thing hMem
  have hNo :
      content.things.find? (fun thing =>
        !chainEnds content.things (content.things.length + 1)
          thing.id) = none := by
    simpa [cycleFault?] using hNone
  simpa using List.find?_eq_none.mp hNo thing hMem

------------------------------------------------------------
-- Placing What Is Listed
------------------------------------------------------------

@[simp] theorem placeWhereListed_id
    (rooms : List Room)
    (thing : Thing) :
    (placeWhereListed rooms thing).id = thing.id := by
  unfold placeWhereListed
  split <;> rfl

/- A thing stays where it is or comes to a room of the list. -/
theorem placement_placeWhereListed
    (rooms : List Room)
    (thing : Thing) :
    (placeWhereListed rooms thing).placement =
        thing.placement ∨
      ∃ room ∈ Catalog.ids rooms,
        (placeWhereListed rooms thing).placement =
          .room room := by
  unfold placeWhereListed
  split
  · rename_i room hNowhere hListing
    refine Or.inr ⟨room, ?_, rfl⟩
    rcases Option.map_eq_some_iff.mp hListing with
      ⟨found, hFound, rfl⟩
    exact (Catalog.mem_ids_iff _ _).mpr
      ⟨found, List.mem_of_find?_eq_some hFound, rfl⟩
  · exact Or.inl rfl

end Content

namespace World

------------------------------------------------------------
-- Built Worlds
------------------------------------------------------------

variable {content : Content}

theorem ofContent_things (content : Content) :
    (ofContent content).things =
      content.things.map
        (Content.placeWhereListed content.rooms) :=
  rfl

theorem ids_ofContent_things (content : Content) :
    Catalog.ids (ofContent content).things =
      Catalog.ids content.things := by
  rw [ofContent_things]
  exact Catalog.ids_map
    (Content.placeWhereListed_id content.rooms) _

/- Listing anew keeps all of a room but the listing. -/
theorem relistRooms_map_id
    (things : List Thing)
    (seen : List String)
    (rooms : List Room) :
    Catalog.ids (relistRooms things seen rooms) =
      Catalog.ids rooms := by
  induction rooms generalizing seen with
  | nil => rfl
  | cons room rest ih =>
      have hRest := ih (room.id :: seen)
      unfold Catalog.ids at hRest ⊢
      simp [relistRooms, hRest]

/- With distinct ids every room lists what lies in it. -/
theorem relistRooms_eq_map
    (things : List Thing)
    {seen : List String}
    {rooms : List Room}
    (hIds : (Catalog.ids rooms).Nodup)
    (hFresh : ∀ room ∈ rooms, room.id ∉ seen) :
    relistRooms things seen rooms =
      rooms.map (fun room =>
        { room with
            things :=
              relist (placedIn things room.id)
                room.things }) := by
  induction rooms generalizing seen with
  | nil => rfl
  | cons room rest ih =>
      have hParts := List.nodup_cons.mp hIds
      have hRest :
          ∀ other ∈ rest, other.id ∉ room.id :: seen := by
        intro other hOther hMem
        rcases List.mem_cons.mp hMem with hSame | hSeen
        · exact hParts.1 (List.mem_map.mpr
            ⟨other, hOther, hSame⟩)
        · exact hFresh other
            (List.mem_cons_of_mem _ hOther) hSeen
      have hNew : room.id ∉ seen :=
        hFresh room List.mem_cons_self
      simp [relistRooms, hNew, ih hParts.2 hRest]

/- A new listing holds exactly what it has to hold. -/
theorem mem_relist_iff
    (here listed : List String)
    (id : String) :
    id ∈ relist here listed ↔ id ∈ here := by
  have hGather :
      relist here listed =
        gather (listed.filter (fun id => here.contains id))
          here :=
    rfl
  rw [hGather, mem_gather_iff]
  simp

theorem mem_placedIn_iff
    (things : List Thing)
    (room id : String) :
    id ∈ placedIn things room ↔
      ∃ thing ∈ things, thing.id = id ∧
        thing.placement = .room room := by
  have hRoom :
      ∀ thing : Thing,
        thing.placement.room? = some room ↔
          thing.placement = .room room := by
    intro thing
    cases thing.placement <;> simp [Placement.room?]
  simp only [placedIn, List.mem_map, List.mem_filter,
    beq_iff_eq, hRoom]
  constructor
  · rintro ⟨thing, ⟨hMem, hPlacement⟩, hId⟩
    exact ⟨thing, hMem, hId, hPlacement⟩
  · rintro ⟨thing, hMem, hId, hPlacement⟩
    exact ⟨thing, ⟨hMem, hPlacement⟩, hId⟩

theorem ofContent_rooms
    (hValid : content.IsValid) :
    (ofContent content).rooms =
      content.rooms.map (fun room =>
        { room with
            things :=
              relist
                (placedIn (ofContent content).things room.id)
                room.things }) :=
  relistRooms_eq_map _ hValid.roomIds (by simp)

theorem ids_ofContent_rooms (content : Content) :
    Catalog.ids (ofContent content).rooms =
      Catalog.ids content.rooms :=
  relistRooms_map_id _ [] content.rooms

/- The containers of a built world are those of the content. -/
theorem inside_ofContent
    {inner outer : String}
    (hInside :
      Inside (ofContent content).things inner outer) :
    Inside content.things inner outer := by
  rcases inside_iff.mp hInside with
    ⟨placed, hFind, hContainer⟩
  rw [ofContent_things, Catalog.find?_map
    (Content.placeWhereListed_id content.rooms),
    Option.map_eq_some_iff] at hFind
  rcases hFind with ⟨thing, hThing, rfl⟩
  refine inside_iff.mpr ⟨thing, hThing, ?_⟩
  rcases Content.placement_placeWhereListed content.rooms
      thing with hSame | ⟨room, -, hRoom⟩
  · rw [← hSame, hContainer]
  · rw [hRoom] at hContainer
    simp at hContainer

/- Whatever is placed in a built world is placed in it. -/
theorem resolves_ofContent
    (hValid : content.IsValid)
    {id : String}
    {placement : Placement}
    (hPlaces : (ofContent content).Places id placement) :
    (ofContent content).Resolves placement := by
  rcases hPlaces with ⟨placed, hMem, -, rfl⟩
  rw [ofContent_things] at hMem
  rcases List.mem_map.mp hMem with ⟨thing, hThing, rfl⟩
  have hResolves := hValid.resolves hThing
  rcases Content.placement_placeWhereListed content.rooms
      thing with hSame | ⟨room, hRoom, hNew⟩
  · rw [hSame]
    cases hOld : thing.placement with
    | room room =>
        rw [hOld] at hResolves
        rw [Resolves, ids_ofContent_rooms]
        exact hResolves
    | container container =>
        rw [hOld] at hResolves
        rw [Resolves, ids_ofContent_things]
        exact hResolves
    | carried => trivial
    | nowhere => trivial
  · rw [hNew, Resolves, ids_ofContent_rooms]
    exact hRoom

/- The world of accepted content is coherent. -/
theorem ofContent_isCoherent
    (hValid : content.IsValid) :
    (ofContent content).IsCoherent where
  roomIds := by
    rw [ids_ofContent_rooms]
    exact hValid.roomIds
  thingIds := by
    rw [ids_ofContent_things]
    exact hValid.thingIds
  puzzleIds := hValid.puzzleIds
  resolves := by
    intro id placement hPlaces
    exact resolves_ofContent hValid hPlaces
  listed := by
    intro room id
    unfold Lists
    rw [ofContent_rooms hValid]
    constructor
    · rintro ⟨entry, hEntry, rfl, hListed⟩
      rcases List.mem_map.mp hEntry with ⟨old, -, rfl⟩
      rw [mem_relist_iff, mem_placedIn_iff] at hListed
      exact hListed
    · intro hPlaces
      have hRoom : room ∈ Catalog.ids content.rooms := by
        rw [← ids_ofContent_rooms]
        exact resolves_ofContent hValid hPlaces
      rcases (Catalog.mem_ids_iff _ _).mp hRoom with
        ⟨old, hOld, rfl⟩
      refine ⟨_, List.mem_map_of_mem hOld, rfl, ?_⟩
      rw [mem_relist_iff, mem_placedIn_iff]
      exact hPlaces
  acyclic :=
    hValid.acyclic.mono (fun _ _ => inside_ofContent)

end World

end TextAdventure
