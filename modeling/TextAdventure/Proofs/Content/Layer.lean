import TextAdventure.Content.Layer
import TextAdventure.Proofs.Content.Validity

/-
  Content up to a layer, and what the filter can break.

  What the check asks of content falls into the start room
  and all the rest. The filter keeps all the rest: a thing
  goes with the container or the room that it lies in, and
  a listing with the thing that it lists. So the check can
  only miss the start room.

  Main declarations:
    * `Content.HangsTogether`
    * `Content.isValid_iff`
    * `Content.exists_isKept_of_container`
    * `Content.HangsTogether.filterLayer`
    * `Content.IsValid.validate_filterLayer`
-/

namespace TextAdventure

namespace Content

variable {content : Content}

------------------------------------------------------------
-- All But The Start Room
------------------------------------------------------------

/- All that the check asks for, but for the start room. -/
structure HangsTogether (content : Content) : Prop where
  roomIds : (Catalog.ids content.rooms).Nodup
  thingIds : (Catalog.ids content.things).Nodup
  puzzleIds : (Catalog.ids content.puzzles).Nodup
  placed :
    ∀ thing ∈ content.things,
      content.placementFault? thing = none
  acyclic : IsAcyclic content.things
  listed :
    ∀ room ∈ content.rooms, ∀ id ∈ room.things,
      id ∈ Catalog.ids content.things

/- Rooms pass the check if they list only what is there. -/
theorem checkRooms_eq_ok_iff
    (rooms : List Room) :
    (checkRooms content rooms).value = .ok () ↔
      ∀ room ∈ rooms, ∀ id ∈ room.things,
        id ∈ Catalog.ids content.things := by
  induction rooms with
  | nil => simp [checkRooms, Logged.silent]
  | cons room rest ih =>
      unfold checkRooms
      split
      · rename_i id hFind
        have hUnknown : id ∉ Catalog.ids content.things := by
          simpa [Catalog.has_eq_false_iff] using
            List.find?_some hFind
        constructor
        · intro hOk
          simp [Logged.silent] at hOk
        · intro hListed
          exact absurd
            (hListed room List.mem_cons_self id
              (List.mem_of_find?_eq_some hFind))
            hUnknown
      · rename_i hNone
        have hKnown :
            ∀ id ∈ room.things,
              id ∈ Catalog.ids content.things := by
          intro id hId
          simpa [Catalog.has_eq_true_iff_mem_ids] using
            List.find?_eq_none.mp hNone id hId
        rw [Logged.after, ih, List.forall_mem_cons]
        exact ⟨fun hRest => ⟨hKnown, hRest⟩, And.right⟩

theorem cycleFault?_eq_none_iff :
    content.cycleFault? = none ↔
      IsAcyclic content.things := by
  have hChains :
      content.cycleFault? = none ↔
        ∀ thing ∈ content.things,
          chainEnds content.things
            (content.things.length + 1) thing.id = true := by
    simp [cycleFault?]
  rw [hChains]
  constructor
  · exact isAcyclic_of_chainEnds _
  · intro hAcyclic thing _
    rw [chainEnds_eq_true_iff]
    exact hAcyclic.holderAfter?_eq_none thing.id

/- What the check says of content that hangs together. -/
theorem HangsTogether.validate_value
    (hTogether : content.HangsTogether) :
    content.validate.value =
      match content.startFault? with
      | some fault => .error fault
      | none => .ok () := by
  have hFault :
      content.structuralFault? = content.startFault? := by
    have hPlaced :
        content.things.findSome? content.placementFault? =
          none := by
      simpa using hTogether.placed
    have hAcyclic :=
      cycleFault?_eq_none_iff.mpr hTogether.acyclic
    simp [structuralFault?,
      (repeatedId?_eq_none_iff _ _).mpr hTogether.roomIds,
      (repeatedId?_eq_none_iff _ _).mpr hTogether.thingIds,
      (repeatedId?_eq_none_iff _ _).mpr hTogether.puzzleIds,
      hPlaced, hAcyclic]
  have hRooms :=
    (checkRooms_eq_ok_iff content.rooms).mpr hTogether.listed
  unfold validate
  rw [hFault]
  cases hStart : content.startFault? with
  | some fault => rfl
  | none => simp only [hRooms]

theorem IsValid.startFault?_eq_none
    (hValid : content.IsValid) :
    content.startFault? = none :=
  (structuralFault?_eq_none_iff.mp
    hValid.structuralFault?_eq_none).2.2.2.1

theorem IsValid.hangsTogether
    (hValid : content.IsValid) :
    content.HangsTogether where
  roomIds := hValid.roomIds
  thingIds := hValid.thingIds
  puzzleIds := hValid.puzzleIds
  placed :=
    (structuralFault?_eq_none_iff.mp
      hValid.structuralFault?_eq_none).2.2.2.2.1
  acyclic := hValid.acyclic
  listed := by
    rw [← checkRooms_eq_ok_iff]
    have hCheck := hValid
    unfold IsValid validate at hCheck
    simp only [hValid.structuralFault?_eq_none] at hCheck
    split at hCheck
    · simp at hCheck
    · assumption

/- The two halves of the check. -/
theorem isValid_iff :
    content.IsValid ↔
      content.HangsTogether ∧ content.startFault? = none := by
  constructor
  · intro hValid
    exact ⟨hValid.hangsTogether, hValid.startFault?_eq_none⟩
  · rintro ⟨hTogether, hStart⟩
    rw [IsValid, hTogether.validate_value, hStart]

theorem startFault?_eq_none_iff :
    content.startFault? = none ↔
      content.rooms = [] ∨
        content.rules.startRoom ∈
          Catalog.ids content.rooms := by
  simp [startFault?, Catalog.has_eq_true_iff_mem_ids,
    or_iff_not_imp_left]

theorem startFault?_eq_some_iff
    {fault : WorldFault} :
    content.startFault? = some fault ↔
      content.rooms ≠ [] ∧
        content.rules.startRoom ∉
          Catalog.ids content.rooms ∧
        .unknownRoom content.rules.startRoom = fault := by
  simp [startFault?, Catalog.has_eq_true_iff_mem_ids,
    and_assoc]

------------------------------------------------------------
-- What Is Kept
------------------------------------------------------------

/- The rooms up to a layer, as they were. -/
def roomsUpTo (content : Content) (layer : UInt32) :
    List Room :=
  content.rooms.filter (fun room => room.layer ≤ layer)

/- More steps find the same end of a chain. -/
theorem rootOf_succ
    {things : List Thing}
    {steps : Nat}
    {thing : Thing}
    (hEnds : rootOf things steps thing ≠ .lost) :
    rootOf things (steps + 1) thing =
      rootOf things steps thing := by
  induction steps generalizing thing with
  | zero => simp [rootOf] at hEnds
  | succ steps ih =>
      unfold rootOf at hEnds ⊢
      cases hPlacement : thing.placement with
      | room | carried | nowhere => rfl
      | container container =>
          simp only [hPlacement] at hEnds ⊢
          cases hFind : Catalog.find? container things with
          | none => rfl
          | some next =>
              simp only [hFind] at hEnds ⊢
              exact ih hEnds

/- A kept thing lies in a room that is kept. -/
theorem has_of_isKept_of_room
    {rooms : List Room}
    {things : List Thing}
    {thing : Thing}
    {room : String}
    (hKept : isKept rooms things thing = true)
    (hPlacement : thing.placement = .room room) :
    Catalog.has room rooms = true := by
  simpa [isKept, rootOf, hPlacement] using hKept

/- A kept thing lies in a container that is kept. -/
theorem exists_isKept_of_container
    {rooms : List Room}
    {things : List Thing}
    {thing : Thing}
    {container : String}
    (hKept : isKept rooms things thing = true)
    (hPlacement : thing.placement = .container container) :
    ∃ next, Catalog.find? container things = some next ∧
      isKept rooms things next = true := by
  unfold isKept at hKept
  rw [rootOf] at hKept
  simp only [hPlacement] at hKept
  cases hFind : Catalog.find? container things with
  | none => simp [hFind] at hKept
  | some next =>
      simp only [hFind] at hKept
      have hEnds :
          rootOf things things.length next ≠ .lost := by
        intro hLost
        simp [hLost] at hKept
      refine ⟨next, rfl, ?_⟩
      rw [isKept, rootOf_succ hEnds]
      exact hKept

variable {layer : UInt32}

theorem ids_filterLayer_rooms (content : Content) :
    Catalog.ids (content.filterLayer layer).rooms =
      Catalog.ids (content.roomsUpTo layer) :=
  @Catalog.ids_map _ _
    (pruneRoom (content.roomsUpTo layer) _) (fun _ => rfl) _

theorem mem_ids_roomsUpTo_iff
    {id : String} :
    id ∈ Catalog.ids (content.roomsUpTo layer) ↔
      ∃ room ∈ content.rooms,
        room.id = id ∧ room.layer ≤ layer := by
  simp [Catalog.mem_ids_iff, roomsUpTo, and_assoc, and_comm]

/- With distinct ids the kept things are those that stay. -/
theorem mem_filterLayer_things_iff
    (hIds : (Catalog.ids content.things).Nodup)
    {thing : Thing} :
    thing ∈ (content.filterLayer layer).things ↔
      thing ∈ content.things ∧
        isKept (content.roomsUpTo layer) content.things
          thing = true := by
  simp only [filterLayer, List.mem_filter,
    List.contains_eq_mem, decide_eq_true_eq,
    Catalog.mem_ids_iff]
  refine and_congr_right fun hMem => ?_
  constructor
  · rintro ⟨other, ⟨hOther, hKept⟩, hId⟩
    rw [← Catalog.eq_of_idOf_eq hIds hOther hMem hId]
    exact hKept
  · intro hKept
    exact ⟨thing, ⟨hMem, hKept⟩, rfl⟩

/- What lies inside something up to a layer did so before. -/
theorem inside_of_filterLayer
    (hIds : (Catalog.ids content.things).Nodup)
    {inner outer : String}
    (hInside :
      Inside (content.filterLayer layer).things inner outer) :
    Inside content.things inner outer := by
  rcases inside_iff.mp hInside with
    ⟨thing, hFind, hPlacement⟩
  rcases Catalog.find?_some hFind with ⟨hMem, hId⟩
  have hOld :=
    ((mem_filterLayer_things_iff hIds).mp hMem).1
  exact inside_iff.mpr ⟨thing,
    (Catalog.find?_eq_some_iff hIds).mpr ⟨hOld, hId⟩,
    hPlacement⟩

/- Where a thing lies is kept with it. -/
theorem HangsTogether.placementFault?_filterLayer
    (hTogether : content.HangsTogether)
    {thing : Thing}
    (hMem : thing ∈ (content.filterLayer layer).things) :
    (content.filterLayer layer).placementFault? thing =
      none := by
  have hThings :=
    @mem_filterLayer_things_iff _ layer hTogether.thingIds
  have hKept := (hThings.mp hMem).2
  unfold placementFault?
  cases hPlacement : thing.placement with
  | carried | nowhere => rfl
  | room room =>
      have hHas := has_of_isKept_of_room hKept hPlacement
      rw [Catalog.has_eq_true_iff_mem_ids,
        ← ids_filterLayer_rooms,
        ← Catalog.has_eq_true_iff_mem_ids] at hHas
      simp [hHas]
  | container container =>
      rcases exists_isKept_of_container hKept hPlacement with
        ⟨next, hFind, hNext⟩
      rcases Catalog.find?_some hFind with ⟨hOld, rfl⟩
      have hHas :=
        Catalog.has_of_mem (hThings.mpr ⟨hOld, hNext⟩)
      simpa using hHas

------------------------------------------------------------
-- Checking Again
------------------------------------------------------------

/- The filter leaves alone all but the start room. -/
theorem HangsTogether.filterLayer
    (hTogether : content.HangsTogether)
    (layer : UInt32) :
    (content.filterLayer layer).HangsTogether where
  roomIds := by
    rw [ids_filterLayer_rooms]
    exact hTogether.roomIds.sublist
      (List.filter_sublist.map _)
  thingIds :=
    hTogether.thingIds.sublist (List.filter_sublist.map _)
  puzzleIds :=
    hTogether.puzzleIds.sublist (List.filter_sublist.map _)
  placed := fun _ => hTogether.placementFault?_filterLayer
  acyclic :=
    hTogether.acyclic.mono
      (fun _ _ => inside_of_filterLayer hTogether.thingIds)
  listed := by
    intro room hRoom id hId
    rcases List.mem_map.mp hRoom with ⟨old, -, rfl⟩
    have hKept := (List.mem_filter.mp hId).2
    rw [List.contains_eq_mem, decide_eq_true_eq,
      Catalog.mem_ids_iff] at hKept
    rcases hKept with ⟨thing, hThing, hThingId⟩
    refine (Catalog.mem_ids_iff _ _).mpr
      ⟨thing, ?_, hThingId⟩
    exact (mem_filterLayer_things_iff
      hTogether.thingIds).mpr (List.mem_filter.mp hThing)

/-
  Accepted content is accepted up to a layer as well, unless
  rooms are left without the start room.
-/
theorem IsValid.validate_filterLayer
    (hValid : content.IsValid)
    (layer : UInt32) :
    (content.filterLayer layer).validate.value =
      match (content.filterLayer layer).startFault? with
      | some fault => .error fault
      | none => .ok () :=
  (hValid.hangsTogether.filterLayer layer).validate_value

end Content

end TextAdventure
