import TextAdventure.Proofs.Content.Acceptance
import TextAdventure.Proofs.World.Merging

/-
  Which things a merge adds.

  A thing is taken in if its id is new and it belongs in a
  place that is there, or in a thing that is taken in. The
  passes over the things find all of these, however deep they
  lie in each other and in whatever order they come, and
  nothing else: things inside each other in a circle wait for
  each other forever.

  Main declarations:
    * `Merge.Passes`
    * `Merge.passes_iff`
    * `World.Takes`
    * `World.exists_newcomers_merge`
    * `World.Takes.not_in_circle`
    * `World.merge_adds_what_has_a_place`
-/

namespace TextAdventure

open Relation (ReflTransGen TransGen)
open Content (Home placeWhereListed)

------------------------------------------------------------
-- Passes Without A Limit
------------------------------------------------------------

namespace Merge

/-
  Pass after pass over the things that are put off, until one
  leaves nothing or as many as it was given.
-/
inductive Passes :
    Merge → List Thing → Merge × List Thing → Prop where
| last
    {merge : Merge}
    {pending : List Thing}
    (hStop :
      (merge.thingsOnce pending).2 = [] ∨
        (merge.thingsOnce pending).2.length =
          pending.length) :
    Passes merge pending
      ((merge.thingsOnce pending).1.skipThings
          (merge.thingsOnce pending).2,
        (merge.thingsOnce pending).2)
| again
    {merge : Merge}
    {pending : List Thing}
    {result : Merge × List Thing}
    (hLeft : (merge.thingsOnce pending).2 ≠ [])
    (hFewer :
      (merge.thingsOnce pending).2.length ≠ pending.length)
    (hRest :
      Passes (merge.thingsOnce pending).1
        (merge.thingsOnce pending).2 result) :
    Passes merge pending result

/-
  The passes come to an end, and to one end. Each that is not
  the last leaves fewer things, so a limit above the number
  of things is never met.
-/
theorem passes_iff
    {limit : Nat}
    {merge : Merge}
    {pending : List Thing}
    (hLimit : pending.length < limit)
    (result : Merge × List Thing) :
    Passes merge pending result ↔
      result = merge.things limit pending := by
  induction limit generalizing merge pending with
  | zero => omega
  | succ limit ih =>
      have hLe :=
        (World.thingsOnce_sublist pending merge).length_le
      unfold Merge.things
      simp only [List.isEmpty_iff]
      split
      · rename_i hStop
        constructor
        · intro hPasses
          cases hPasses with
          | last => rfl
          | again hLeft hFewer =>
              exact absurd hStop (not_or.mpr ⟨hLeft, hFewer⟩)
        · rintro rfl
          exact .last hStop
      · rename_i hGoesOn
        rcases not_or.mp hGoesOn with ⟨hLeft, hFewer⟩
        rw [← ih (by omega)]
        constructor
        · intro hPasses
          cases hPasses with
          | last hStop => exact absurd hStop hGoesOn
          | again _ _ hRest => exact hRest
        · exact .again hLeft hFewer

end Merge

namespace World

variable {world later : World}
variable {incoming : Content}
variable {thing : Thing}

------------------------------------------------------------
-- Things With A Place
------------------------------------------------------------

/-
  The incoming things that can be added to a world. This is
  the least set that with a thing has all that belongs in it.
-/
inductive Takes (world : World) (incoming : Content) :
    Thing → Prop where
| loose
    {thing : Thing}
    {placement : Placement}
    (hMem : thing ∈ incoming.things)
    (hNew : thing.id ∉ Catalog.ids world.things)
    (hHome : Home incoming.rooms thing placement)
    (hLoose : placement = .carried ∨ placement = .nowhere) :
    Takes world incoming thing
| inRoom
    {thing : Thing}
    {room : String}
    (hMem : thing ∈ incoming.things)
    (hNew : thing.id ∉ Catalog.ids world.things)
    (hHome : Home incoming.rooms thing (.room room))
    (hRoom :
      room ∈ Catalog.ids world.rooms ∨
        room ∈ Catalog.ids incoming.rooms) :
    Takes world incoming thing
| inKnown
    {thing : Thing}
    {container : String}
    (hMem : thing ∈ incoming.things)
    (hNew : thing.id ∉ Catalog.ids world.things)
    (hHome : Home incoming.rooms thing (.container container))
    (hKnown : container ∈ Catalog.ids world.things) :
    Takes world incoming thing
| inTaken
    {thing outer : Thing}
    (hMem : thing ∈ incoming.things)
    (hNew : thing.id ∉ Catalog.ids world.things)
    (hHome : Home incoming.rooms thing (.container outer.id))
    (hOuter : Takes world incoming outer) :
    Takes world incoming thing

namespace Takes

theorem mem (hTakes : world.Takes incoming thing) :
    thing ∈ incoming.things := by
  cases hTakes <;> assumption

theorem isNew (hTakes : world.Takes incoming thing) :
    thing.id ∉ Catalog.ids world.things := by
  cases hTakes <;> assumption

/- The order in which the things come makes no difference. -/
theorem of_subset
    {other : Content}
    (hTakes : world.Takes incoming thing)
    (hThings : incoming.things ⊆ other.things)
    (hRooms : other.rooms = incoming.rooms) :
    world.Takes other thing := by
  induction hTakes with
  | loose hMem hNew hHome hLoose =>
      exact .loose (hThings hMem) hNew (hRooms ▸ hHome) hLoose
  | inRoom hMem hNew hHome hRoom =>
      exact .inRoom (hThings hMem) hNew (hRooms ▸ hHome)
        (hRooms ▸ hRoom)
  | inKnown hMem hNew hHome hKnown =>
      exact .inKnown (hThings hMem) hNew (hRooms ▸ hHome)
        hKnown
  | inTaken hMem hNew hHome _ ih =>
      exact .inTaken (hThings hMem) hNew (hRooms ▸ hHome) ih

end Takes

------------------------------------------------------------
-- Nothing Else Is Added
------------------------------------------------------------

/-
  A world that came from another by a merge, as far as it got:
  its new rooms are incoming, and its new things are taken.
-/
structure MergesTo
    (world : World)
    (incoming : Content)
    (later : World) : Prop where
  rooms :
    Catalog.ids later.rooms ⊆
      Catalog.ids world.rooms ++ Catalog.ids incoming.rooms
  things :
    ∃ newcomers,
      later.things = world.things ++ newcomers ∧
        ∀ placed ∈ newcomers, ∃ thing,
          world.Takes incoming thing ∧
            placed = placeWhereListed incoming.rooms thing

namespace MergesTo

theorem refl
    (world : World)
    (incoming : Content) :
    world.MergesTo incoming world where
  rooms := List.subset_append_left _ _
  things := ⟨[], by simp⟩

/- A thing that is added has a place, so it is taken. -/
theorem takes
    (hMerges : world.MergesTo incoming later)
    (hMem : thing ∈ incoming.things)
    (hNew : thing.id ∉ Catalog.ids later.things)
    (hResolves :
      later.Resolves
        (placeWhereListed incoming.rooms thing).placement) :
    world.Takes incoming thing := by
  rcases hMerges.things with ⟨newcomers, hThings, hTaken⟩
  have hIds :
      Catalog.ids later.things =
        Catalog.ids world.things ++ Catalog.ids newcomers := by
    simp [hThings, Catalog.ids]
  rw [hIds, List.mem_append, not_or] at hNew
  have hHome :=
    Content.home_placeWhereListed incoming.rooms thing
  generalize
    (placeWhereListed incoming.rooms thing).placement = place
    at hHome hResolves
  cases place with
  | room room =>
      exact .inRoom hMem hNew.1 hHome
        (List.mem_append.mp (hMerges.rooms hResolves))
  | container container =>
      rw [Resolves, hIds] at hResolves
      rcases List.mem_append.mp hResolves with
        hKnown | hNewcomer
      · exact .inKnown hMem hNew.1 hHome hKnown
      · rcases (Catalog.mem_ids_iff _ _).mp hNewcomer with
          ⟨placed, hPlaced, rfl⟩
        rcases hTaken placed hPlaced with ⟨outer, hOuter, rfl⟩
        rw [idOf_thing, Content.placeWhereListed_id] at hHome
        exact .inTaken hMem hNew.1 hHome hOuter
  | carried => exact .loose hMem hNew.1 hHome (Or.inl rfl)
  | nowhere => exact .loose hMem hNew.1 hHome (Or.inr rfl)

theorem addRoom?
    {room : Room}
    {after : World}
    (hMerges : world.MergesTo incoming later)
    (hMem : room ∈ incoming.rooms)
    (hAdd : later.addRoom? room = some after) :
    world.MergesTo incoming after := by
  rcases eq_of_addRoom?_eq_some hAdd with
    ⟨-, listing, -, rfl⟩
  refine ⟨?_, hMerges.things⟩
  have hRoom : room.id ∈ Catalog.ids incoming.rooms :=
    List.mem_map_of_mem hMem
  simp only [Catalog.ids, List.map_append, List.map_cons,
    List.map_nil, idOf_room]
  exact List.append_subset.mpr
    ⟨hMerges.rooms, List.cons_subset.mpr
      ⟨List.mem_append_right _ hRoom,
        List.nil_subset _⟩⟩

theorem addThing
    {after : World}
    (hMerges : world.MergesTo incoming later)
    (hMem : thing ∈ incoming.things)
    (hAdd :
      later.addThing
          (placeWhereListed incoming.rooms thing) =
        .ok (some after)) :
    world.MergesTo incoming after := by
  rcases addThing_eq_ok_some_iff.mp hAdd with
    ⟨hNew, hResolves, rfl⟩
  rw [Content.placeWhereListed_id,
    Catalog.has_eq_false_iff] at hNew
  have hTakes := hMerges.takes hMem hNew hResolves
  rcases hMerges.things with ⟨newcomers, hThings, hTaken⟩
  refine ⟨?_, newcomers ++
    [placeWhereListed incoming.rooms thing], ?_, ?_⟩
  · rw [ids_listNew]
    exact hMerges.rooms
  · rw [hThings, List.append_assoc]
  · intro placed hPlaced
    rcases List.mem_append.mp hPlaced with hOld | hSelf
    · exact hTaken placed hOld
    · exact ⟨thing, hTakes, List.mem_singleton.mp hSelf⟩

theorem add
    (hMerges : world.MergesTo incoming later)
    {part : Addition}
    (hPart : part ∈ incoming.placeListed.parts) :
    world.MergesTo incoming (later.add part) := by
  unfold World.add
  cases hAdd : later.add? part with
  | none => exact hMerges
  | some after =>
      rw [Option.getD_some]
      simp only [Content.parts, List.mem_append,
        List.mem_map] at hPart
      rcases hPart with
        ((⟨room, hMem, rfl⟩ | ⟨placed, hMem, rfl⟩) |
          ⟨puzzle, -, rfl⟩) | ⟨script, -, rfl⟩
      · exact hMerges.addRoom? hMem hAdd
      · rcases List.mem_map.mp hMem with ⟨thing, hThing, rfl⟩
        exact hMerges.addThing hThing
          (add?_thing_iff.mp hAdd)
      · rcases addPuzzle?_eq_some_iff.mp hAdd with ⟨-, rfl⟩
        exact ⟨hMerges.rooms, hMerges.things⟩
      · cases eq_of_addScript?_eq_some hAdd
        exact ⟨hMerges.rooms, hMerges.things⟩

theorem addAll
    (hMerges : world.MergesTo incoming later)
    {parts : List Addition}
    (hParts : parts ⊆ incoming.placeListed.parts) :
    world.MergesTo incoming (later.addAll parts) := by
  induction parts generalizing later with
  | nil => exact hMerges
  | cons part rest ih =>
      rcases List.cons_subset.mp hParts with ⟨hPart, hRest⟩
      exact ih (hMerges.add hPart) hRest

end MergesTo

/- What a merge adds it has taken. -/
theorem mergesTo_merge
    (world : World)
    (incoming : Content) :
    world.MergesTo incoming
      (world.merge incoming).value.1 := by
  rcases merge_eq_addAll world incoming with
    ⟨parts, hParts, hWorld⟩
  rw [hWorld]
  exact (MergesTo.refl world incoming).addAll hParts

------------------------------------------------------------
-- Everything With A Place Is Added
------------------------------------------------------------

/- What a merge has added of one kind is behind what was. -/
theorem idsOf_subset_merge
    (world : World)
    (incoming : Content)
    (kind : EntityKind) :
    world.idsOf kind ⊆
      (world.merge incoming).value.1.idsOf kind := by
  rw [(accounts_merge world incoming).added kind]
  exact List.subset_append_left _ _

/- A thing is added if its place is there in the end. -/
theorem mem_ids_merge_of_resolves
    (hCoherent : world.IsCoherent)
    (hMem : thing ∈ incoming.things)
    {placement : Placement}
    (hHome : Home incoming.rooms thing placement)
    (hResolves :
      (world.merge incoming).value.1.Resolves placement) :
    thing.id ∈
      Catalog.ids (world.merge incoming).value.1.things := by
  have hPart :
      Addition.thing (placeWhereListed incoming.rooms thing) ∈
        incoming.placeListed.parts := by
    have hPlaced :
        placeWhereListed incoming.rooms thing ∈
          incoming.placeListed.things :=
      List.mem_map_of_mem hMem
    simp [Content.parts, hPlaced]
  have hRefuses := refuses_merge hCoherent incoming _ hPart
  rw [Refuses, Content.placeWhereListed_id,
    Content.home_iff.mp hHome] at hRefuses
  exact hRefuses.resolve_right (not_not_intro hResolves)

/- Every incoming room is there in the end. -/
theorem mem_ids_rooms_merge
    (hCoherent : world.IsCoherent)
    {room : String}
    (hRoom : room ∈ Catalog.ids incoming.rooms) :
    room ∈
      Catalog.ids (world.merge incoming).value.1.rooms := by
  rcases (Catalog.mem_ids_iff _ _).mp hRoom with
    ⟨entry, hEntry, rfl⟩
  have hPart :
      Addition.room entry ∈ incoming.placeListed.parts := by
    have hMem : entry ∈ incoming.placeListed.rooms := hEntry
    simp [Content.parts, hMem]
  exact refuses_merge hCoherent incoming _ hPart

/-
  The world after a merge has every thing that is taken. The
  induction is on why it is taken, so a container is there
  before what belongs in it.
-/
theorem Takes.mem_ids_merge
    (hTakes : world.Takes incoming thing)
    (hCoherent : world.IsCoherent) :
    thing.id ∈
      Catalog.ids (world.merge incoming).value.1.things := by
  induction hTakes with
  | loose hMem _ hHome hLoose =>
      apply mem_ids_merge_of_resolves hCoherent hMem hHome
      rcases hLoose with rfl | rfl <;> trivial
  | inRoom hMem _ hHome hRoom =>
      apply mem_ids_merge_of_resolves hCoherent hMem hHome
      rcases hRoom with hKnown | hIncoming
      · exact idsOf_subset_merge world incoming .room hKnown
      · exact mem_ids_rooms_merge hCoherent hIncoming
  | inKnown hMem _ hHome hKnown =>
      apply mem_ids_merge_of_resolves hCoherent hMem hHome
      exact idsOf_subset_merge world incoming .thing hKnown
  | inTaken hMem _ hHome _ ih =>
      exact mem_ids_merge_of_resolves hCoherent hMem hHome ih

/- The new things are those that are taken, where they belong. -/
theorem exists_newcomers_merge
    (incoming : Content)
    (hCoherent : world.IsCoherent)
    (hDistinct : (Catalog.ids incoming.things).Nodup) :
    ∃ newcomers,
      (world.merge incoming).value.1.things =
          world.things ++ newcomers ∧
        (world.merge incoming).value.2.thingsAdded =
          Catalog.ids newcomers ∧
        (Catalog.ids newcomers).Nodup ∧
        ∀ placed, placed ∈ newcomers ↔
          ∃ thing, world.Takes incoming thing ∧
            placed =
              placeWhereListed incoming.rooms thing := by
  rcases (mergesTo_merge world incoming).things with
    ⟨newcomers, hThings, hTaken⟩
  have hIds :
      Catalog.ids (world.merge incoming).value.1.things =
        Catalog.ids world.things ++ Catalog.ids newcomers := by
    simp [hThings, Catalog.ids]
  have hAdded :
      Catalog.ids (world.merge incoming).value.1.things =
        Catalog.ids world.things ++
          (world.merge incoming).value.2.thingsAdded :=
    (accounts_merge world incoming).added .thing
  have hNodup :
      (Catalog.ids
        (world.merge incoming).value.1.things).Nodup :=
    (hCoherent.grows (world.merge_grows incoming)).thingIds
  rw [hIds] at hAdded hNodup
  refine ⟨newcomers, hThings,
    (List.append_cancel_left hAdded).symm,
    (List.nodup_append.mp hNodup).2.1, ?_⟩
  intro placed
  constructor
  · exact hTaken placed
  · rintro ⟨thing, hTakes, rfl⟩
    have hKnown := hTakes.mem_ids_merge hCoherent
    rw [hIds] at hKnown
    have hNewcomer :=
      (List.mem_append.mp hKnown).resolve_left hTakes.isNew
    rcases (Catalog.mem_ids_iff _ _).mp hNewcomer with
      ⟨placed, hPlaced, hId⟩
    rcases hTaken placed hPlaced with ⟨other, hOther, rfl⟩
    rw [idOf_thing, Content.placeWhereListed_id] at hId
    have hSame : other = thing :=
      Catalog.eq_of_idOf_eq hDistinct hOther.mem hTakes.mem hId
    exact hSame ▸ hPlaced

/- The merge reports what is taken as added. -/
theorem mem_thingsAdded_merge_iff
    (hCoherent : world.IsCoherent)
    (hDistinct : (Catalog.ids incoming.things).Nodup)
    (id : String) :
    id ∈ (world.merge incoming).value.2.thingsAdded ↔
      ∃ thing, world.Takes incoming thing ∧ thing.id = id := by
  rcases exists_newcomers_merge incoming hCoherent
      hDistinct with
    ⟨newcomers, -, hAdded, -, hTaken⟩
  rw [hAdded, Catalog.mem_ids_iff]
  constructor
  · rintro ⟨placed, hPlaced, rfl⟩
    rcases (hTaken placed).mp hPlaced with
      ⟨thing, hTakes, rfl⟩
    exact ⟨thing, hTakes,
      (Content.placeWhereListed_id _ _).symm⟩
  · rintro ⟨thing, hTakes, rfl⟩
    exact ⟨_, (hTaken _).mpr ⟨thing, hTakes, rfl⟩,
      Content.placeWhereListed_id _ _⟩

theorem id_mem_thingsAdded_merge_iff
    (hCoherent : world.IsCoherent)
    (hDistinct : (Catalog.ids incoming.things).Nodup)
    (hMem : thing ∈ incoming.things) :
    thing.id ∈ (world.merge incoming).value.2.thingsAdded ↔
      world.Takes incoming thing := by
  rw [mem_thingsAdded_merge_iff hCoherent hDistinct]
  constructor
  · rintro ⟨other, hTakes, hId⟩
    have hSame : other = thing :=
      Catalog.eq_of_idOf_eq hDistinct hTakes.mem hMem hId
    exact hSame ▸ hTakes
  · intro hTakes
    exact ⟨thing, hTakes, rfl⟩

------------------------------------------------------------
-- Circles
------------------------------------------------------------

/- A new thing lies directly in another new thing. -/
def InsideNew
    (world : World)
    (incoming : Content)
    (inner outer : String) : Prop :=
  Inside incoming.things inner outer ∧
    outer ∉ Catalog.ids world.things

/- A circle through a thing goes through what it is in. -/
theorem circle_of_insideNew
    (hDistinct : (Catalog.ids incoming.things).Nodup)
    (hMem : thing ∈ incoming.things)
    {placement : Placement}
    (hHome : Home incoming.rooms thing placement)
    (hCircle :
      TransGen (world.InsideNew incoming) thing.id thing.id) :
    ∃ outer, placement = .container outer ∧
      outer ∉ Catalog.ids world.things ∧
        TransGen (world.InsideNew incoming) outer outer := by
  rcases TransGen.head'_iff.mp hCircle with
    ⟨outer, hStep, hBack⟩
  rcases inside_iff.mp hStep.1 with
    ⟨found, hFind, hContainer⟩
  have hSame : found = thing := by
    have hThing :=
      (Catalog.find?_eq_some_iff hDistinct).mpr ⟨hMem, rfl⟩
    exact Option.some.inj (hFind.symm.trans hThing)
  rw [hSame] at hContainer
  rw [Content.home_iff,
    Content.placeWhereListed_eq_self (by simp [hContainer]),
    hContainer] at hHome
  exact ⟨outer, hHome.symm, hStep.2, .tail' hBack hStep⟩

/-
  What is taken is not inside itself. A circle through it goes
  through what it belongs in, which was taken before it.
-/
theorem Takes.not_in_circle
    (hTakes : world.Takes incoming thing)
    (hDistinct : (Catalog.ids incoming.things).Nodup) :
    ¬ TransGen (world.InsideNew incoming) thing.id
      thing.id := by
  induction hTakes with
  | loose hMem _ hHome hLoose =>
      intro hCircle
      rcases circle_of_insideNew hDistinct hMem hHome
        hCircle with ⟨outer, rfl, -, -⟩
      simp at hLoose
  | inRoom hMem _ hHome =>
      intro hCircle
      rcases circle_of_insideNew hDistinct hMem hHome
        hCircle with ⟨outer, hPlacement, -, -⟩
      simp at hPlacement
  | inKnown hMem _ hHome hKnown =>
      intro hCircle
      rcases circle_of_insideNew hDistinct hMem hHome
        hCircle with ⟨outer, hPlacement, hNew, -⟩
      cases hPlacement
      exact hNew hKnown
  | inTaken hMem _ hHome _ ih =>
      intro hCircle
      rcases circle_of_insideNew hDistinct hMem hHome
        hCircle with ⟨outer, hPlacement, -, hOuter⟩
      cases hPlacement
      exact ih hOuter

------------------------------------------------------------
-- The Order Of What Comes
------------------------------------------------------------

/- Things in another order make the same things new. -/
theorem merge_perm
    (hCoherent : world.IsCoherent)
    (hDistinct : (Catalog.ids incoming.things).Nodup)
    {shuffled : List Thing}
    (hPerm : shuffled.Perm incoming.things) :
    let merged := (world.merge incoming).value
    let other :=
      (world.merge { incoming with things := shuffled }).value
    other.1.things.Perm merged.1.things ∧
      other.2.thingsAdded.Perm merged.2.thingsAdded := by
  intro merged other
  have hOtherDistinct : (Catalog.ids shuffled).Nodup :=
    (hPerm.map Thing.id).nodup_iff.mpr hDistinct
  rcases exists_newcomers_merge incoming hCoherent
      hDistinct with
    ⟨newcomers, hThings, hAdded, hNodup, hTaken⟩
  rcases exists_newcomers_merge
      { incoming with things := shuffled } hCoherent
      hOtherDistinct with
    ⟨others, hOtherThings, hOtherAdded, hOtherNodup,
      hOtherTaken⟩
  have hSame : others.Perm newcomers := by
    refine (List.perm_ext_iff_of_nodup hOtherNodup.of_map
      hNodup.of_map).mpr ?_
    intro placed
    rw [hOtherTaken, hTaken]
    constructor
    · rintro ⟨thing, hTakes, hPlaced⟩
      exact ⟨thing, hTakes.of_subset hPerm.subset rfl,
        hPlaced⟩
    · rintro ⟨thing, hTakes, hPlaced⟩
      exact ⟨thing, hTakes.of_subset hPerm.symm.subset rfl,
        hPlaced⟩
  rw [hThings, hOtherThings, hAdded, hOtherAdded]
  exact ⟨hSame.append_left world.things,
    hSame.map Thing.id⟩

------------------------------------------------------------
-- Merges Into Worlds Of Accepted Content
------------------------------------------------------------

/-
  A merge adds exactly the things that are taken, each where
  it belongs, and none that is inside itself. Its passes come
  to an end without their limit, the order of the things does
  not matter, and in the world after it nothing is inside
  itself and all places are there.
-/
theorem merge_adds_what_has_a_place
    {content : Content}
    (hValid : content.IsValid)
    (first : List Addition)
    (incoming : Content)
    (hDistinct : (Catalog.ids incoming.things).Nodup) :
    let world := (ofContent content).addAll first
    let merged := (world.merge incoming).value
    (∀ thing ∈ incoming.things,
      thing.id ∈ merged.2.thingsAdded ↔
        world.Takes incoming thing) ∧
    (∃ newcomers,
      merged.1.things = world.things ++ newcomers ∧
      merged.2.thingsAdded = Catalog.ids newcomers ∧
      ∀ placed, placed ∈ newcomers ↔
        ∃ thing placement,
          world.Takes incoming thing ∧
            Home incoming.rooms thing placement ∧
              placed =
                { thing with placement := placement }) ∧
    (∀ id, TransGen (world.InsideNew incoming) id id →
      id ∉ merged.2.thingsAdded) ∧
    (∀ (merge : Merge) (pending : List Thing) result,
      Merge.Passes merge pending result ↔
        result =
          merge.things (pending.length + 1) pending) ∧
    (∀ shuffled, shuffled.Perm incoming.things →
      let other :=
        (world.merge
          { incoming with things := shuffled }).value
      other.1.things.Perm merged.1.things ∧
        other.2.thingsAdded.Perm merged.2.thingsAdded) ∧
    IsAcyclic merged.1.things ∧
    ∀ id placement, merged.1.Places id placement →
      merged.1.Resolves placement := by
  intro world merged
  have hCoherent : world.IsCoherent :=
    (ofContent_isCoherent hValid).addAll first
  have hMerged : merged.1.IsCoherent :=
    hCoherent.grows (world.merge_grows incoming)
  rcases exists_newcomers_merge incoming hCoherent
      hDistinct with
    ⟨newcomers, hThings, hAdded, -, hTaken⟩
  refine ⟨fun thing hMem =>
      id_mem_thingsAdded_merge_iff hCoherent hDistinct hMem,
    ⟨newcomers, hThings, hAdded, ?_⟩, ?_,
    fun merge pending result =>
      Merge.passes_iff (Nat.lt_succ_self _) result,
    fun shuffled hPerm => merge_perm hCoherent hDistinct hPerm,
    hMerged.acyclic, hMerged.resolves⟩
  · intro placed
    simp only [hTaken, Content.eq_placeWhereListed_iff,
      exists_and_left]
  · intro id hCircle hIn
    rcases (mem_thingsAdded_merge_iff hCoherent hDistinct
        id).mp hIn with ⟨thing, hTakes, rfl⟩
    exact hTakes.not_in_circle hDistinct hCircle

/-
  A shed with a nail in a box that comes after it, a rake that
  is only listed, and a cup and a jug that are in each other.
-/
def clutteredShed : Content where
  rooms :=
    [{ id := "shed", name := "Shed", things := ["rake"] }]
  things :=
    [{ id := "nail"
       name := "nail"
       placement := .container "box" },
     { id := "box"
       name := "box"
       placement := .room "hall" },
     { id := "rake", name := "rake" },
     { id := "cup"
       name := "cup"
       placement := .container "jug" },
     { id := "jug"
       name := "jug"
       placement := .container "cup" }]

/- All but the cup and the jug are taken into the hall. -/
theorem clutteredShed_is_taken :
    furnishedHall.IsValid ∧
    (Catalog.ids clutteredShed.things).Nodup ∧
    (∀ thing ∈ clutteredShed.things,
      (ofContent furnishedHall).Takes clutteredShed thing ↔
        thing.id ∈ ["box", "rake", "nail"]) ∧
    ((ofContent furnishedHall).merge
        { clutteredShed with
            things := clutteredShed.things.reverse
        }).value.2.thingsAdded.Perm
      ["box", "rake", "nail"] := by
  have hValid : furnishedHall.IsValid := by rfl
  have hDistinct :
      (Catalog.ids clutteredShed.things).Nodup := by
    decide
  have hAdded :
      ((ofContent furnishedHall).merge
          clutteredShed).value.2.thingsAdded =
        ["box", "rake", "nail"] := by
    decide +kernel
  have hSettled :=
    merge_adds_what_has_a_place hValid [] clutteredShed
      hDistinct
  simp only [addAll_nil, hAdded] at hSettled
  rcases hSettled with ⟨hTakes, -, -, -, hPerm, -, -⟩
  exact ⟨hValid, hDistinct,
    fun thing hMem => (hTakes thing hMem).symm,
    (hPerm _ (List.reverse_perm _)).2⟩

end World

end TextAdventure
