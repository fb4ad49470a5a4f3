import TextAdventure.Proofs.Content.Cut

/-
  The world of content up to a layer, within the world of
  all of it.

  The filter asks where things are placed, and only the built
  world asks where they are listed. So the smaller world is a
  part of the whole one but for things without a placement
  that are first listed in a room that goes.

  Main declarations:
    * `Content.ListsAway`
    * `Content.listingRoom?_filterLayer`
    * `World.HoldsRightly`
    * `World.PlacesAlike`
    * `World.isPart_iff_not_listsAway`
-/

namespace TextAdventure

namespace Content

variable {content : Content}
variable {layer : UInt32}
variable {thing last : Thing}

------------------------------------------------------------
-- Listings Up To A Layer
------------------------------------------------------------

/- A thing that is only listed, first in a room that goes. -/
def ListsAway
    (content : Content)
    (layer : UInt32)
    (thing : Thing) : Prop :=
  thing.placement = .nowhere ∧
    ∃ room, listingRoom? content.rooms thing.id = some room ∧
      room ∉ Catalog.ids (content.filterLayer layer).rooms

/- A thing that stays is listed where it was, if that stays. -/
theorem listingRoom?_filterLayer
    {id : String}
    (hStays :
      id ∈ Catalog.ids (content.filterLayer layer).things) :
    listingRoom? (content.filterLayer layer).rooms id =
      listingRoom? (content.roomsUpTo layer) id := by
  have hKept :
      (Catalog.ids (content.thingsUpTo layer)).contains id =
        true := by
    rcases (Catalog.mem_ids_iff _ _).mp hStays with
      ⟨thing, hThing, rfl⟩
    exact (List.mem_filter.mp hThing).2
  have hSame :
      (fun room : Room => room.things.contains id) ∘
          pruneRoom (content.roomsUpTo layer)
            (Catalog.ids (content.thingsUpTo layer)) =
        fun room => room.things.contains id := by
    funext room
    rw [Function.comp_apply, Bool.eq_iff_iff,
      List.contains_iff_mem, List.contains_iff_mem]
    exact List.mem_filter.trans (and_iff_left hKept)
  rw [listingRoom?, filterLayer_rooms, List.find?_map,
    Option.map_map, hSame]
  rfl

/- The first listing is kept with the room that has it. -/
theorem listingRoom?_roomsUpTo
    (hIds : (Catalog.ids content.rooms).Nodup)
    {id room : String}
    (hListing : listingRoom? content.rooms id = some room)
    (hKept : room ∈ Catalog.ids (content.roomsUpTo layer)) :
    listingRoom? (content.roomsUpTo layer) id = some room := by
  rcases Option.map_eq_some_iff.mp hListing with
    ⟨found, hFound, rfl⟩
  rcases mem_ids_roomsUpTo_iff.mp hKept with
    ⟨other, hOther, hId, hLayer⟩
  have hSame :=
    Catalog.eq_of_idOf_eq hIds hOther
      (List.mem_of_find?_eq_some hFound) hId
  rw [hSame] at hLayer
  refine Option.map_eq_some_iff.mpr ⟨found, ?_, rfl⟩
  rcases List.find?_eq_some_iff_append.mp hFound with
    ⟨hLists, before, after, hSplit, hBefore⟩
  refine List.find?_eq_some_iff_append.mpr
    ⟨hLists, before.filter (fun room => room.layer ≤ layer),
      after.filter (fun room => room.layer ≤ layer), ?_, ?_⟩
  · rw [roomsUpTo, hSplit]
    simp [List.filter_append, hLayer]
  · intro room hRoom
    exact hBefore room (List.mem_filter.mp hRoom).1

/- What no room lists is listed in none of the fewer rooms. -/
theorem listingRoom?_roomsUpTo_eq_none
    {id : String}
    (hNone : listingRoom? content.rooms id = none) :
    listingRoom? (content.roomsUpTo layer) id = none := by
  simp only [listingRoom?, Option.map_eq_none_iff,
    List.find?_eq_none] at hNone ⊢
  intro room hRoom
  exact hNone room (List.mem_filter.mp hRoom).1

/- A listing is in a room that there is. -/
theorem mem_ids_of_listingRoom?
    {rooms : List Room}
    {id room : String}
    (hListing : listingRoom? rooms id = some room) :
    room ∈ Catalog.ids rooms := by
  rcases Option.map_eq_some_iff.mp hListing with
    ⟨found, hFound, rfl⟩
  exact (Catalog.mem_ids_iff _ _).mpr
    ⟨found, List.mem_of_find?_eq_some hFound, rfl⟩

------------------------------------------------------------
-- Placing Up To A Layer
------------------------------------------------------------

/- Only a thing that is nowhere is placed by a listing. -/
theorem placeWhereListed_eq_self
    {rooms : List Room}
    (hPlaced : thing.placement ≠ .nowhere) :
    placeWhereListed rooms thing = thing := by
  unfold placeWhereListed
  split
  · contradiction
  · rfl

theorem placement_placeWhereListed_of_nowhere
    {rooms : List Room}
    (hNowhere : thing.placement = .nowhere) :
    (placeWhereListed rooms thing).placement =
      match listingRoom? rooms thing.id with
      | some room => .room room
      | none => .nowhere := by
  unfold placeWhereListed
  cases listingRoom? rooms thing.id <;> simp [hNowhere]

theorem container?_placeWhereListed
    (rooms : List Room)
    (thing : Thing) :
    (placeWhereListed rooms thing).placement.container? =
      thing.placement.container? := by
  by_cases hNowhere : thing.placement = .nowhere
  · rw [placement_placeWhereListed_of_nowhere hNowhere,
      hNowhere]
    split <;> rfl
  · rw [placeWhereListed_eq_self hNowhere]

namespace HangsTogether

variable (hTogether : content.HangsTogether)

include hTogether

/-
  The room that a thing ends in once it is placed decides
  whether it stays, unless that room is only a listing.
-/
theorem stays_iff_placed_iff
    (hMem : thing ∈ content.things)
    (hLast : Outermost content.things thing last) :
    (thing ∈ (content.filterLayer layer).things ↔
        ∀ room,
          (placeWhereListed content.rooms last).placement =
              .room room →
            room ∈ Catalog.ids
              (content.filterLayer layer).rooms) ↔
      ¬ content.ListsAway layer last := by
  rw [hTogether.mem_filterLayer_things_iff hLast]
  by_cases hNowhere : last.placement = .nowhere
  · rw [placement_placeWhereListed_of_nowhere hNowhere]
    simp only [ListsAway, hNowhere, hMem, true_and]
    cases hListing : listingRoom? content.rooms last.id with
    | none => simp
    | some room => simp
  · simp [ListsAway, placeWhereListed_eq_self hNowhere,
      hNowhere, hMem]

/- A thing that stays is placed alike unless listed away. -/
theorem placement_alike_iff
    (hMem : thing ∈ (content.filterLayer layer).things) :
    (placeWhereListed (content.filterLayer layer).rooms
          thing).placement =
        (placeWhereListed content.rooms thing).placement ↔
      ¬ content.ListsAway layer thing := by
  have hId :
      thing.id ∈
        Catalog.ids (content.filterLayer layer).things :=
    List.mem_map_of_mem hMem
  by_cases hNowhere : thing.placement = .nowhere
  · rw [placement_placeWhereListed_of_nowhere hNowhere,
      placement_placeWhereListed_of_nowhere hNowhere,
      listingRoom?_filterLayer hId]
    simp only [ListsAway, hNowhere, true_and,
      ids_filterLayer_rooms]
    cases hListing : listingRoom? content.rooms thing.id with
    | none =>
        simp [listingRoom?_roomsUpTo_eq_none hListing]
    | some room =>
        by_cases hKept :
            room ∈ Catalog.ids (content.roomsUpTo layer)
        · simp [listingRoom?_roomsUpTo hTogether.roomIds
            hListing hKept, hKept]
        · suffices hOther :
              ∀ other,
                listingRoom? (content.roomsUpTo layer)
                    thing.id = some other →
                  other ≠ room by
            cases hNew :
                listingRoom? (content.roomsUpTo layer)
                  thing.id with
            | none => simp [hKept]
            | some other => simp [hKept, hOther other hNew]
          rintro other hNew rfl
          exact hKept (mem_ids_of_listingRoom? hNew)
  · simp [ListsAway, placeWhereListed_eq_self hNowhere,
      hNowhere]

end HangsTogether

end Content

namespace World

open Content (Outermost)

variable {content : Content}

------------------------------------------------------------
-- Parts Of Worlds
------------------------------------------------------------

/-
  A part has a thing of the whole world exactly if it has the
  room that the thing's chain ends in, should it end in one.
-/
def HoldsRightly
    (whole part : World)
    (id : String) : Prop :=
  ∃ thing last, whole.thing? id = some thing ∧
    Outermost whole.things thing last ∧
      ((part.thing? id).isSome ↔
        ∀ room, last.placement = .room room →
          room ∈ Catalog.ids part.rooms)

/- A thing of two worlds has the same placement in both. -/
def PlacesAlike
    (whole part : World)
    (id : String) : Prop :=
  ∀ thing other, whole.thing? id = some thing →
    part.thing? id = some other →
      other.placement = thing.placement

theorem thing?_ofContent_of_mem
    (hIds : (Catalog.ids content.things).Nodup)
    {thing : Thing}
    (hMem : thing ∈ content.things) :
    (ofContent content).thing? thing.id =
      some (Content.placeWhereListed content.rooms thing) := by
  have hFind :
      Catalog.find? thing.id content.things = some thing :=
    (Catalog.find?_eq_some_iff hIds).mpr ⟨hMem, rfl⟩
  rw [thing?, ofContent_things, Catalog.find?_map
    (Content.placeWhereListed_id content.rooms), hFind]
  rfl

theorem isSome_thing?_ofContent_iff
    (content : Content)
    (id : String) :
    ((ofContent content).thing? id).isSome ↔
      id ∈ Catalog.ids content.things := by
  rw [thing?, Catalog.find?_isSome,
    Catalog.has_eq_true_iff_mem_ids, ids_ofContent_things]

/- Chains of a built world are those of the content. -/
theorem outermost_ofContent
    {thing last : Thing}
    (hLast : Outermost content.things thing last) :
    Outermost (ofContent content).things
      (Content.placeWhereListed content.rooms thing)
      (Content.placeWhereListed content.rooms last) :=
  hLast.map (Content.placeWhereListed_id content.rooms)
    (Content.container?_placeWhereListed content.rooms)

section UpTo

variable {layer : UInt32}
variable {thing last : Thing}
variable (hTogether : content.HangsTogether)
variable (hMem : thing ∈ content.things)

include hTogether hMem

/- The world up to a layer has the things that stay. -/
theorem isSome_thing?_filterLayer_iff :
    ((ofContent (content.filterLayer layer)).thing?
          thing.id).isSome ↔
      thing ∈ (content.filterLayer layer).things := by
  rw [isSome_thing?_ofContent_iff, Catalog.mem_ids_iff]
  constructor
  · rintro ⟨other, hOther, hId⟩
    have hOld := (List.mem_filter.mp hOther).1
    have hSame :=
      Catalog.eq_of_idOf_eq hTogether.thingIds hOld hMem hId
    rw [← hSame]
    exact hOther
  · intro hStays
    exact ⟨thing, hStays, rfl⟩

theorem holdsRightly_iff
    (hLast : Outermost content.things thing last) :
    (ofContent content).HoldsRightly
        (ofContent (content.filterLayer layer)) thing.id ↔
      ¬ content.ListsAway layer last := by
  have hThing := thing?_ofContent_of_mem hTogether.thingIds hMem
  have hPlaced := outermost_ofContent hLast
  rw [← hTogether.stays_iff_placed_iff hMem hLast,
    ← isSome_thing?_filterLayer_iff hTogether hMem,
    ← ids_ofContent_rooms]
  constructor
  · rintro ⟨found, other, hFound, hOther, hRightly⟩
    rw [hThing] at hFound
    cases hFound
    cases hPlaced.unique hOther
    exact hRightly
  · intro hRightly
    exact ⟨_, _, hThing, hPlaced, hRightly⟩

theorem placesAlike_iff :
    (ofContent content).PlacesAlike
        (ofContent (content.filterLayer layer)) thing.id ↔
      ¬ content.ListsAway layer thing := by
  have hThing := thing?_ofContent_of_mem hTogether.thingIds hMem
  by_cases hStays : thing ∈ (content.filterLayer layer).things
  · have hPart :=
      thing?_ofContent_of_mem
        (hTogether.filterLayer layer).thingIds hStays
    rw [← hTogether.placement_alike_iff hStays]
    constructor
    · intro hAlike
      exact hAlike _ _ hThing hPart
    · intro hAlike found other hFound hOther
      rw [hThing] at hFound
      rw [hPart] at hOther
      cases hFound
      cases hOther
      exact hAlike
  · -- A thing that goes is not nowhere, so no listing
    -- places it.
    have hNotListed : ¬ content.ListsAway layer thing := by
      rintro ⟨hNowhere, -⟩
      refine hStays
        ((hTogether.mem_filterLayer_things_iff
          (.self ?_)).mpr ⟨hMem, ?_⟩)
      · rw [hNowhere]
        rfl
      · simp [hNowhere]
    refine iff_of_true ?_ hNotListed
    intro found other hFound hOther
    refine absurd ?_ hStays
    rw [← isSome_thing?_filterLayer_iff hTogether hMem,
      hOther]
    rfl

end UpTo

/-
  The world up to a layer has a thing rightly unless its
  outermost thing is listed away, and alike unless the thing
  itself is. So it is a part of the whole world exactly if
  nothing is listed away.
-/
theorem isPart_iff_not_listsAway
    (hValid : content.IsValid)
    (layer : UInt32) :
    let whole := ofContent content
    let part := ofContent (content.filterLayer layer)
    (∀ thing ∈ content.things,
        ∃ last, Outermost content.things thing last ∧
          (whole.HoldsRightly part thing.id ↔
            ¬ content.ListsAway layer last) ∧
          (whole.PlacesAlike part thing.id ↔
            ¬ content.ListsAway layer thing)) ∧
      ((∀ thing ∈ content.things,
          whole.HoldsRightly part thing.id ∧
            whole.PlacesAlike part thing.id) ↔
        ∀ thing ∈ content.things,
          ¬ content.ListsAway layer thing) := by
  intro whole part
  have hTogether := hValid.hangsTogether
  have hEach :
      ∀ thing ∈ content.things,
        ∃ last, Outermost content.things thing last ∧
          (whole.HoldsRightly part thing.id ↔
            ¬ content.ListsAway layer last) ∧
          (whole.PlacesAlike part thing.id ↔
            ¬ content.ListsAway layer thing) := by
    intro thing hMem
    rcases hTogether.exists_outermost hMem with ⟨last, hLast⟩
    exact ⟨last, hLast,
      holdsRightly_iff hTogether hMem hLast,
      placesAlike_iff hTogether hMem⟩
  refine ⟨hEach, ?_⟩
  constructor
  · intro hPart thing hMem
    rcases hEach thing hMem with ⟨last, -, -, hAlike⟩
    exact hAlike.mp (hPart thing hMem).2
  · intro hNone thing hMem
    rcases hEach thing hMem with
      ⟨last, hLast, hRightly, hAlike⟩
    exact ⟨hRightly.mpr (hNone last (hLast.mem hMem)),
      hAlike.mpr (hNone thing hMem)⟩

/-
  An attic above a cellar lists a coin that has no placement
  of its own.
-/
def coinInTheAttic : Content where
  rules := { startRoom := "cellar" }
  rooms :=
    [{ id := "cellar", name := "Cellar" },
     { id := "attic"
       name := "Attic"
       layer := 1
       things := ["coin"] }]
  things := [{ id := "coin", name := "coin" }]

/- The coin is still there when the attic is gone. -/
theorem coin_without_attic :
    coinInTheAttic.IsValid ∧
      ¬ (ofContent coinInTheAttic).HoldsRightly
        (ofContent (coinInTheAttic.filterLayer 0)) "coin" ∧
      ((ofContent (coinInTheAttic.filterLayer 0)).thing?
        "coin").map Thing.placement = some .nowhere := by
  have hValid : coinInTheAttic.IsValid := by rfl
  have hCoin :
      ({ id := "coin", name := "coin" } : Thing) ∈
        coinInTheAttic.things := by
    decide
  have hAway :
      coinInTheAttic.ListsAway 0
        { id := "coin", name := "coin" } :=
    ⟨rfl, "attic", by decide, by decide⟩
  rcases (isPart_iff_not_listsAway hValid 0).1 _ hCoin with
    ⟨last, hLast, hRightly, -⟩
  cases hLast with
  | self =>
      exact ⟨hValid, fun hHolds => hRightly.mp hHolds hAway,
        by decide⟩
  | inside hPlacement => simp at hPlacement

end World

end TextAdventure
