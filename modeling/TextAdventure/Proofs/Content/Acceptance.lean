import TextAdventure.Proofs.World.Chains
import TextAdventure.Proofs.World.Part

/-
  What the check accepts, and what is built from it.

  The check accepts exactly the content whose ids are given
  once, whose places and listings are there and in which
  nothing is inside itself. To find the last it walks from
  every thing through the containers around it, and stops
  where it has been. The walk ends from every thing, and
  with the answer that the bounded walk gives.

  In the world that is built, a thing is at its own place or
  in the first room that lists it.

  Main declarations:
    * `Content.Walk`
    * `Content.walk_iff`
    * `Content.IsWellFormed`
    * `Content.isValid_iff_isWellFormed`
    * `Content.Home`
    * `Content.validate_accepts_well_formed`
-/

namespace TextAdventure

open Relation (ReflTransGen TransGen)

namespace Content

variable {things : List Thing}
variable {start current : String}
variable {seen : List String}

------------------------------------------------------------
-- The Walk Of The Check
------------------------------------------------------------

/-
  The walk from a start through the containers around it. It
  remembers what it has left behind. It finds a cycle where
  it comes to something again or would come to the start, and
  none if it comes to a thing that is in no container.
-/
inductive Walk (things : List Thing) (start : String) :
    List String → String → Bool → Prop where
| ends
    {seen : List String}
    {current : String}
    (hOutermost : holder? things current = none) :
    Walk things start seen current true
| stops
    {seen : List String}
    {current next : String}
    (hNext : holder? things current = some next)
    (hAgain : current ∈ seen ∨ next = start) :
    Walk things start seen current false
| goesOn
    {seen : List String}
    {current next : String}
    {verdict : Bool}
    (hNext : holder? things current = some next)
    (hNew : current ∉ seen)
    (hApart : next ≠ start)
    (hRest :
      Walk things start (current :: seen) next verdict) :
    Walk things start seen current verdict

/- What a walk leaves behind: known things, each once. -/
structure IsTrail
    (things : List Thing)
    (seen : List String) : Prop where
  nodup : seen.Nodup
  known : seen ⊆ Catalog.ids things

namespace IsTrail

variable (hTrail : IsTrail things seen)

include hTrail

theorem length_le : seen.length ≤ things.length := by
  have hLength := (hTrail.nodup.subperm hTrail.known).length_le
  rwa [Catalog.ids, List.length_map] at hLength

/- Only a known thing lies in a container. -/
theorem cons
    {next : String}
    (hNext : holder? things current = some next)
    (hNew : current ∉ seen) :
    IsTrail things (current :: seen) where
  nodup := List.nodup_cons.mpr ⟨hNew, hTrail.nodup⟩
  known :=
    List.cons_subset.mpr
      ⟨(Catalog.has_eq_true_iff_mem_ids _ _).mp
        (Inside.has hNext), hTrail.known⟩

/-
  The walk comes to a verdict, as there are only so many
  things that it can leave behind.
-/
theorem exists_walk (start current : String) :
    ∃ verdict, Walk things start seen current verdict := by
  induction hLeft : things.length - seen.length
    generalizing seen current with
  | zero =>
      cases hNext : holder? things current with
      | none => exact ⟨true, .ends hNext⟩
      | some next =>
          by_cases hNew : current ∈ seen
          · exact ⟨false, .stops hNext (Or.inl hNew)⟩
          · have hLength := (hTrail.cons hNext hNew).length_le
            rw [List.length_cons] at hLength
            omega
  | succ left ih =>
      cases hNext : holder? things current with
      | none => exact ⟨true, .ends hNext⟩
      | some next =>
          by_cases hAgain : current ∈ seen ∨ next = start
          · exact ⟨false, .stops hNext hAgain⟩
          · rw [not_or] at hAgain
            have hFewer :
                things.length - (current :: seen).length =
                  left := by
              rw [List.length_cons]
              omega
            rcases ih (hTrail.cons hNext hAgain.1) next
                hFewer with
              ⟨verdict, hRest⟩
            exact ⟨verdict,
              .goesOn hNext hAgain.1 hAgain.2 hRest⟩

end IsTrail

namespace Walk

/- A walk that finds no cycle has come to an end in time. -/
theorem holderAfter?_eq_none
    (hWalk : Walk things start seen current true)
    (hTrail : IsTrail things seen)
    {steps : Nat}
    (hSteps : things.length < steps + seen.length) :
    holderAfter? things steps current = none := by
  generalize hTrue : true = verdict at hWalk
  induction hWalk generalizing steps with
  | ends hOutermost =>
      have hLength := hTrail.length_le
      cases steps with
      | zero => omega
      | succ steps => simp [holderAfter?, hOutermost]
  | stops => cases hTrue
  | @goesOn seen current next verdict hNext hNew _ _ ih =>
      have hLonger := hTrail.cons hNext hNew
      have hLength := hLonger.length_le
      rw [List.length_cons] at hLength
      cases steps with
      | zero => omega
      | succ steps =>
          rw [holderAfter?, hNext, Option.bind_some]
          refine ih hLonger ?_ hTrue
          rw [List.length_cons]
          omega

/- A walk that stops has come around to where it was. -/
theorem exists_cycle
    (hWalk : Walk things start seen current false)
    (hStart : ReflTransGen (Inside things) start current)
    (hSeen :
      ∀ id ∈ seen, TransGen (Inside things) id current) :
    ∃ id, ReflTransGen (Inside things) start id ∧
      TransGen (Inside things) id id := by
  generalize hFalse : false = verdict at hWalk
  induction hWalk with
  | ends => cases hFalse
  | @stops seen current next hNext hAgain =>
      rcases hAgain with hMem | rfl
      · exact ⟨current, hStart, hSeen current hMem⟩
      · exact ⟨next, .refl, .tail' hStart hNext⟩
  | @goesOn seen current next verdict hNext _ _ _ ih =>
      refine ih (hStart.tail hNext) ?_ hFalse
      intro id hMem
      rcases List.mem_cons.mp hMem with rfl | hEarlier
      · exact .single hNext
      · exact (hSeen id hEarlier).tail hNext

end Walk

/- What runs into a cycle does not come to an end. -/
theorem chainEnds_eq_false
    {id : String}
    (hReach : ReflTransGen (Inside things) start id)
    (hCycle : TransGen (Inside things) id id)
    (steps : Nat) :
    chainEnds things steps start = false := by
  have hSome :=
    isEndless_iff.mp (isEndless_of_cycle hReach hCycle) steps
  rw [← Bool.not_eq_true, chainEnds_eq_true_iff]
  intro hNone
  simp [hNone] at hSome

/- The walk from a thing ends with the bounded walk's answer. -/
theorem walk_iff
    (things : List Thing)
    (start : String)
    (verdict : Bool) :
    Walk things start [] start verdict ↔
      verdict = chainEnds things (things.length + 1) start := by
  have hTrail : IsTrail things [] := ⟨.nil, List.nil_subset _⟩
  have hAnswer :
      ∀ verdict, Walk things start [] start verdict →
        verdict =
          chainEnds things (things.length + 1) start := by
    intro verdict hWalk
    cases verdict with
    | true =>
        refine ((chainEnds_eq_true_iff _ _).mpr
          (hWalk.holderAfter?_eq_none hTrail ?_)).symm
        exact Nat.lt_succ_self _
    | false =>
        rcases hWalk.exists_cycle .refl (by simp) with
          ⟨id, hReach, hCycle⟩
        exact (chainEnds_eq_false hReach hCycle _).symm
  constructor
  · exact hAnswer verdict
  · rintro rfl
    rcases hTrail.exists_walk start start with ⟨found, hWalk⟩
    rwa [← hAnswer found hWalk]

------------------------------------------------------------
-- Accepted Content
------------------------------------------------------------

/-
  Ids are given once, the start room is there if any room is,
  placements and listings name what is there, and nothing is
  reached from itself from container to container.
-/
structure IsWellFormed (content : Content) : Prop where
  roomIds : (Catalog.ids content.rooms).Nodup
  thingIds : (Catalog.ids content.things).Nodup
  puzzleIds : (Catalog.ids content.puzzles).Nodup
  start :
    content.rooms = [] ∨
      content.rules.startRoom ∈ Catalog.ids content.rooms
  inRoom :
    ∀ thing ∈ content.things, ∀ room,
      thing.placement = .room room →
        room ∈ Catalog.ids content.rooms
  inContainer :
    ∀ thing ∈ content.things, ∀ container,
      thing.placement = .container container →
        container ∈ Catalog.ids content.things
  acyclic : IsAcyclic content.things
  listed :
    ∀ room ∈ content.rooms, ∀ id ∈ room.things,
      id ∈ Catalog.ids content.things

variable {content : Content}

theorem placementFault?_eq_none_iff
    {thing : Thing} :
    content.placementFault? thing = none ↔
      (∀ room, thing.placement = .room room →
        room ∈ Catalog.ids content.rooms) ∧
      ∀ container, thing.placement = .container container →
        container ∈ Catalog.ids content.things := by
  unfold placementFault?
  cases thing.placement <;>
    simp [Catalog.has_eq_true_iff_mem_ids]

theorem isValid_iff_isWellFormed :
    content.IsValid ↔ content.IsWellFormed := by
  rw [isValid_iff, startFault?_eq_none_iff]
  constructor
  · rintro ⟨hTogether, hStart⟩
    exact
      { roomIds := hTogether.roomIds
        thingIds := hTogether.thingIds
        puzzleIds := hTogether.puzzleIds
        start := hStart
        inRoom := fun thing hMem =>
          (placementFault?_eq_none_iff.mp
            (hTogether.placed thing hMem)).1
        inContainer := fun thing hMem =>
          (placementFault?_eq_none_iff.mp
            (hTogether.placed thing hMem)).2
        acyclic := hTogether.acyclic
        listed := hTogether.listed }
  · intro hFormed
    exact
      ⟨{ roomIds := hFormed.roomIds
         thingIds := hFormed.thingIds
         puzzleIds := hFormed.puzzleIds
         placed := fun thing hMem =>
          placementFault?_eq_none_iff.mpr
            ⟨hFormed.inRoom thing hMem,
              hFormed.inContainer thing hMem⟩
         acyclic := hFormed.acyclic
         listed := hFormed.listed },
        hFormed.start⟩

------------------------------------------------------------
-- Homes
------------------------------------------------------------

/-
  Where a thing belongs, by its own placement or, if that is
  nowhere, by the first room that lists it.
-/
inductive Home (rooms : List Room) (thing : Thing) :
    Placement → Prop where
| own
    (hPlaced : thing.placement ≠ .nowhere) :
    Home rooms thing thing.placement
| listed
    {front back : List Room}
    {room : Room}
    (hNowhere : thing.placement = .nowhere)
    (hRooms : rooms = front ++ room :: back)
    (hLists : thing.id ∈ room.things)
    (hFirst : ∀ earlier ∈ front, thing.id ∉ earlier.things) :
    Home rooms thing (.room room.id)
| unlisted
    (hNowhere : thing.placement = .nowhere)
    (hUnlisted : ∀ room ∈ rooms, thing.id ∉ room.things) :
    Home rooms thing .nowhere

theorem home_placeWhereListed
    (rooms : List Room)
    (thing : Thing) :
    Home rooms thing
      (placeWhereListed rooms thing).placement := by
  by_cases hNowhere : thing.placement = .nowhere
  · rw [placement_placeWhereListed_of_nowhere hNowhere]
    cases hListing : listingRoom? rooms thing.id with
    | none =>
        refine .unlisted hNowhere ?_
        simpa [listingRoom?] using hListing
    | some id =>
        rcases Option.map_eq_some_iff.mp hListing with
          ⟨room, hFind, rfl⟩
        rcases List.find?_eq_some_iff_append.mp hFind with
          ⟨hLists, front, back, hRooms, hFirst⟩
        refine .listed hNowhere hRooms ?_ ?_
        · simpa using hLists
        · intro earlier hMem
          simpa using hFirst earlier hMem
  · rw [placeWhereListed_eq_self hNowhere]
    exact .own hNowhere

/- A thing belongs in one place. -/
theorem home_iff
    {rooms : List Room}
    {thing : Thing}
    {placement : Placement} :
    Home rooms thing placement ↔
      (placeWhereListed rooms thing).placement = placement := by
  constructor
  · intro hHome
    cases hHome with
    | own hPlaced => rw [placeWhereListed_eq_self hPlaced]
    | @listed front back room hNowhere hRooms hLists hFirst =>
        have hFind :
            rooms.find? (fun room =>
                room.things.contains thing.id) =
              some room := by
          refine List.find?_eq_some_iff_append.mpr
            ⟨by simpa using hLists, front, back, hRooms, ?_⟩
          intro earlier hMem
          simpa using hFirst earlier hMem
        rw [placement_placeWhereListed_of_nowhere hNowhere,
          listingRoom?, hFind]
        rfl
    | unlisted hNowhere hUnlisted =>
        have hFind :
            rooms.find? (fun room =>
              room.things.contains thing.id) = none := by
          simpa using hUnlisted
        rw [placement_placeWhereListed_of_nowhere hNowhere,
          listingRoom?, hFind]
        rfl
  · rintro rfl
    exact home_placeWhereListed rooms thing

/- Placing changes nothing of a thing but its placement. -/
theorem placeWhereListed_eq_with_placement
    (rooms : List Room)
    (thing : Thing) :
    placeWhereListed rooms thing =
      { thing with
          placement :=
            (placeWhereListed rooms thing).placement } := by
  unfold placeWhereListed
  split <;> rfl

/- What is placed is the thing at its home. -/
theorem eq_placeWhereListed_iff
    {rooms : List Room}
    {thing placed : Thing} :
    placed = placeWhereListed rooms thing ↔
      ∃ placement, Home rooms thing placement ∧
        placed = { thing with placement := placement } := by
  constructor
  · rintro rfl
    exact ⟨_, home_placeWhereListed rooms thing,
      placeWhereListed_eq_with_placement rooms thing⟩
  · rintro ⟨placement, hHome, rfl⟩
    rw [placeWhereListed_eq_with_placement,
      home_iff.mp hHome]

------------------------------------------------------------
-- The Check And The World
------------------------------------------------------------

/-
  The check accepts exactly what is well-formed, after walks
  that all end. In the world of what is accepted every thing
  is where it belongs, in content order, and a room lists
  exactly what is in it.
-/
theorem validate_accepts_well_formed (content : Content) :
    (∀ start, ∃! verdict,
      Walk content.things start [] start verdict) ∧
    (content.cycleFault? = none ↔
      ∀ thing ∈ content.things,
        Walk content.things thing.id [] thing.id true) ∧
    (content.validate.value = .ok () ↔
      content.IsWellFormed) ∧
    (content.validate.value = .ok () →
      List.Forall₂
          (fun thing placed =>
            ∃ placement,
              Home content.rooms thing placement ∧
                placed =
                  { thing with placement := placement })
          content.things (World.ofContent content).things ∧
        ∀ room id,
          (World.ofContent content).Lists room id ↔
            (World.ofContent content).Places id
              (.room room)) := by
  refine ⟨?_, ?_, isValid_iff_isWellFormed, ?_⟩
  · intro start
    refine ⟨_, (walk_iff _ start _).mpr rfl, ?_⟩
    intro verdict hWalk
    exact (walk_iff _ _ _).mp hWalk
  · simp [cycleFault?, walk_iff]
  · intro hValid
    refine ⟨?_, (World.ofContent_isCoherent hValid).listed⟩
    rw [World.ofContent_things, List.forall₂_map_right_iff,
      List.forall₂_same]
    exact fun thing _ => eq_placeWhereListed_iff.mp rfl

/- A bucket that two rooms list, and a rope in the bucket. -/
def bucketInTwoRooms : Content where
  rules := { startRoom := "yard" }
  rooms :=
    [{ id := "yard", name := "Yard", things := ["bucket"] },
      { id := "well", name := "Well", things := ["bucket"] }]
  things :=
    [{ id := "rope"
       name := "rope"
       placement := .container "bucket" },
      { id := "bucket", name := "bucket", isContainer := true }]

/- It is accepted, and the bucket is in the yard only. -/
theorem bucketInTwoRooms_is_accepted :
    bucketInTwoRooms.validate.value = .ok () ∧
    bucketInTwoRooms.IsWellFormed ∧
    (World.ofContent bucketInTwoRooms).Lists
      "yard" "bucket" ∧
    ¬ (World.ofContent bucketInTwoRooms).Lists
      "well" "bucket" := by
  have hAccepted : bucketInTwoRooms.validate.value = .ok () := by
    decide +kernel
  rcases validate_accepts_well_formed bucketInTwoRooms with
    ⟨-, -, hFormed, hBuilt⟩
  have hLists := (hBuilt hAccepted).2
  refine ⟨hAccepted, hFormed.mp hAccepted,
    (hLists "yard" "bucket").mpr ?_, ?_⟩
  · unfold World.Places
    decide
  · rw [hLists]
    unfold World.Places
    decide

end Content

end TextAdventure
