import TextAdventure.Play.Looking
import TextAdventure.Proofs.Content.Layer
import TextAdventure.Proofs.Scene.Listings
import TextAdventure.Proofs.World.Moves

/-
  How often rooms list what lies in them.

  A thing that has been moved or added is listed once. One
  that lies where the content has put it is listed as often
  as the content lists it there, and at least once: no check
  and no step looks for entries that are given twice.

  Main declarations:
    * `Content.timesListed`
    * `World.movedBy`
    * `World.ListsAsOften`
    * `World.listsAsOften_ofContent`
    * `World.ListsAsOften.run`
    * `World.rooms_repeat_what_content_repeats`
-/

namespace TextAdventure

open Relation (ReflTransGen)

------------------------------------------------------------
-- Entries And Moves
------------------------------------------------------------

/- How often the content lists an id in a room. -/
def Content.timesListed
    (content : Content)
    (room id : String) : Nat :=
  match Catalog.find? room content.rooms with
  | some room => room.things.count id
  | none => 0

/- Content that is accepted lists only what it has. -/
theorem Content.IsValid.mem_ids_of_timesListed
    {content : Content}
    (hValid : content.IsValid)
    {room id : String}
    (hListed : content.timesListed room id ≠ 0) :
    id ∈ Catalog.ids content.things := by
  unfold timesListed at hListed
  split at hListed
  · rename_i found hFind
    exact hValid.hangsTogether.listed found
      (Catalog.find?_some hFind).1 id
      (List.count_pos_iff.mp (Nat.pos_of_ne_zero hListed))
  · exact absurd rfl hListed

namespace World

/- The id of the thing that a step moves, if it moves one. -/
def movedIn (world : World) : Step → List String
| .relocate id target =>
    match world.relocate id target with
    | .ok _ => [id]
    | .error _ => []
| _ => []

/- The ids of the things that steps move, in order. -/
def movedBy (world : World) : List Step → List String
| [] => []
| step :: rest =>
    world.movedIn step ++ (world.step step).movedBy rest

/- How often a room is to list an id. -/
def timesDue
    (world : World)
    (content : Content)
    (moved : List String)
    (room id : String) : Nat :=
  if world.Places id (.room room) then
    if id ∈ moved then 1
    else max 1 (content.timesListed room id)
  else
    0

/-
  Every room lists every id as often as it is to; and what the
  content lists is there.
-/
structure ListsAsOften
    (content : Content)
    (moved : List String)
    (world : World) : Prop where
  known :
    ∀ room id, content.timesListed room id ≠ 0 →
      id ∈ Catalog.ids world.things
  count :
    ∀ room ∈ world.rooms, ∀ id,
      room.things.count id =
        world.timesDue content moved room.id id

------------------------------------------------------------
-- Built Worlds
------------------------------------------------------------

/- A listing made anew keeps entries that are given twice. -/
theorem count_relist
    (here listed : List String)
    (id : String) :
    (relist here listed).count id =
      if id ∈ here then max 1 (listed.count id) else 0 := by
  have hGather :
      relist here listed =
        gather (listed.filter (fun id => here.contains id))
          here :=
    rfl
  rw [hGather, gather_eq_append, List.count_append,
    (nodup_eraseDups _).count]
  by_cases hHere : id ∈ here
  · have hKept :
        (listed.filter (fun id => here.contains id)).count id =
          listed.count id :=
      List.count_filter (by simpa using hHere)
    rw [hKept]
    by_cases hListed : id ∈ listed
    · simp [List.removeAll, hHere, hListed]
    · simp [List.removeAll, hHere, hListed,
        List.count_eq_zero.mpr hListed]
  · have hGone :
        (listed.filter (fun id => here.contains id)).count id =
          0 := by
      simp [List.count_eq_zero, hHere]
    simp only [hGone, hHere]
    simp [List.removeAll, hHere]

theorem listsAsOften_ofContent
    {content : Content}
    (hValid : content.IsValid) :
    ListsAsOften content [] (ofContent content) where
  known := by
    intro room id hListed
    rw [ids_ofContent_things]
    exact hValid.mem_ids_of_timesListed hListed
  count := by
    intro placed hMem id
    rw [ofContent_rooms hValid] at hMem
    rcases List.mem_map.mp hMem with ⟨room, hRoom, rfl⟩
    have hFind : Catalog.find? room.id content.rooms =
        some room :=
      (Catalog.find?_eq_some_iff hValid.roomIds).mpr
        ⟨hRoom, rfl⟩
    have hHere :
        id ∈ placedIn (ofContent content).things room.id ↔
          (ofContent content).Places id (.room room.id) :=
      mem_placedIn_iff _ _ _
    simp [count_relist, hHere, timesDue, hFind,
      Content.timesListed]

------------------------------------------------------------
-- Steps
------------------------------------------------------------

namespace ListsAsOften

variable {content : Content}
variable {moved : List String}
variable {before after world : World}

/- What is due hangs on where the thing is. -/
theorem timesDue_congr
    {room id : String}
    (hPlaces :
      after.Places id (.room room) ↔
        before.Places id (.room room)) :
    after.timesDue content moved room id =
      before.timesDue content moved room id := by
  simp only [timesDue, hPlaces]

theorem of_layout_eq
    (hOften : ListsAsOften content moved before)
    (hLayout : after.layout = before.layout) :
    ListsAsOften content moved after where
  known := by
    rw [ids_things_of_layout_eq hLayout]
    exact hOften.known
  count := by
    intro room hMem id
    rcases exists_room_of_layout_eq hLayout hMem with
      ⟨old, hOld, hId, hThings⟩
    rw [timesDue_congr (places_of_layout_eq hLayout id _),
      ← hId, ← hThings]
    exact hOften.count old hOld id

/- A thing that is moved is listed once, where it comes to. -/
theorem moveTo
    (hOften : ListsAsOften content moved world)
    (hCoherent : world.IsCoherent)
    {id : String}
    {thing : Thing}
    (hThing : world.thing? id = some thing)
    (target : Placement) :
    ListsAsOften content (moved ++ [id])
      (world.moveTo id thing.placement target) where
  known := by
    rw [ids_moveTo_things]
    exact hOften.known
  count := by
    intro listed hMem other
    have hKnown : id ∈ Catalog.ids world.things :=
      (Catalog.has_eq_true_iff_mem_ids _ _).mp
        (Catalog.has_of_find? hThing)
    have hId : thing.id = id := (Catalog.find?_some hThing).2
    rw [(hCoherent.movesOnly_moveTo hThing target).rooms] at hMem
    rcases List.mem_map.mp hMem with ⟨room, hRoom, rfl⟩
    simp only [hId, timesDue,
      places_moveTo_iff hCoherent.thingIds hKnown]
    by_cases hOther : other = id
    · subst hOther
      have hGone :=
        hCoherent.not_mem_thingsWithout hThing hRoom
      rw [List.count_append, List.count_eq_zero.mpr hGone]
      by_cases hTarget : target = .room room.id <;>
        simp [hTarget, eq_comm]
    · have hOthers :
          (thingsWithout id thing.placement room).count other =
            room.things.count other := by
        unfold thingsWithout
        split
        · exact List.count_filter (by simpa using hOther)
        · rfl
      have hAbsent :
          (if target = .room room.id then [id] else []).count
            other = 0 := by
        split <;> simp [Ne.symm hOther]
      rw [List.count_append, hOthers, hAbsent,
        hOften.count room hRoom other]
      simp [hOther, timesDue]

/- A new thing is listed once, where it is placed. -/
theorem listNew_eq_map
    {rooms : List Room}
    (hIds : (Catalog.ids rooms).Nodup)
    (thing : Thing) :
    listNew rooms thing =
      rooms.map (fun room =>
        { room with
            things :=
              room.things ++
                if thing.placement = .room room.id then
                  [thing.id]
                else
                  [] }) := by
  unfold listNew
  cases thing.placement with
  | room place =>
      simp only [Catalog.update_eq_map hIds, idOf_room,
        Placement.room.injEq]
      apply List.map_congr_left
      intro room _
      by_cases hId : room.id = place
      · simp [hId]
      · simp [hId, Ne.symm hId]
  | container | carried | nowhere => simp

theorem addThing
    (hOften : ListsAsOften content moved before)
    (hCoherent : before.IsCoherent)
    {thing : Thing}
    (hAdd : before.addThing thing = .ok (some after)) :
    ListsAsOften content moved after := by
  rcases addThing_eq_ok_some_iff.mp hAdd with
    ⟨hNew, hResolves, rfl⟩
  rw [Catalog.has_eq_false_iff] at hNew
  have hFresh (placement : Placement) :
      ¬ before.Places thing.id placement := by
    rintro ⟨old, hOld, hId, -⟩
    exact hNew ((Catalog.mem_ids_iff _ _).mpr ⟨old, hOld, hId⟩)
  have hUnlisted (room : String) :
      content.timesListed room thing.id = 0 := by
    by_contra hListed
    exact hNew (hOften.known room thing.id hListed)
  refine ⟨?_, ?_⟩
  · intro room id hListed
    have hKnown := hOften.known room id hListed
    simp [Catalog.ids] at hKnown ⊢
    exact Or.inl hKnown
  · intro listed hMem id
    rw [listNew_eq_map hCoherent.roomIds] at hMem
    rcases List.mem_map.mp hMem with ⟨room, hRoom, rfl⟩
    simp only [List.count_append, hOften.count room hRoom,
      timesDue, places_append_iff]
    by_cases hId : id = thing.id
    · subst hId
      have hAbsent := hFresh (.room room.id)
      by_cases hHere : thing.placement = .room room.id <;>
        simp [hAbsent, hHere, hUnlisted]
    · have hOther :
          (if thing.placement = .room room.id then [thing.id]
            else []).count id = 0 := by
        split <;> simp [Ne.symm hId]
      simp [hOther, hId]

/- A new room lists nothing, since its id is new. -/
theorem addRoom?
    (hOften : ListsAsOften content moved before)
    (hCoherent : before.IsCoherent)
    {room : Room}
    (hAdd : before.addRoom? room = some after) :
    ListsAsOften content moved after := by
  rcases eq_of_addRoom?_eq_some hAdd with
    ⟨hNew, listing, hListing, rfl⟩
  refine ⟨hOften.known, ?_⟩
  intro listed hMem id
  rcases List.mem_append.mp hMem with hOld | hLast
  · exact hOften.count listed hOld id
  · cases List.mem_singleton.mp hLast
    have hAbsent := hCoherent.not_places_room hNew id
    have hUnlisted : id ∉ listing := by
      intro hListed
      rcases hListing id hListed with
        ⟨thing, hThing, hPlacement⟩
      exact hAbsent ((places_iff hCoherent.thingIds).mpr
        ⟨thing, hThing, hPlacement⟩)
    rw [List.count_eq_zero.mpr hUnlisted]
    exact (if_neg hAbsent).symm

theorem grow
    {may : Thing → Prop}
    (hOften : ListsAsOften content moved before)
    (hCoherent : before.IsCoherent)
    (hGrows : Grows may before after) :
    ListsAsOften content moved after := by
  cases hGrows with
  | room room hAdd => exact hOften.addRoom? hCoherent hAdd
  | thing thing hMay hAdd => exact hOften.addThing hCoherent hAdd
  | puzzle puzzle hAdd =>
      rcases addPuzzle?_eq_some_iff.mp hAdd with ⟨-, rfl⟩
      exact ⟨hOften.known, hOften.count⟩
  | script script hAdd =>
      cases eq_of_addScript?_eq_some hAdd
      exact hOften.of_layout_eq rfl
  | exits source target direction hAdd =>
      exact hOften.of_layout_eq (layout_connect hAdd)

theorem grows
    {may : Thing → Prop}
    (hOften : ListsAsOften content moved before)
    (hCoherent : before.IsCoherent)
    (hGrows : ReflTransGen (Grows may) before after) :
    ListsAsOften content moved after := by
  induction hGrows with
  | refl => exact hOften
  | tail hFirst hLast ih =>
      exact ih.grow (hCoherent.grows hFirst) hLast

/- Only a move changes what a room owes to the content. -/
theorem step
    (hOften : ListsAsOften content moved world)
    (hCoherent : world.IsCoherent)
    (step : Step) :
    ListsAsOften content (moved ++ world.movedIn step)
      (world.step step) := by
  cases step with
  | relocate id target =>
      cases hMove : world.relocate id target with
      | error fault =>
          rw [step_relocate_of_error hMove]
          simpa [movedIn, hMove] using hOften
      | ok result =>
          rcases relocate_eq_ok_iff.mp hMove with
            ⟨thing, hThing, -, -, hMoved⟩
          rw [step_relocate_of_ok hMove, hMoved]
          simpa [movedIn, hMove] using
            hOften.moveTo hCoherent hThing target
  | add addition =>
      simpa [movedIn, World.step] using
        hOften.grows hCoherent (world.add_grows addition)
  | unblock | visit | write =>
      simpa [movedIn] using
        hOften.of_layout_eq
          (layout_step _ (by simp) (by simp))

/- Rooms list as often as they are to, after steps too. -/
theorem run
    (hOften : ListsAsOften content moved world)
    (hCoherent : world.IsCoherent)
    (steps : List Step) :
    ListsAsOften content (moved ++ world.movedBy steps)
      (world.run steps) := by
  induction steps generalizing world moved with
  | nil => simpa [movedBy] using hOften
  | cons step rest ih =>
      have hStep :=
        ih (hOften.step hCoherent step) (hCoherent.step step)
      simpa [movedBy, List.append_assoc] using hStep

end ListsAsOften

------------------------------------------------------------
-- Worlds Of Accepted Content
------------------------------------------------------------

/- Only what a room owes more than once is repeated. -/
theorem ListsAsOften.listsOnce_iff
    {content : Content}
    {moved : List String}
    {world : World}
    (hOften : ListsAsOften content moved world) :
    world.ListsOnce ↔
      ∀ room ∈ world.rooms, ∀ id,
        world.Places id (.room room.id) →
          1 < content.timesListed room.id id → id ∈ moved := by
  have hDue (room id : String) :
      world.timesDue content moved room id ≤ 1 ↔
        (world.Places id (.room room) →
          1 < content.timesListed room id → id ∈ moved) := by
    unfold timesDue
    by_cases hHere : world.Places id (.room room)
    · by_cases hMoved : id ∈ moved <;> simp [hHere, hMoved]
    · simp [hHere]
  unfold ListsOnce
  simp only [List.nodup_iff_count_le_one]
  constructor
  · intro hOnce room hRoom id
    rw [← hDue, ← hOften.count room hRoom id]
    exact hOnce room hRoom id
  · intro hMoved room hRoom id
    rw [hOften.count room hRoom id, hDue]
    exact hMoved room hRoom id

/- A description names a thing as often as its room does. -/
theorem count_listedThings
    {scene : Scene}
    {room : Room}
    {thing : Thing}
    (hRoom : scene.room? = some room)
    (hThing : scene.world.thing? thing.id = some thing)
    (hShown : thing.hidden = false)
    (hLoose : thing.isScenery = false) :
    scene.listedThings.count thing =
      room.things.count thing.id := by
  have hFound (id : String) :
      scene.world.thing? id = some thing ↔ id = thing.id := by
    constructor
    · intro hFind
      exact (Catalog.find?_some hFind).2.symm
    · rintro rfl
      exact hThing
  unfold Scene.listedThings
  rw [List.count_filter (by simp [hShown, hLoose]),
    Scene.thingsIn_currentRoom hRoom, List.count,
    List.countP_filterMap, List.count]
  apply List.countP_congr
  intro id _
  rw [beq_iff_eq, ← hFound id]
  cases scene.world.thing? id <;> simp

/-
  In a world of accepted content a room lists what has been
  moved to it or added to it once, and what it has had from
  the start as often as the content lists it there. So nothing
  is listed twice if and only if what the content repeats has
  been moved. A description names a thing as often as that.
-/
theorem rooms_repeat_what_content_repeats
    {content : Content}
    (hValid : content.IsValid)
    (steps : List Step) :
    let world := (ofContent content).run steps
    let moved := (ofContent content).movedBy steps
    (∀ room ∈ world.rooms, ∀ id,
      room.things.count id =
        world.timesDue content moved room.id id) ∧
    (world.ListsOnce ↔
      ∀ room ∈ world.rooms, ∀ id,
        world.Places id (.room room.id) →
          1 < content.timesListed room.id id → id ∈ moved) ∧
    ∀ session room thing,
      let scene : Scene := { world, session }
      scene.room? = some room →
        world.thing? thing.id = some thing →
          thing.hidden = false → thing.isScenery = false →
            scene.listedThings.count thing =
              world.timesDue content moved room.id
                thing.id := by
  intro world moved
  have hOften : ListsAsOften content moved world := by
    have hRun :=
      (listsAsOften_ofContent hValid).run
        (ofContent_isCoherent hValid) steps
    simpa using hRun
  refine ⟨hOften.count, hOften.listsOnce_iff, ?_⟩
  intro session room thing scene hRoom hThing hShown hLoose
  rw [count_listedThings hRoom hThing hShown hLoose]
  exact hOften.count room (Catalog.find?_some hRoom).1 thing.id

/- A hall that lists the one coin in it twice. -/
def doubledHall : Content where
  rules := { startRoom := "hall" }
  rooms :=
    [{ id := "hall", name := "Hall", things := ["coin", "coin"] }]
  things :=
    [{ id := "coin"
       name := "coin"
       placement := .room "hall" }]

/-
  The coin is named twice, until it has been taken up and put
  down again.
-/
theorem coin_of_doubledHall_is_repeated :
    let world := ofContent doubledHall
    let scene : Scene :=
      { world, session := .starting default "hall" }
    let steps : List Step :=
      [.relocate "coin" .carried, .relocate "coin" (.room "hall")]
    doubledHall.IsValid ∧
    ¬ world.ListsOnce ∧
    scene.describeRoom =
      .ok "Hall\nYou can see: coin and coin." ∧
    (world.run steps).ListsOnce := by
  intro world scene steps
  have hValid : doubledHall.IsValid := by rfl
  rcases rooms_repeat_what_content_repeats hValid [] with
    ⟨-, hStart, -⟩
  rcases rooms_repeat_what_content_repeats hValid steps with
    ⟨-, hLater, -⟩
  refine ⟨hValid, ?_, by rfl, hLater.mpr ?_⟩
  · intro hOnce
    have hMoved :=
      hStart.mp hOnce
        { id := "hall"
          name := "Hall"
          things := ["coin", "coin"] }
        (by decide) "coin" (by decide) (by decide)
    simp [movedBy] at hMoved
  · intro room _ id hPlaces _
    rcases hPlaces with ⟨thing, hMem, rfl, -⟩
    have hCoin :
        ∀ thing ∈ (world.run steps).things,
          thing.id ∈ world.movedBy steps := by
      decide
    exact hCoin thing hMem

end World

end TextAdventure
