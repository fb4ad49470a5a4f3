import TextAdventure.Game.Restore
import TextAdventure.Proofs.Content.Validity
import TextAdventure.Proofs.Scene.Consistency

/-
  Sessions resumed in a world that is loaded afresh.

  Laying a session over a coherent world keeps it coherent,
  whatever the session says. The lists of carried and worn
  things are made from the world that results, so that they
  agree with it. Nothing that is laid over the world hangs on
  the two lists, and so resuming once more changes nothing.

  Main declarations:
    * `World.resumed`
    * `Scene.restore_eq_ok_iff`
    * `Scene.resumed_isConsistent`
    * `Scene.restore_isConsistent_and_stable`
-/

namespace TextAdventure

------------------------------------------------------------
-- Laying A Session Over A World
------------------------------------------------------------

namespace World

variable {world : World}

theorem IsCoherent.liftOut
    (hCoherent : world.IsCoherent)
    (id : String) :
    (world.liftOut id).IsCoherent := by
  unfold World.liftOut
  split
  · rename_i lifted old hOk
    exact hCoherent.relocate hOk
  · exact hCoherent

theorem layout_applyFlags
    (world : World)
    (id : String)
    (state : ThingState) :
    (world.updateThing id state.applyFlags).layout =
      world.layout :=
  layout_updateThing world (by intro thing; rfl)
    (by intro thing; rfl) id

/- A refused placement leaves the thing where it is. -/
theorem IsCoherent.restoreThing
    (hCoherent : world.IsCoherent)
    (id : String)
    (state : ThingState) :
    (world.restoreThing id state).value.IsCoherent := by
  unfold World.restoreThing Logged.map
  simp only
  split
  · rename_i moved old hOk
    exact (hCoherent.relocate hOk).of_layout_eq
      (layout_applyFlags moved id state)
  · exact hCoherent.of_layout_eq
      (layout_applyFlags world id state)

theorem IsCoherent.restoreEach
    (hCoherent : world.IsCoherent)
    (entries : List (String × ThingState)) :
    (world.restoreEach entries).value.IsCoherent := by
  induction entries generalizing world with
  | nil => exact hCoherent
  | cons entry rest ih =>
      exact ih (hCoherent.restoreThing entry.1 entry.2)

/- The world with things taken out of their places. -/
def liftEach
    (world : World)
    (entries : List (String × ThingState)) : World :=
  entries.foldl (fun world entry => world.liftOut entry.1) world

theorem IsCoherent.liftEach
    (hCoherent : world.IsCoherent)
    (entries : List (String × ThingState)) :
    (world.liftEach entries).IsCoherent := by
  induction entries generalizing world with
  | nil => exact hCoherent
  | cons entry rest ih => exact ih (hCoherent.liftOut entry.1)

theorem IsCoherent.restoreThings
    (hCoherent : world.IsCoherent)
    (session : Session) :
    (world.restoreThings session).value.IsCoherent :=
  (hCoherent.liftEach _).restoreEach _

theorem layout_restorePuzzles
    (world : World)
    (ids : List String) :
    (world.restorePuzzles ids).value.layout =
      world.layout := by
  induction ids generalizing world with
  | nil => rfl
  | cons id rest ih =>
      unfold restorePuzzles Logged.bind
      simp only [ih]
      split
      · exact layout_markSolved world id
      · rfl

theorem layout_restoreExits
    (world : World)
    (keys : List String) :
    (world.restoreExits keys).value.layout =
      world.layout := by
  induction keys generalizing world with
  | nil => rfl
  | cons key rest ih =>
      unfold restoreExits Logged.bind
      simp only [ih]
      split
      · rename_i after blocked hOk
        exact layout_unblockExit world hOk
      · rfl

theorem layout_foldl_visit
    (world : World)
    (rooms : List String) :
    (rooms.foldl visit world).layout = world.layout := by
  induction rooms generalizing world with
  | nil => rfl
  | cons room rest ih =>
      rw [List.foldl_cons, ih, layout_visit]

/- The world with all that a session remembers laid over. -/
def overlaid (world : World) (session : Session) : World :=
  session.visitedRooms.foldl visit
    (((world.restoreThings session).value.restorePuzzles
      session.solvedPuzzles).value.restoreExits
        session.openedExits).value

theorem layout_overlaid
    (world : World)
    (session : Session) :
    (world.overlaid session).layout =
      (world.restoreThings session).value.layout := by
  rw [overlaid, layout_foldl_visit, layout_restoreExits,
    layout_restorePuzzles]

theorem IsCoherent.overlaid
    (hCoherent : world.IsCoherent)
    (session : Session) :
    (world.overlaid session).IsCoherent :=
  (hCoherent.restoreThings session).of_layout_eq
    (layout_overlaid world session)

------------------------------------------------------------
-- Taking Off What Is Not Carried
------------------------------------------------------------

/- The world in which a session is resumed. -/
def resumed (world : World) (session : Session) : World :=
  (world.overlaid session).takeOffStray.value.forgetChanges

/- Taking things off, one by one. -/
theorem layout_foldl_takeOff
    (world : World)
    (ids : List String) :
    (ids.foldl
      (fun world id =>
        world.updateThing id
          (fun thing => { thing with isWorn := false }))
      world).layout = world.layout := by
  induction ids generalizing world with
  | nil => rfl
  | cons id rest ih =>
      rw [List.foldl_cons, ih]
      exact layout_updateThing world (by simp) (by simp) id

theorem layout_resumed
    (world : World)
    (session : Session) :
    (world.resumed session).layout =
      (world.overlaid session).layout :=
  layout_foldl_takeOff _ _

theorem IsCoherent.resumed
    (hCoherent : world.IsCoherent)
    (session : Session) :
    (world.resumed session).IsCoherent :=
  (hCoherent.overlaid session).of_layout_eq
    (layout_resumed world session)

theorem wears_foldl_takeOff_iff
    (hIds : (Catalog.ids world.things).Nodup)
    (ids : List String)
    (id : String) :
    (ids.foldl
        (fun world id =>
          world.updateThing id
            (fun thing => { thing with isWorn := false }))
        world).Wears id ↔
      id ∉ ids ∧ world.Wears id := by
  induction ids generalizing world with
  | nil => simp
  | cons first rest ih =>
      have hKeeps :
          Catalog.ids
              (world.updateThing first
                (fun thing =>
                  { thing with isWorn := false })).things =
            Catalog.ids world.things :=
        ids_things_of_layout_eq
          (layout_updateThing world (by simp) (by simp)
            first)
      rw [List.foldl_cons, ih (by rw [hKeeps]; exact hIds),
        wears_setWorn_iff hIds]
      simp [and_assoc, and_left_comm]

/- What is still worn after that is carried. -/
theorem IsCoherent.carried_of_wears_takeOffStray
    (hCoherent : world.IsCoherent)
    {id : String}
    (hWears : world.takeOffStray.value.Wears id) :
    world.Wears id ∧ world.Places id .carried := by
  have hIds := hCoherent.thingIds
  have hBoth := (wears_foldl_takeOff_iff hIds _ id).mp hWears
  refine ⟨hBoth.2, ?_⟩
  rcases hBoth.2 with ⟨thing, hMem, hId, hWorn⟩
  refine ⟨thing, hMem, hId, ?_⟩
  by_contra hElsewhere
  apply hBoth.1
  have hStray : thing.placement.isCarried = false := by
    rw [← Bool.not_eq_true, Placement.isCarried_eq_true_iff]
    exact hElsewhere
  exact List.mem_map.mpr
    ⟨thing, List.mem_filter.mpr
      ⟨hMem, by simp [hWorn, hStray]⟩, hId⟩

/- Where all that is worn is carried nothing is taken off. -/
theorem takeOffStray_eq_self
    (hIds : (Catalog.ids world.things).Nodup)
    (hCarried :
      ∀ id, world.Wears id → world.Places id .carried) :
    world.takeOffStray.value = world := by
  have hStray :
      world.things.filter (fun thing =>
        thing.isWorn && !thing.placement.isCarried) = [] := by
    rw [List.filter_eq_nil_iff]
    intro thing hMem hBoth
    rw [Bool.and_eq_true] at hBoth
    have hPlaced :=
      hCarried thing.id ⟨thing, hMem, rfl, hBoth.1⟩
    have hSame :=
      places_unique hIds ⟨thing, hMem, rfl, rfl⟩ hPlaced
    simp [hSame, Placement.isCarried] at hBoth
  simp [takeOffStray, hStray]

end World

------------------------------------------------------------
-- Reconciled Lists
------------------------------------------------------------

namespace Scene

variable {world : World}

/- The saved items that are carried, each once. -/
theorem keptItems_eq
    (world : World)
    (session : Session) :
    keptItems world session =
      (session.inventory.filter world.isCarried).eraseDups := by
  have hGather :
      keptItems world session =
        gather [] (session.inventory.filter world.isCarried) :=
    rfl
  rw [hGather, gather_eq_append]
  simp [List.removeAll]

/- Reconciled items are the kept ones and the missing ones. -/
theorem reconcile_inventory
    (world : World)
    (session : Session) :
    (reconcile world session).value.inventory =
      keptItems world session ++
        (missingItems world
          (keptItems world session)).eraseDups := by
  have hGather :
      distinct
          (missingItems world (keptItems world session)) =
        gather []
          (missingItems world (keptItems world session)) :=
    rfl
  change keptItems world session ++ distinct _ = _
  rw [hGather, gather_eq_append]
  simp [List.removeAll]

/- Whether an item of an inventory is worn in a world. -/
def staysWorn
    (world : World)
    (inventory : List String)
    (id : String) : Bool :=
  inventory.contains id && world.isWorn id

theorem reconcile_worn
    (world : World)
    (session : Session) :
    (reconcile world session).value.worn =
      ((session.worn ++
        (reconcile world session).value.inventory).filter
          (staysWorn world
            (reconcile world session).value.inventory)
        ).eraseDups := by
  have hGather :
      (reconcile world session).value.worn =
        gather []
          ((session.worn ++
            (reconcile world session).value.inventory).filter
              (staysWorn world
                (reconcile world session).value.inventory)) :=
    rfl
  rw [hGather, gather_eq_append]
  simp [List.removeAll]

section Lists

variable (hIds : (Catalog.ids world.things).Nodup)

include hIds

theorem mem_keptItems_iff
    (session : Session)
    (id : String) :
    id ∈ keptItems world session ↔
      id ∈ session.inventory ∧ world.Places id .carried := by
  rw [keptItems_eq, List.mem_eraseDups, List.mem_filter,
    World.isCarried_eq_true_iff hIds]

omit hIds in
theorem mem_missingItems_iff
    (kept : List String)
    (id : String) :
    id ∈ missingItems world kept ↔
      world.Places id .carried ∧ id ∉ kept := by
  simp [missingItems, World.Places, and_assoc, and_comm]

/- The reconciled inventory is what is carried. -/
theorem mem_reconcile_inventory_iff
    (session : Session)
    (id : String) :
    id ∈ (reconcile world session).value.inventory ↔
      world.Places id .carried := by
  rw [reconcile_inventory, List.mem_append,
    List.mem_eraseDups, mem_missingItems_iff,
    mem_keptItems_iff hIds]
  tauto

omit hIds in
theorem nodup_reconcile_inventory (session : Session) :
    (reconcile world session).value.inventory.Nodup := by
  rw [reconcile_inventory, keptItems_eq]
  refine List.nodup_append.mpr
    ⟨nodup_eraseDups _, nodup_eraseDups _, ?_⟩
  intro kept hKept missing hMissing hSame
  rw [List.mem_eraseDups, mem_missingItems_iff] at hMissing
  exact hMissing.2 (hSame ▸ hKept)

theorem mem_reconcile_worn_iff
    (session : Session)
    (id : String) :
    id ∈ (reconcile world session).value.worn ↔
      world.Places id .carried ∧ world.Wears id := by
  rw [reconcile_worn, List.mem_eraseDups, List.mem_filter,
    List.mem_append]
  simp only [staysWorn, Bool.and_eq_true,
    List.contains_iff_mem, World.isWorn_eq_true_iff hIds,
    mem_reconcile_inventory_iff hIds]
  tauto

/- Reconciled with a world that has some of it in hand. -/
theorem reconcile_inventory_eq_filter
    {session : Session}
    {test : String → Bool}
    (hNodup : session.inventory.Nodup)
    (hPlaces :
      ∀ id, world.Places id .carried ↔
        id ∈ session.inventory ∧ test id = true) :
    (reconcile world session).value.inventory =
      session.inventory.filter test := by
  have hSame :
      session.inventory.filter world.isCarried =
        session.inventory.filter test := by
    apply List.filter_congr
    intro id hMem
    rw [Bool.eq_iff_iff, World.isCarried_eq_true_iff hIds,
      hPlaces, and_iff_right hMem]
  have hKept :
      keptItems world session =
        session.inventory.filter test := by
    rw [keptItems_eq, hSame]
    exact eraseDups_eq_self (hNodup.filter _)
  have hMissing :
      missingItems world (session.inventory.filter test) =
        [] := by
    rw [List.eq_nil_iff_forall_not_mem]
    intro id hMem
    rw [mem_missingItems_iff, hPlaces] at hMem
    exact hMem.2 (List.mem_filter.mpr hMem.1)
  rw [reconcile_inventory, hKept, hMissing]
  simp

/- Lists made from a world agree with it. -/
theorem reconcile_isConsistent
    (hCoherent : world.IsCoherent)
    (hCarried :
      ∀ id, world.Wears id → world.Places id .carried)
    (session : Session) :
    ({ world := world
       session := (reconcile world session).value }
      : Scene).IsConsistent where
  coherent := hCoherent
  inventoryNodup := nodup_reconcile_inventory session
  mem_inventory_iff := mem_reconcile_inventory_iff hIds session
  wornNodup := by
    change (reconcile world session).value.worn.Nodup
    rw [reconcile_worn]
    exact nodup_eraseDups _
  mem_worn_iff := by
    intro id
    refine (mem_reconcile_worn_iff hIds session id).trans ?_
    exact and_iff_right_of_imp (hCarried id)
  carried := hCarried

/- The saved items that remain come first, as saved. -/
theorem kept_isPrefix_reconcile_inventory
    (session : Session) :
    (session.inventory.filter (fun id =>
        id ∈ (reconcile world session).value.inventory)
      ).eraseDups <+:
        (reconcile world session).value.inventory := by
  have hKept :
      session.inventory.filter (fun id =>
          id ∈ (reconcile world session).value.inventory) =
        session.inventory.filter world.isCarried := by
    apply List.filter_congr
    intro id _
    rw [Bool.eq_iff_iff, decide_eq_true_iff,
      World.isCarried_eq_true_iff hIds]
    exact mem_reconcile_inventory_iff hIds session id
  rw [hKept, reconcile_inventory, keptItems_eq]
  exact List.prefix_append _ _

/- The saved worn things that remain come first, as saved. -/
theorem kept_isPrefix_reconcile_worn
    (session : Session) :
    (session.worn.filter (fun id =>
        id ∈ (reconcile world session).value.worn)
      ).eraseDups <+:
        (reconcile world session).value.worn := by
  have hKept :
      session.worn.filter (fun id =>
          id ∈ (reconcile world session).value.worn) =
        session.worn.filter
          (staysWorn world
            (reconcile world session).value.inventory) := by
    apply List.filter_congr
    intro id _
    rw [Bool.eq_iff_iff, decide_eq_true_iff,
      mem_reconcile_worn_iff hIds]
    simp only [staysWorn, Bool.and_eq_true,
      List.contains_iff_mem, World.isWorn_eq_true_iff hIds,
      mem_reconcile_inventory_iff hIds]
  rw [hKept, reconcile_worn, List.filter_append,
    List.eraseDups_append]
  exact List.prefix_append _ _

end Lists

variable {scene : Scene}

/- Items that are carried already are all kept. -/
theorem IsConsistent.keptItems
    (hConsistent : scene.IsConsistent) :
    keptItems scene.world scene.session =
      scene.session.inventory := by
  rw [keptItems_eq, List.filter_eq_self.mpr,
    eraseDups_eq_self hConsistent.inventoryNodup]
  intro id hMem
  rw [World.isCarried_eq_true_iff
    hConsistent.coherent.thingIds]
  exact (hConsistent.mem_inventory_iff id).mp hMem

/- Nothing is carried that the inventory leaves out. -/
theorem IsConsistent.missingItems
    (hConsistent : scene.IsConsistent) :
    missingItems scene.world scene.session.inventory = [] := by
  rw [List.eq_nil_iff_forall_not_mem]
  intro id hMem
  rw [mem_missingItems_iff,
    ← hConsistent.mem_inventory_iff] at hMem
  exact hMem.2 hMem.1

/- Exactly what is worn stays worn. -/
theorem IsConsistent.staysWorn_iff
    (hConsistent : scene.IsConsistent)
    (id : String) :
    staysWorn scene.world scene.session.inventory id = true ↔
      id ∈ scene.session.worn := by
  simp only [staysWorn, Bool.and_eq_true,
    List.contains_iff_mem,
    World.isWorn_eq_true_iff hConsistent.coherent.thingIds,
    hConsistent.mem_inventory_iff, hConsistent.mem_worn_iff]
  exact and_iff_right_of_imp (hConsistent.carried id)

/- Lists that agree with the world already are kept. -/
theorem reconcile_eq_self
    (hConsistent : scene.IsConsistent) :
    (reconcile scene.world scene.session).value =
      scene.session := by
  have hInventory :
      (reconcile scene.world scene.session).value.inventory =
        scene.session.inventory := by
    rw [reconcile_inventory, hConsistent.keptItems,
      hConsistent.missingItems]
    simp
  have hNone :
      (scene.session.inventory.filter
        (staysWorn scene.world
          scene.session.inventory)).removeAll
            scene.session.worn = [] := by
    rw [List.removeAll, List.filter_eq_nil_iff]
    intro id hMem hAbsent
    have hWorn :=
      (hConsistent.staysWorn_iff id).mp
        (List.mem_filter.mp hMem).2
    simp [hWorn] at hAbsent
  have hWorn :
      (reconcile scene.world scene.session).value.worn =
        scene.session.worn := by
    rw [reconcile_worn, hInventory, List.filter_append,
      List.eraseDups_append,
      List.filter_eq_self.mpr (fun id =>
        (hConsistent.staysWorn_iff id).mpr),
      eraseDups_eq_self hConsistent.wornNodup, hNone]
    simp
  have hSession :
      (reconcile scene.world scene.session).value =
        { scene.session with
            inventory :=
              (reconcile scene.world
                scene.session).value.inventory
            worn :=
              (reconcile scene.world
                scene.session).value.worn } :=
    rfl
  rw [hSession, hInventory, hWorn]

/- The scene of a session resumed in a world. -/
def resumed (world : World) (session : Session) : Scene where
  world := world.resumed session
  session := (reconcile (world.resumed session) session).value

/- Only an unknown current room keeps one from resuming. -/
theorem restore_eq_ok_iff
    {session : Session}
    {scene : Scene} :
    (∃ warnings,
        restore world session = .ok ⟨scene, warnings⟩) ↔
      session.currentRoom ∈ Catalog.ids world.rooms ∧
        scene = resumed world session := by
  rw [← Catalog.has_eq_true_iff_mem_ids]
  unfold restore
  cases Catalog.has session.currentRoom world.rooms with
  | false => simp
  | true =>
      simp only [if_true, Except.ok.injEq, true_and]
      constructor
      · rintro ⟨warnings, hScene⟩
        exact (congrArg Logged.value hScene).symm
      · rintro rfl
        exact ⟨_, rfl⟩

theorem restore_eq_error_iff
    {session : Session}
    {fault : GameFault} :
    restore world session = .error fault ↔
      session.currentRoom ∉ Catalog.ids world.rooms ∧
        fault = .unknownCurrentRoom session.currentRoom := by
  rw [← Catalog.has_eq_true_iff_mem_ids]
  unfold restore
  cases Catalog.has session.currentRoom world.rooms <;>
    simp [eq_comm]

/- A resumed scene is consistent, whatever was saved. -/
theorem resumed_isConsistent
    (hCoherent : world.IsCoherent)
    (session : Session) :
    (resumed world session).IsConsistent := by
  have hOver := hCoherent.overlaid session
  have hResumed := hCoherent.resumed session
  apply reconcile_isConsistent hResumed.thingIds hResumed
  intro id hWears
  rw [World.places_of_layout_eq
    (World.layout_resumed world session)]
  exact (hOver.carried_of_wears_takeOffStray hWears).2

/- A resumed scene, saved and resumed again, is the same. -/
theorem resumed_resumed
    (hCoherent : world.IsCoherent)
    (session : Session) :
    resumed world (resumed world session).session =
      resumed world session := by
  have hWorld :
      world.resumed (resumed world session).session =
        world.resumed session :=
    rfl
  have hSession :=
    reconcile_eq_self (resumed_isConsistent hCoherent session)
  unfold resumed at hSession ⊢
  rw [Scene.mk.injEq]
  refine ⟨hWorld, ?_⟩
  exact hSession

------------------------------------------------------------
-- Untrusted Sessions
------------------------------------------------------------

/-
  Any session at all is resumed in the world of accepted
  content, unless its current room is not there. The scene is
  consistent, the lists of carried and worn things begin with
  what remains of the saved ones, and the session of the
  scene is resumed as the very same scene.
-/
theorem restore_isConsistent_and_stable
    {content : Content}
    (hValid : content.IsValid)
    (session : Session) :
    (session.currentRoom ∉
          Catalog.ids (World.ofContent content).rooms ∧
        restore (World.ofContent content) session =
          .error (.unknownCurrentRoom session.currentRoom)) ∨
      session.currentRoom ∈
          Catalog.ids (World.ofContent content).rooms ∧
        ∃ restored,
          restore (World.ofContent content) session =
              .ok restored ∧
            restored.value.IsConsistent ∧
            (session.inventory.filter (fun id =>
                id ∈ restored.value.session.inventory)
              ).eraseDups <+:
                restored.value.session.inventory ∧
            (session.worn.filter (fun id =>
                id ∈ restored.value.session.worn)
              ).eraseDups <+: restored.value.session.worn ∧
            ∃ again,
              restore (World.ofContent content)
                  restored.value.session = .ok again ∧
                again.value = restored.value := by
  have hCoherent := World.ofContent_isCoherent hValid
  have hResumed := hCoherent.resumed session
  by_cases hRoom :
      session.currentRoom ∈
        Catalog.ids (World.ofContent content).rooms
  · refine Or.inr ⟨hRoom, ?_⟩
    rcases restore_eq_ok_iff.mpr ⟨hRoom, rfl⟩ with
      ⟨warnings, hRestore⟩
    have hAgainRoom :
        (resumed (World.ofContent content)
            session).session.currentRoom ∈
          Catalog.ids (World.ofContent content).rooms :=
      hRoom
    rcases restore_eq_ok_iff.mpr ⟨hAgainRoom, rfl⟩ with
      ⟨others, hAgain⟩
    exact ⟨_, hRestore,
      resumed_isConsistent hCoherent session,
      kept_isPrefix_reconcile_inventory hResumed.thingIds
        session,
      kept_isPrefix_reconcile_worn hResumed.thingIds session,
      _, hAgain, resumed_resumed hCoherent session⟩
  · exact Or.inl
      ⟨hRoom, restore_eq_error_iff.mpr ⟨hRoom, rfl⟩⟩

/- A box with a key in it, which can be worn. -/
def boxedKey : Content where
  rules := { startRoom := "hall" }
  rooms := [{ id := "hall", name := "Hall" }]
  things :=
    [{ id := "box"
       name := "box"
       placement := .room "hall"
       isContainer := true },
      { id := "key"
        name := "key"
        placement := .container "box"
        isWearable := true }]

/-
  A save in which box and key are inside each other, the key
  is worn and what is carried is listed twice or unknown.
-/
def tangledSave : Session where
  id := default
  currentRoom := "hall"
  inventory := ["ghost", "key", "key"]
  worn := ["ghost", "key"]
  thingStates :=
    Dict.ofList
      [("box",
          { ThingState.capture {} with
              placement := .container "key" }),
        ("key",
          { ThingState.capture {} with
              placement := .container "box"
              isWorn := true })]

theorem restore_tangledSave :
    boxedKey.IsValid ∧
      ∃ restored,
        restore (World.ofContent boxedKey) tangledSave =
            .ok restored ∧
          restored.value.IsConsistent := by
  have hValid : boxedKey.IsValid := by rfl
  have hRoom :
      tangledSave.currentRoom ∈
        Catalog.ids (World.ofContent boxedKey).rooms := by
    decide
  refine ⟨hValid, ?_⟩
  rcases restore_isConsistent_and_stable hValid tangledSave with
    ⟨hUnknown, -⟩ | ⟨-, restored, hRestore, hConsistent, -⟩
  · exact absurd hRoom hUnknown
  · exact ⟨restored, hRestore, hConsistent⟩

end Scene

end TextAdventure
