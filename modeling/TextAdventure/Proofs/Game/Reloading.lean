import TextAdventure.Proofs.Format.Doubles
import TextAdventure.Proofs.Game.Reach
import TextAdventure.Proofs.Game.Recording
import TextAdventure.Proofs.Game.Resuming
import TextAdventure.Proofs.Game.Solving

/-
  Running games that are saved and loaded again.

  Content that is added to a game is not part of its save,
  and is not there when the save is loaded. So a game is not
  loaded if its player is in a room that was added, and if it
  is, then without the things that were added.

  What is kept of a thing of the content as a game runs: each
  change of it is recorded, and if the inventory agreed with
  the world about it at first, it still does.

  Main declarations:
    * `Game.ComesFrom`
    * `Game.comesFrom_of_reaches`
    * `Game.inventory_resumed`
    * `Game.load_save_cases`
-/

namespace TextAdventure

open Relation (ReflTransGen)

------------------------------------------------------------
-- Running Games
------------------------------------------------------------

namespace Game

open Scene (RecordsSince)

/-
  What holds of a game that has come from an earlier one. As
  much is known of the things that were there at first, and
  nothing of those that were added.
-/
structure ComesFrom (first game : Game) : Prop where
  coherent : game.world.IsCoherent
  recorded : game.world.changed = []
  nodup : game.session.inventory.Nodup
  since :
    ∀ id, Catalog.has id first.world.things = true →
      RecordsSince first.scene game.scene id
  tells :
    ∀ id, Catalog.has id first.world.things = true →
      first.scene.TellsCarried id →
        game.scene.TellsCarried id

namespace ComesFrom

variable {first game : Game}

/- Nothing that was there at first is ever lost. -/
theorem known
    (hFrom : ComesFrom first game)
    {id : String}
    (hKnown : Catalog.has id first.world.things = true) :
    Catalog.has id game.world.things = true := by
  rcases hFrom.since id hKnown with
    ⟨hThing, -⟩ | ⟨thing, hThing, -⟩
  · rw [← Catalog.find?_isSome] at hKnown ⊢
    exact (congrArg Option.isSome hThing).trans hKnown
  · exact Catalog.has_of_find? hThing

/- A line records what it changes. -/
theorem execute
    (hFrom : ComesFrom first game)
    (line : String) :
    ComesFrom first (game.execute line).value.1 := by
  have hNext : (nextTurn game.scene).world.IsCoherent :=
    hFrom.coherent
  have hEdits :=
    turn_edits (World.grants_any game.world) line
  exact
    { coherent := isCoherent_execute hFrom.coherent line
      recorded := changed_execute game line
      nodup := by
        unfold session
        rw [scene_execute, inventory_recordChanges]
        exact hEdits.nodup_inventory hFrom.nodup
      since := by
        intro id hKnown
        exact (hFrom.since id hKnown).trans
          (recordsSince_execute hFrom.recorded line id)
      tells := by
        intro id hKnown hFirst
        have hBefore : (nextTurn game.scene).TellsCarried id :=
          hFrom.tells id hKnown hFirst
        rw [scene_execute]
        exact (hBefore.edits hNext hEdits).of_layout_eq
          (layout_recordChanges _) (inventory_recordChanges _) }

/- An addition leaves all that is known alone. -/
theorem grows
    (hFrom : ComesFrom first game)
    {may : Thing → Prop}
    {world : World}
    (hGrows :
      ReflTransGen (World.Grows may) game.world world) :
    ComesFrom first (game.withWorld world) := by
  have hStays :
      ∀ id, Catalog.has id first.world.things = true →
        world.thing? id = game.world.thing? id := by
    intro id hKnown
    exact World.thing?_of_grows hFrom.coherent hGrows
      (hFrom.known hKnown)
  have hCoherent := hFrom.coherent.grows hGrows
  exact
    { coherent := hCoherent
      recorded :=
        (World.changed_of_grows hGrows).trans hFrom.recorded
      nodup := hFrom.nodup
      since := by
        intro id hKnown
        refine
          (hFrom.since id hKnown).trans (Or.inl ⟨?_, rfl⟩)
        exact hStays id hKnown
      tells := by
        intro id hKnown hFirst
        have hPlaces :
            world.Places id .carried ↔
              game.world.Places id .carried := by
          rw [World.places_iff hCoherent.thingIds,
            World.places_iff hFrom.coherent.thingIds,
            hStays id hKnown]
        exact (hFrom.tells id hKnown hFirst).trans
          hPlaces.symm }

theorem step
    (hFrom : ComesFrom first game)
    {after : Game}
    (hStep : AnyStep game after) :
    ComesFrom first after := by
  rcases hStep.execute_or_grows with
    ⟨line, rfl⟩ | ⟨may, world, hGrows, rfl⟩
  · exact hFrom.execute line
  · exact hFrom.grows hGrows

end ComesFrom

variable {content : Content}
variable {first game : Game}

theorem comesFrom_fresh
    (hValid : content.IsValid)
    (settings : Settings)
    (id : SessionId) :
    ComesFrom (fresh settings content id)
      (fresh settings content id) where
  coherent :=
    (World.ofContent_isCoherent hValid).of_layout_eq
      (World.layout_visit _ _)
  recorded := rfl
  nodup := List.nodup_nil
  since := fun id _ => .refl _ id
  tells := fun _ _ hTells => hTells

/- So a new game stays, whatever is played and added. -/
theorem comesFrom_of_reaches
    (hValid : content.IsValid)
    {settings : Settings}
    {id : SessionId}
    (hReaches :
      ReflTransGen AnyStep (fresh settings content id) game) :
    ComesFrom (fresh settings content id) game := by
  induction hReaches with
  | refl => exact comesFrom_fresh hValid settings id
  | tail _ hLast ih => exact ih.step hLast

------------------------------------------------------------
-- Resumed In Its Content
------------------------------------------------------------

/-
  What is carried in a running game is carried again, also if
  doubles of its session are read as others.
-/
theorem places_carried_restoreThings_iff
    (hValid : content.IsValid)
    {settings : Settings}
    {session : SessionId}
    (hFrom : ComesFrom (fresh settings content session) game)
    {id : String}
    (hKnown : Catalog.has id content.things = true) :
    ((World.ofContent content).restoreThings
        game.session.reading).value.Places id .carried ↔
      game.world.Places id .carried := by
  have hBase := World.ofContent_isCoherent hValid
  have hKnownBase :
      Catalog.has id (World.ofContent content).things =
        true := by
    rw [Catalog.has_congr (World.ids_ofContent_things content)]
    exact hKnown
  rw [World.places_iff (hBase.restoreThings _).thingIds,
    World.places_iff hFrom.coherent.thingIds]
  rcases hFrom.since id hKnownBase with
    ⟨hThing, hEntry⟩ | ⟨thing, hThing, hEntry⟩
  · have hAbsent : game.session.thingStates.get? id = none :=
      hEntry.trans (Dict.get?_empty id)
    have hNone :
        game.session.reading.thingStates.get? id = none := by
      rw [Session.reading, Dict.get?_map, hAbsent]
      rfl
    have hSame :
        game.world.thing? id =
          (World.ofContent content).thing? id :=
      hThing
    rw [World.thing?_restoreThings_of_none hNone, hSame]
  · have hSame : game.world.thing? id = some thing := hThing
    have hCaptured :
        game.session.thingStates.get? id =
          some (ThingState.capture thing) :=
      hEntry
    have hState :
        game.session.reading.thingStates.get? id =
          some (ThingState.capture thing).reading := by
      rw [Session.reading, Dict.get?_map, hCaptured]
      rfl
    rcases World.capture_restoreThings hKnownBase hState with
      ⟨hCapture, hTaken⟩
    rcases Option.map_eq_some_iff.mp hCapture with
      ⟨restored, hRestored, hSettled⟩
    -- What is carried can always be put where it was.
    have hCarried :
        restored.placement = .carried ↔
          thing.placement = .carried := by
      have hPlacement :=
        congrArg ThingState.placement hSettled
      simp only [ThingState.capture, ThingState.reading,
        World.settled] at hPlacement
      rw [hPlacement]
      split
      · rename_i hTurnsDown
        exact iff_of_false (by simp) (hTaken hTurnsDown).1
      · rfl
    simp [hRestored, hSame, hCarried]

/- Only things of the content are in the resumed world. -/
theorem has_of_places_resumed
    {session : Session}
    {id : String}
    {placement : Placement}
    (hValid : content.IsValid)
    (hPlaces :
      ((World.ofContent content).resumed session).Places id
        placement) :
    Catalog.has id content.things = true := by
  have hResumed :=
    (World.ofContent_isCoherent hValid).resumed session
  rcases (World.places_iff hResumed.thingIds).mp hPlaces with
    ⟨thing, hThing, -⟩
  rcases World.exists_template_of_thing?_resumed hThing with
    ⟨original, hOriginal, -⟩
  rw [← Catalog.has_congr
    (World.ids_ofContent_things content)]
  exact Catalog.has_of_find? hOriginal

/- At first nothing is carried, and the inventory is empty. -/
theorem tellsCarried_fresh
    (hAway :
      ∀ thing ∈ content.things, thing.placement ≠ .carried)
    (settings : Settings)
    (session : SessionId)
    (id : String) :
    (fresh settings content session).scene.TellsCarried id := by
  refine iff_of_false List.not_mem_nil ?_
  rintro ⟨placed, hMem, -, hCarried⟩
  rcases List.mem_map.mp hMem with ⟨thing, hThing, rfl⟩
  exact Thing.placement_placeWhereListed_ne_carried
    (hAway thing hThing) content.rooms hCarried

/- What is carried again is what was, without additions. -/
theorem places_carried_resumed_iff
    (hValid : content.IsValid)
    (hAway :
      ∀ thing ∈ content.things, thing.placement ≠ .carried)
    {settings : Settings}
    {session : SessionId}
    (hFrom : ComesFrom (fresh settings content session) game)
    (id : String) :
    ((World.ofContent content).resumed
        game.session.reading).Places id .carried ↔
      id ∈ game.session.inventory ∧
        Catalog.has id content.things = true := by
  by_cases hKnown : Catalog.has id content.things = true
  · have hFirst :
        Catalog.has id
            (fresh settings content session).world.things =
          true := by
      rw [← hKnown]
      exact Catalog.has_congr
        (World.ids_ofContent_things content) id
    have hTells : game.scene.TellsCarried id :=
      hFrom.tells id hFirst
        (tellsCarried_fresh hAway settings session id)
    rw [World.places_of_layout_eq (World.layout_resumed _ _),
      World.places_of_layout_eq (World.layout_overlaid _ _),
      places_carried_restoreThings_iff hValid hFrom hKnown,
      and_iff_left hKnown]
    exact hTells.symm
  · refine iff_of_false ?_ (fun hBoth => hKnown hBoth.2)
    intro hPlaces
    exact hKnown (has_of_places_resumed hValid hPlaces)

/- The inventory is resumed without what has been added. -/
theorem inventory_resumed
    (hValid : content.IsValid)
    (hAway :
      ∀ thing ∈ content.things, thing.placement ≠ .carried)
    {settings : Settings}
    {session : SessionId}
    (hFrom : ComesFrom (fresh settings content session) game) :
    (Scene.resumed (World.ofContent content)
        game.session.reading).session.inventory =
      game.session.inventory.filter (fun id =>
        Catalog.has id content.things) :=
  Scene.reconcile_inventory_eq_filter
    ((World.ofContent_isCoherent hValid).resumed
      game.session.reading).thingIds
    hFrom.nodup
    (places_carried_resumed_iff hValid hAway hFrom)

------------------------------------------------------------
-- Saved And Loaded
------------------------------------------------------------

/- A double that has no number is not read back. -/
theorem load_save_of_not_finite
    {game : Game}
    (settings : Settings)
    (disk : Disk)
    (time : Timestamp)
    (hNot : ¬ game.session.All Value.IsFinite) :
    (load settings disk (game.save time)).value =
      .error .corruptSave := by
  have hText :
      SavedGame.ofText (game.save time) = .error .corruptSave :=
    SavedGame.ofText_text_of_not_finite hNot
  rw [load, hText]
  rfl

/-
  A game was started, and lines were played and content was
  added. Saved and loaded under the same settings it comes
  to one of three ends:

  * A value of its session is a double that has no number.
    Then the text is corrupt.
  * The current room is not in the content that is loaded.
    Then it is unknown.
  * Else the game is loaded, in the room it was in. If
    nothing is carried in the content, the inventory is what
    it was, in its order, without what was added.

  The text of the time of the save is taken to be read as
  the time, and that of each finite double as some finite
  value, be it another one.
-/
theorem load_save_cases
    {settings : Settings}
    {disk : Disk}
    {id : SessionId}
    {first game : Game}
    (hStart : (start settings disk id).value = .ok first)
    (hReaches : ReflTransGen AnyStep first game)
    {time : Timestamp}
    (hTime : Timestamp.ofText? time.text = some time)
    (hReadings : game.session.All Value.HasReading) :
    ¬ game.session.All Value.IsFinite ∧
        (load settings disk (game.save time)).value =
          .error .corruptSave ∨
      game.session.All Value.IsFinite ∧
        game.session.currentRoom ∉
          Catalog.ids (settings.content disk).rooms ∧
        (load settings disk (game.save time)).value =
          .error
            (.unknownCurrentRoom game.session.currentRoom) ∨
      game.session.All Value.IsFinite ∧
        game.session.currentRoom ∈
          Catalog.ids (settings.content disk).rooms ∧
        ∃ loaded,
          (load settings disk (game.save time)).value =
              .ok loaded ∧
            loaded.session.currentRoom =
              game.session.currentRoom ∧
            ((∀ thing ∈ (settings.content disk).things,
                thing.placement ≠ .carried) →
              loaded.session.inventory =
                game.session.inventory.filter (fun id =>
                  Catalog.has id
                    (settings.content disk).things)) := by
  rcases start_eq_ok_iff.mp hStart with ⟨hValid, rfl⟩
  have hFrom := comesFrom_of_reaches hValid hReaches
  have hRooms :=
    World.ids_ofContent_rooms (settings.content disk)
  by_cases hFinite : game.session.All Value.IsFinite
  · have hLoad :=
      load_save_of_finite settings disk hTime hFinite hReadings
    by_cases hRoom :
        game.session.currentRoom ∈
          Catalog.ids (settings.content disk).rooms
    · have hKnown :
          game.session.reading.currentRoom ∈
            Catalog.ids
              (World.ofContent (settings.content disk)).rooms :=
        hRooms.symm ▸ hRoom
      exact Or.inr (Or.inr ⟨hFinite, hRoom, _,
        hLoad.trans (resume_value hValid hKnown), rfl,
        fun hAway => inventory_resumed hValid hAway hFrom⟩)
    · have hUnknown :
          game.session.reading.currentRoom ∉
            Catalog.ids
              (World.ofContent (settings.content disk)).rooms :=
        hRooms.symm ▸ hRoom
      exact Or.inr (Or.inl ⟨hFinite, hRoom,
        hLoad.trans
          (resume_value_of_unknown hValid hUnknown)⟩)
  · exact Or.inl ⟨hFinite,
      load_save_of_not_finite settings disk time hFinite⟩

/- An offer is a step, or changes nothing. -/
theorem reaches_add
    (game : Game)
    (addition : Addition) :
    ReflTransGen AnyStep game (game.add addition) := by
  have hOffered
      {after? : Option Game}
      (hStep : ∀ after, after? = some after →
        AnyStep game after) :
      ReflTransGen AnyStep game (after?.getD game) := by
    cases after? with
    | none => exact .refl
    | some after => exact .single (hStep after rfl)
  cases addition with
  | room room => exact hOffered (fun _ => .addRoom room)
  | puzzle puzzle => exact hOffered (fun _ => .addPuzzle puzzle)
  | script script => exact hOffered (fun _ => .addScript script)
  | content content => exact .single (.merge game content)
  | thing thing =>
      simp only [add]
      split
      · rename_i after? hAdd
        apply hOffered
        rintro after rfl
        exact .addThing thing hAdd
      · exact .refl
  | exits source direction target =>
      simp only [add]
      split
      · rename_i after hAdd
        exact .single (.connect source target direction hAdd)
      · exact .refl

theorem reaches_executeAll
    {first game : Game}
    (hReaches : ReflTransGen AnyStep first game)
    (lines : List String) :
    ReflTransGen AnyStep first
      (game.executeAll lines).value.1 :=
  executeAll_keeps (ReflTransGen AnyStep first)
    (fun game line hGame => hGame.tail (.execute game line))
    hReaches lines

/- The player took what was hidden, and a pebble added. -/
def pebbleInHand : Game :=
  (((fresh {} .embedded ⟨0⟩).add
    (.thing
      { id := "pebble"
        name := "pebble"
        placement := .room "forest" })).executeAll
    ["search leaves", "take lighter", "take pebble"]).value.1

theorem reaches_pebbleInHand :
    ReflTransGen AnyStep (fresh {} .embedded ⟨0⟩)
      pebbleInHand :=
  reaches_executeAll (reaches_add _ _) _

theorem facts_pebbleInHand :
    pebbleInHand.IsPlain ∧
      pebbleInHand.session.flags.All Value.IsFinite ∧
      (pebbleInHand.session.thingStates.All (fun state =>
        state.customState.All Value.IsFinite)) ∧
      pebbleInHand.session.currentRoom = "forest" ∧
      pebbleInHand.session.inventory =
        ["lighter", "pebble"] := by
  decide +kernel

/- It is loaded with what was hidden and without the pebble. -/
theorem load_save_cases_of_pebbleInHand :
    let disk : Disk := fun _ => .nothing
    ReflTransGen AnyStep (fresh {} .embedded ⟨0⟩)
        pebbleInHand ∧
      pebbleInHand.session.inventory = ["lighter", "pebble"] ∧
      ∃ loaded,
        (load {} disk (pebbleInHand.save savedAt)).value =
            .ok loaded ∧
          loaded.session.currentRoom = "forest" ∧
          loaded.session.inventory = ["lighter"] := by
  intro disk
  rcases facts_pebbleInHand with
    ⟨hPlain, hFlags, hStates, hForest, hInventory⟩
  refine ⟨reaches_pebbleInHand, hInventory, ?_⟩
  rcases load_save_cases start_embedded reaches_pebbleInHand
      ofText?_savedAt hPlain.hasReading with
    ⟨hNot, -⟩ | ⟨-, hUnknown, -⟩ |
      ⟨-, -, loaded, hLoad, hRoom, hItems⟩
  · exact absurd ⟨hFlags, hStates⟩ hNot
  · rw [hForest] at hUnknown
    exact absurd (by decide +kernel) hUnknown
  · refine ⟨loaded, hLoad, hRoom.trans hForest, ?_⟩
    rw [hItems (fun thing hThing =>
      (isLoose_embedded thing hThing).1), hInventory]
    decide +kernel

/- Saved and loaded the game has the same room and items. -/
def Reloads
    (settings : Settings)
    (disk : Disk)
    (game : Game) : Prop :=
  ∃ loaded,
    (load settings disk (game.save savedAt)).value =
        .ok loaded ∧
      loaded.session.currentRoom = game.session.currentRoom ∧
      loaded.session.inventory = game.session.inventory

theorem not_reloads_pebbleInHand :
    ¬ Reloads {} (fun _ => .nothing) pebbleInHand := by
  rcases facts_pebbleInHand with
    ⟨hPlain, hFlags, hStates, hForest, hInventory⟩
  have hValid : Content.embedded.IsValid := by rfl
  have hKnown :
      pebbleInHand.session.currentRoom ∈
        Catalog.ids (World.ofContent .embedded).rooms := by
    rw [World.ids_ofContent_rooms, hForest]
    decide +kernel
  have hLoad :=
    (load_save_of_finite {} (fun _ => .nothing)
      ofText?_savedAt ⟨hFlags, hStates⟩
        hPlain.hasReading).trans (resume_value hValid hKnown)
  have hItems :=
    inventory_resumed hValid
      (fun thing hThing => (isLoose_embedded thing hThing).1)
      (comesFrom_of_reaches hValid reaches_pebbleInHand)
  rintro ⟨loaded, hLoaded, -, hSame⟩
  cases hLoad.symm.trans hLoaded
  have hLost : "pebble" ∈ pebbleInHand.session.inventory := by
    rw [hInventory]
    decide
  rw [← hSame] at hLost
  have hHas := List.of_mem_filter (hItems ▸ hLost)
  revert hHas
  decide +kernel

/- The player went down into a cave that was added. -/
def inAddedCave : Game :=
  ((((fresh {} .embedded ⟨0⟩).add
    (.room { id := "cave", name := "Cave" })).add
      (.exits "forest" .down "cave")).execute "down").value.1

theorem facts_inAddedCave :
    inAddedCave.IsPlain ∧
      inAddedCave.session.flags.All Value.IsFinite ∧
      (inAddedCave.session.thingStates.All (fun state =>
        state.customState.All Value.IsFinite)) ∧
      inAddedCave.session.currentRoom = "cave" := by
  decide +kernel

theorem not_reloads_inAddedCave :
    ¬ Reloads {} (fun _ => .nothing) inAddedCave := by
  rcases facts_inAddedCave with
    ⟨hPlain, hFlags, hStates, hCave⟩
  have hValid : Content.embedded.IsValid := by rfl
  have hUnknown :
      inAddedCave.session.currentRoom ∉
        Catalog.ids (World.ofContent .embedded).rooms := by
    rw [World.ids_ofContent_rooms, hCave]
    decide +kernel
  have hLoad :=
    (load_save_of_finite {} (fun _ => .nothing)
      ofText?_savedAt ⟨hFlags, hStates⟩
        hPlain.hasReading).trans
          (resume_value_of_unknown hValid hUnknown)
  rintro ⟨loaded, hLoaded, -⟩
  cases hLoad.symm.trans hLoaded

/- A puzzle that was added has set a flag without end. -/
def endlessFlag : Game :=
  (((fresh {} .embedded ⟨0⟩).add
    (.puzzle
      { id := "depth"
        name := "Depth"
        effects :=
          [.setFlag "depth" (.float (1 / 0))] })).execute
            "wait").value.1

theorem facts_endlessFlag :
    endlessFlag.session.currentRoom ∈
        Catalog.ids endlessFlag.world.rooms ∧
      ¬ endlessFlag.session.flags.All Value.IsFinite := by
  decide +kernel

theorem not_reloads_endlessFlag :
    ¬ Reloads {} (fun _ => .nothing) endlessFlag := by
  have hLoad :=
    load_save_of_not_finite {} (fun _ => .nothing) savedAt
      (fun hFinite => facts_endlessFlag.2 hFinite.flags)
  rintro ⟨loaded, hLoaded, -⟩
  cases hLoad.symm.trans hLoaded

/-
  So not every running game reloads whose player is in a room
  of its world: neither the one with the pebble, nor the one
  in the cave, nor the one with the flag.
-/
theorem not_reloads_with_additions :
    let disk : Disk := fun _ => .nothing
    let first : Game := fresh {} .embedded ⟨0⟩
    (start {} disk ⟨0⟩).value = .ok first ∧
      ∀ game ∈ [pebbleInHand, inAddedCave, endlessFlag],
        ReflTransGen AnyStep first game ∧
          game.session.currentRoom ∈
            Catalog.ids game.world.rooms ∧
          ¬ Reloads {} disk game := by
  intro disk first
  refine ⟨start_embedded, ?_⟩
  simp only [List.forall_mem_cons, List.not_mem_nil,
    false_implies, implies_true, and_true]
  refine ⟨⟨reaches_pebbleInHand, ?_, ?_⟩,
    ⟨?_, ?_, ?_⟩, ⟨?_, ?_, ?_⟩⟩
  · exact facts_pebbleInHand.1.1
  · exact not_reloads_pebbleInHand
  · exact ((reaches_add _ _).trans (reaches_add _ _)).tail
      (.execute _ _)
  · exact facts_inAddedCave.1.1
  · exact not_reloads_inAddedCave
  · exact (reaches_add _ _).tail (.execute _ _)
  · exact facts_endlessFlag.1
  · exact not_reloads_endlessFlag

end Game

end TextAdventure
