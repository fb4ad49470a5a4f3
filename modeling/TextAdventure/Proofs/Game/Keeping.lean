import TextAdventure.Proofs.Game.Resuming

/-
  What a save keeps of the properties that are written.

  A save holds the states of things, and a game is resumed by
  laying them over the content. A state holds all that can be
  written but the flags that say what can be done with a
  thing. So a write to another property comes back, and one
  to such a flag is as if it had not been made.

  Main declarations:
    * `Property.isSaved`
    * `Thing.withStateOf`
    * `Thing.withStateOf_write`
    * `Thing.read?_withStateOf`
    * `Scene.Tracks.thing?_resumed`
    * `Game.keeps_saved_properties`
-/

namespace TextAdventure

------------------------------------------------------------
-- States Laid Over Things
------------------------------------------------------------

/- Whether a save keeps what a property is. -/
def Property.isSaved : Property → Bool
| .flag which => which.isSaved
| _ => true

namespace Thing

/- The thing as it is resumed with the state of another. -/
def withStateOf (original thing : Thing) : Thing :=
  let state := ThingState.capture thing
  { state.applyFlags original with
      placement := state.placement }

theorem withStateOf_of_capture_eq
    (original : Thing)
    {left right : Thing}
    (hCapture :
      ThingState.capture left = ThingState.capture right) :
    original.withStateOf left = original.withStateOf right := by
  unfold withStateOf
  rw [hCapture]

/- Writing a saved flag does not change the template. -/
theorem template_set
    {flag : Flag}
    (hSaved : flag.isSaved = true)
    (value : Bool)
    (thing : Thing) :
    (flag.set value thing).template = thing.template := by
  cases flag <;> first | rfl | exact absurd hSaved (by decide)

/- A write comes back if it is saved, and else is undone. -/
theorem withStateOf_write
    (field : Field)
    (value : Value)
    (thing : Thing) :
    thing.withStateOf (thing.write field value) =
      if field.property.isSaved then
        thing.write field value
      else
        thing := by
  cases field with
  | custom | visible => rfl
  | flag flag =>
      cases hSaved : flag.isSaved with
      | true =>
          have hSame :
              thing.withStateOf
                  (flag.set value.isTruthy thing) =
                flag.set value.isTruthy thing :=
            eq_of_template_eq
              (template_set hSaved value.isTruthy thing).symm
              rfl
          simpa [write, Field.property, Property.isSaved,
            hSaved] using hSame
      | false =>
          have hSame :
              thing.withStateOf
                  (flag.set value.isTruthy thing) =
                thing :=
            thing.withStateOf_of_capture_eq
              (Flag.capture_set hSaved value.isTruthy thing)
          simpa [write, Field.property, Property.isSaved,
            hSaved] using hSame

/- What is saved is as in the state, the rest as it was. -/
theorem read?_withStateOf
    (original thing : Thing)
    (property : Property) :
    (original.withStateOf thing).read? property =
      if property.isSaved then
        thing.read? property
      else
        original.read? property := by
  cases property with
  | flag flag => cases flag <;> rfl
  | custom | visible | carried | worn | location
  | containedIn => rfl

/- The thing, which is taken off unless it is carried. -/
def wornInHand (thing : Thing) : Thing :=
  { thing with
      isWorn := thing.isWorn && thing.placement.isCarried }

/- That shows only if it is worn but not carried. -/
theorem read?_wornInHand
    {thing : Thing}
    {property : Property}
    (hCarried :
      property = .worn → thing.isWorn = true →
        thing.placement = .carried) :
    thing.wornInHand.read? property =
      thing.read? property := by
  cases property with
  | worn =>
      have hStays :
          (thing.isWorn && thing.placement.isCarried) =
            thing.isWorn := by
        cases hWorn : thing.isWorn with
        | false => rfl
        | true =>
            rw [hCarried rfl hWorn]
            rfl
      simp only [read?, wornInHand, hStays]
  | flag flag => cases flag <;> rfl
  | custom | visible | carried | location | containedIn => rfl

end Thing

------------------------------------------------------------
-- Resumed Things
------------------------------------------------------------

namespace World

variable {world : World}

theorem thing?_foldl_takeOff
    (world : World)
    (ids : List String)
    (id : String) :
    (ids.foldl
        (fun world id =>
          world.updateThing id
            (fun thing => { thing with isWorn := false }))
        world).thing? id =
      (world.thing? id).map (fun thing =>
        { thing with
            isWorn := thing.isWorn && decide (id ∉ ids) }) := by
  have hId :
      ∀ thing : Thing,
        { thing with isWorn := false }.id = thing.id :=
    fun _ => rfl
  induction ids generalizing world with
  | nil => simp
  | cons first rest ih =>
      rw [List.foldl_cons, ih]
      by_cases hSame : id = first
      · subst hSame
        rw [thing?_updateThing_self _ hId, Option.map_map]
        simp [Function.comp_def]
      · rw [thing?_updateThing_of_ne _ hId hSame]
        simp [hSame]

/- What is taken off is what is worn and not carried. -/
theorem thing?_takeOffStray
    (hIds : (Catalog.ids world.things).Nodup)
    (id : String) :
    world.takeOffStray.value.thing? id =
      (world.thing? id).map Thing.wornInHand := by
  unfold takeOffStray
  dsimp only
  rw [thing?_foldl_takeOff]
  apply Option.map_congr
  intro thing hThing
  have hFound := (Catalog.find?_eq_some_iff hIds).mp hThing
  -- Of one id there is but one thing, so it is this one.
  have hStray :
      id ∈ (world.things.filter (fun thing =>
          thing.isWorn && !thing.placement.isCarried)).map
            Thing.id ↔
        (thing.isWorn && !thing.placement.isCarried) =
          true := by
    simp only [List.mem_map, List.mem_filter]
    constructor
    · rintro ⟨other, ⟨hMem, hOther⟩, hSame⟩
      have hEq : other = thing :=
        Catalog.eq_of_idOf_eq hIds hMem hFound.1
          (hSame.trans hFound.2.symm)
      rw [← hEq]
      exact hOther
    · intro hOff
      exact ⟨thing, ⟨hFound.1, hOff⟩, hFound.2⟩
  have hKeeps :
      (thing.isWorn && decide (¬ (thing.isWorn &&
          !thing.placement.isCarried) = true)) =
        (thing.isWorn && thing.placement.isCarried) := by
    cases thing.isWorn <;>
      cases thing.placement.isCarried <;> rfl
  rw [Thing.wornInHand, decide_eq_decide.mpr
    (not_congr hStray), hKeeps]

/- A thing of a resumed world has the template it had. -/
theorem exists_template_of_thing?_resumed
    {session : Session}
    {id : String}
    {restored : Thing}
    (hRestored :
      (world.resumed session).thing? id = some restored) :
    ∃ original, world.thing? id = some original ∧
      original.template = restored.template := by
  have hFind (things : List Thing) :
      Catalog.find? id (things.map Thing.template) =
        (Catalog.find? id things).map Thing.template :=
    Catalog.find?_map (by intro thing; rfl) id things
  have hSame :
      (world.thing? id).map Thing.template =
        some restored.template := by
    unfold thing? at hRestored ⊢
    rw [← hFind, ← world.templates_resumed session, hFind,
      hRestored]
    rfl
  exact Option.map_eq_some_iff.mp hSame

end World

/-
  A thing of a world that is tracked is resumed as its state
  laid over the thing as built, and off if it is not carried.
-/
theorem Scene.Tracks.thing?_resumed
    {base : World}
    {scene : Scene}
    (hTracks : scene.Tracks base)
    (hRecorded : scene.world.changed = [])
    (hBase : base.IsCoherent)
    (hCoherent : scene.world.IsCoherent)
    {id : String}
    {thing : Thing}
    (hThing : scene.world.thing? id = some thing) :
    ∃ original, base.thing? id = some original ∧
      (base.resumed scene.session).thing? id =
        some (original.withStateOf thing).wornInHand := by
  have hLaid :
      ((base.overlaid scene.session).thing? id).map
          ThingState.capture =
        some (ThingState.capture thing) := by
    have hRestoring :=
      hTracks.restoring hRecorded hBase hCoherent
    have hSame := hRestoring.restored id List.not_mem_nil
    rw [hThing] at hSame
    unfold World.thing?
    rw [World.things_overlaid]
    exact hSame
  rcases Option.map_eq_some_iff.mp hLaid with
    ⟨laid, hFound, hCapture⟩
  -- Laying over leaves the template, and so does taking off.
  have hRestored :
      (base.resumed scene.session).thing? id =
        some laid.wornInHand := by
    have hOff :=
      World.thing?_takeOffStray
        (hBase.overlaid scene.session).thingIds id
    rw [hFound] at hOff
    exact hOff
  rcases World.exists_template_of_thing?_resumed hRestored with
    ⟨original, hOriginal, hTemplate⟩
  refine ⟨original, hOriginal, hRestored.trans ?_⟩
  have hLaidOver : laid = original.withStateOf thing :=
    Thing.eq_of_template_eq hTemplate.symm hCapture
  rw [hLaidOver]

------------------------------------------------------------
-- Resumed Games
------------------------------------------------------------

namespace Game

/-
  What is written at a path comes back with the state of the
  thing if the property there is saved, and is as if it had
  not been written if not. And so it is with a started game
  that was played to a room of its world: resumed from its
  session, or loaded from its text, each thing has there what
  it had if that is saved, and else what it has in the
  content. Only what is worn uncarried is taken off.

  The text of the time of a save is taken to be read as the
  time, and that of each double as the double.
-/
theorem keeps_saved_properties (path : String) :
    (∀ (thing after : Thing) (value : Value),
      thing.setProperty? path value = some after →
        ∃ property,
          Property.ofPath? path = some property ∧
            thing.withStateOf after =
              if property.isSaved then after else thing) ∧
    ∀ (settings : Settings) (disk : Disk) (id : SessionId)
      (first game : Game) (lines : List String),
      (start settings disk id).value = .ok first →
      (first.executeAll lines).value.1 = game →
      game.session.currentRoom ∈
          Catalog.ids game.world.rooms →
      ∃ resumed,
        (resume settings disk game.session).value =
            .ok resumed ∧
          (∀ time : Timestamp,
            Timestamp.ofText? time.text = some time →
            game.session.All Value.IsLegible →
              (load settings disk (game.save time)).value =
                .ok resumed) ∧
          ∀ id thing, game.world.thing? id = some thing →
            ∃ original restored,
              (World.ofContent
                  (settings.content disk)).thing? id =
                some original ∧
              resumed.world.thing? id = some restored ∧
              ∀ property,
                Property.ofPath? path = some property →
                (property = .worn → thing.isWorn = true →
                  thing.placement = .carried) →
                  restored.property? path =
                    if property.isSaved then
                      thing.property? path
                    else
                      original.property? path := by
  constructor
  · intro thing after value hSet
    rcases Thing.setProperty?_eq_some_iff.mp hSet with
      ⟨field, hField, rfl⟩
    exact ⟨field.property, Field.ofPath?_property hField,
      thing.withStateOf_write field value⟩
  intro settings disk id first game lines hStart hGame hRoom
  have hValid := (start_eq_ok_iff.mp hStart).1
  have hRecords := records_of_start hStart lines
  rw [hGame] at hRecords
  have hResume := resume_session_value hValid hRecords hRoom
  refine ⟨_, hResume, ?_, ?_⟩
  · intro time hTime hDoubles
    exact (load_save_eq_resume hRecords settings disk hTime
      hDoubles).trans hResume
  intro id thing hThing
  rcases hRecords.tracks.thing?_resumed hRecords.recorded
      (World.ofContent_isCoherent hValid) hRecords.coherent
      hThing with ⟨original, hOriginal, hRestored⟩
  refine ⟨original, _, hOriginal, hRestored, ?_⟩
  intro property hPath hCarried
  have hLaidOver :
      property = .worn →
        (original.withStateOf thing).isWorn = true →
          (original.withStateOf thing).placement = .carried :=
    hCarried
  simp only [Thing.property?, hPath]
  rw [Thing.read?_wornInHand hLaidOver,
    Thing.read?_withStateOf]

/- An orb that a puzzle has fixed is not fixed any more. -/
theorem orb_is_resumed_unfixed :
    (∃ fixed,
      ({} : Thing).setProperty? "isFixed" (.boolean true) =
          some fixed ∧
        fixed.isFixed = true ∧
        ({} : Thing).withStateOf fixed = {}) ∧
      ∃ resumed,
        (resume orbSettings orbFiles fixedOrb.session).value =
            .ok resumed ∧
          ∃ orb restored,
            fixedOrb.world.thing? "orb" = some orb ∧
              orb.property? "isFixed" =
                some (.boolean true) ∧
              resumed.world.thing? "orb" = some restored ∧
              restored.property? "isFixed" =
                some (.boolean false) := by
  have hPath :
      Property.ofPath? "isFixed" = some (.flag .fixed) := by
    decide +kernel
  rcases keeps_saved_properties "isFixed" with
    ⟨hWrites, hGames⟩
  constructor
  · have hSet :
        ({} : Thing).setProperty? "isFixed" (.boolean true) =
          some { isFixed := true } := by
      decide +kernel
    rcases hWrites _ _ _ hSet with
      ⟨property, hProperty, hBack⟩
    cases hPath.symm.trans hProperty
    exact ⟨_, hSet, rfl, hBack⟩
  have hValid : orbContent.IsValid := by rfl
  have hStart :
      (start orbSettings orbFiles ⟨0⟩).value =
        .ok (fresh orbSettings orbContent ⟨0⟩) := by
    rw [start_eq_ok_iff, content_orbSettings]
    exact ⟨hValid, rfl⟩
  rcases hGames orbSettings orbFiles ⟨0⟩ _ fixedOrb ["wait"]
      hStart rfl (by decide +kernel) with
    ⟨resumed, hResume, -, hThings⟩
  have hOrb :
      (fixedOrb.world.thing? "orb").bind
          (fun orb => orb.property? "isFixed") =
        some (.boolean true) := by
    decide +kernel
  have hBuilt :
      ((World.ofContent orbContent).thing? "orb").bind
          (fun orb => orb.property? "isFixed") =
        some (.boolean false) := by
    decide +kernel
  rcases Option.bind_eq_some_iff.mp hOrb with
    ⟨orb, hFound, hFixed⟩
  rcases hThings "orb" orb hFound with
    ⟨original, restored, hOriginal, hRestored, hReads⟩
  rw [content_orbSettings] at hOriginal
  rw [hOriginal, Option.bind_some] at hBuilt
  have hRead := hReads _ hPath (by simp)
  exact ⟨resumed, hResume, orb, restored, hFound, hFixed,
    hRestored, hRead.trans hBuilt⟩

end Game

end TextAdventure
