import TextAdventure.Proofs.Game.Overlay
import TextAdventure.Proofs.Game.Saving
import TextAdventure.Proofs.Play.Describing

/-
  Loaded games play on like the games that were saved.

  A save does not tell in which order rooms list things, and
  so a loaded game may list them in another one. Apart from
  this it is the game that was saved, as long as no flag that
  a save leaves out is other than in the content. From then
  on both games come to the same with every line.

  Main declarations:
    * `Scene.Tracks.alike_resumed`
    * `Game.Twins`
    * `Game.Twins.execute`
    * `Game.Twins.executeAll`
    * `Game.twins_resumed`
    * `Game.plays_on_after_load`
    * `Game.loadedDiffers_of_order_and_flag`
-/

namespace TextAdventure

------------------------------------------------------------
-- Resumed Scenes
------------------------------------------------------------

/- Things of the same templates and states are the same. -/
theorem World.SameProgress.things_eq
    {left right : World}
    (hSame : left.SameProgress right)
    (hTemplates :
      left.things.map Thing.template =
        right.things.map Thing.template) :
    left.things = right.things := by
  have hZip (things : List Thing) :
      things.map (fun thing =>
          (thing.template,
            (thing.id, ThingState.capture thing))) =
        (things.map Thing.template).zip
          (things.map (fun thing =>
            (thing.id, ThingState.capture thing))) :=
    List.zip_map'.symm
  have hMap := hZip left.things
  rw [hTemplates, hSame.things, ← hZip right.things] at hMap
  apply List.map_injective_iff.mpr _ hMap
  intro one other hParts
  simp only [Prod.mk.injEq] at hParts
  exact Thing.eq_of_template_eq hParts.1 hParts.2.2

/- Worlds without listings are the same part by part. -/
theorem World.SameProgress.unlisted_eq
    {left right : World}
    (hSame : left.SameProgress right)
    (hTemplates :
      left.things.map Thing.template =
        right.things.map Thing.template)
    (hPlot : left.plot = right.plot)
    (hChanged : left.changed = right.changed) :
    left.unlisted = right.unlisted := by
  have hThings := hSame.things_eq hTemplates
  have hRules : left.rules = right.rules :=
    congrArg Prod.fst hPlot
  have hScripts : left.scripts = right.scripts :=
    congrArg (fun plot => plot.2.2) hPlot
  unfold World.unlisted
  rw [hSame.rooms, hSame.puzzles, hThings, hRules, hScripts,
    hChanged]

/-
  A session that tells all of its world is resumed in a scene
  that differs at most in how rooms list things.
-/
theorem Scene.Tracks.alike_resumed
    {base : World}
    {scene : Scene}
    (hTracks : scene.Tracks base)
    (hRecorded : scene.world.changed = [])
    (hBase : base.IsCoherent)
    (hConsistent : scene.IsConsistent)
    (hPlot : scene.world.plot = base.plot)
    (hTemplates :
      scene.world.things.map Thing.template =
        base.things.map Thing.template) :
    scene.Alike (Scene.resumed base scene.session) := by
  rcases hTracks.resumed hRecorded hBase hConsistent with
    ⟨hSession, hProgress⟩
  have hWorld :
      (Scene.resumed base scene.session).world.unlisted =
        scene.world.unlisted := by
    apply hProgress.unlisted_eq
    · rw [hTemplates]
      exact base.templates_resumed scene.session
    · rw [hPlot]
      exact base.plot_resumed scene.session
    · rw [hRecorded]
      rfl
  unfold Alike unlisted
  rw [hWorld, hSession]

namespace Game

variable {once : Prop}

------------------------------------------------------------
-- Games That Are Alike
------------------------------------------------------------

/- Games under the same settings, with scenes that are twins. -/
structure Twins
    (once : Prop)
    (left right : Game) : Prop where
  settings : left.settings = right.settings
  scenes : Scene.Twins once left.scene right.scene

/- Things that are the same are recorded as the same. -/
theorem alike_recordChanges
    {left right : Scene}
    (hAlike : left.Alike right) :
    (recordChanges left).Alike (recordChanges right) := by
  have hUnlisted (scene : Scene) :
      (recordChanges scene).unlisted =
        recordChanges scene.unlisted := by
    rw [recordChanges_eq, recordChanges_eq]
    rfl
  rw [Scene.Alike, hUnlisted, hUnlisted, hAlike]

theorem isTidy_nextTurn
    {scene : Scene}
    (hTidy : scene.IsTidy once) :
    (nextTurn scene).IsTidy once where
  consistent := isConsistent_nextTurn hTidy.consistent
  listsOnce := hTidy.listsOnce

theorem isTidy_recordChanges
    {scene : Scene}
    (hTidy : scene.IsTidy once) :
    (recordChanges scene).IsTidy once where
  consistent := isConsistent_recordChanges hTidy.consistent
  listsOnce := by
    intro hOnce
    rw [recordChanges_eq]
    exact hTidy.listsOnce hOnce

/- A line leaves everything in its place. -/
theorem isTidy_execute
    {game : Game}
    (hTidy : game.scene.IsTidy once)
    (line : String) :
    (game.execute line).value.1.scene.IsTidy once := by
  rw [scene_execute]
  exact isTidy_recordChanges
    ((isTidy_nextTurn hTidy).edits
      (turn_edits (World.grants_any game.world) line))

/- The outcomes of lines, one after the other. -/
theorem outcomes_cons
    (game : Game)
    (line : String)
    (rest : List String) :
    (game.executeAll (line :: rest)).value.2 =
      (game.execute line).value.2 ::
        ((game.execute line).value.1.executeAll rest).value.2 :=
  rfl

namespace Twins

variable {left right : Game}

/- A line is taken alike by twins. -/
theorem turn
    (hTwins : Twins once left right)
    (line : String) :
    (left.turn line).Alike once (right.turn line) := by
  have hNext :
      Scene.Twins once (nextTurn left.scene)
        (nextTurn right.scene) :=
    { alike :=
        hTwins.scenes.alike.withSession (fun session =>
          { session with turn := session.turn + 1 })
      left := isTidy_nextTurn hTwins.scenes.left
      right := isTidy_nextTurn hTwins.scenes.right }
  unfold Game.turn
  rw [hTwins.settings]
  exact hNext.perform _ _

/- A line leads from twins to twins. -/
theorem execute
    (hTwins : Twins once left right)
    (line : String) :
    Twins once (left.execute line).value.1
      (right.execute line).value.1 := by
  have hScenes :
      Scene.Twins once
        (left.execute line).value.1.scene
        (right.execute line).value.1.scene :=
    { alike := by
        rw [scene_execute, scene_execute]
        exact alike_recordChanges (hTwins.turn line).scene
      left := isTidy_execute hTwins.scenes.left line
      right := isTidy_execute hTwins.scenes.right line }
  have hSettings :
      (left.execute line).value.1.settings =
        (right.execute line).value.1.settings := by
    rw [settings_execute, settings_execute]
    exact hTwins.settings
  exact ⟨hSettings, hScenes⟩

/- All lines come to the same for twins. -/
theorem executeAll
    (hTwins : Twins once left right)
    (lines : List String) :
    List.Forall₂ (Outcome.Alike once)
      (left.executeAll lines).value.2
      (right.executeAll lines).value.2 := by
  induction lines generalizing left right with
  | nil => exact List.Forall₂.nil
  | cons line rest ih =>
      have hFirst :
          Outcome.Alike once (left.execute line).value.2
            (right.execute line).value.2 := by
        rw [outcome_execute, outcome_execute]
        exact (hTwins.turn line).outcome
      rw [outcomes_cons, outcomes_cons]
      exact List.Forall₂.cons hFirst (ih (hTwins.execute line))

end Twins

------------------------------------------------------------
-- What Play Leaves Alone
------------------------------------------------------------

/- What remains of the content while a game is played. -/
structure Keeps (content : Content) (scene : Scene) : Prop where
  plot : scene.world.plot = (World.ofContent content).plot
  words :
    scene.world.things.map Thing.words =
      (World.ofContent content).things.map Thing.words
  listsOnce : content.ListsOnce → scene.world.ListsOnce

namespace Keeps

variable {content : Content}

theorem fresh
    (hValid : content.IsValid)
    (settings : Settings)
    (id : SessionId) :
    Keeps content (Game.fresh settings content id).scene where
  plot := rfl
  words := rfl
  listsOnce := by
    intro hOnce
    exact (hOnce.ofContent hValid).of_layout_eq
      (World.layout_visit _ _)

theorem edit
    {may : Value → Prop}
    {before after : Scene}
    (hKeeps : Keeps content before)
    (hEdit : Scene.Edit may before after) :
    Keeps content after where
  plot := hEdit.plot.trans hKeeps.plot
  words := hEdit.words.trans hKeeps.words
  listsOnce := by
    intro hOnce
    exact hEdit.listsOnce (hKeeps.listsOnce hOnce)

theorem edits
    {may : Value → Prop}
    {before after : Scene}
    (hKeeps : Keeps content before)
    (hEdits : Scene.Edits may before after) :
    Keeps content after := by
  induction hEdits with
  | refl => exact hKeeps
  | tail _ hLast ih => exact ih.edit hLast

theorem execute
    {game : Game}
    (hKeeps : Keeps content game.scene)
    (line : String) :
    Keeps content (game.execute line).value.1.scene := by
  have hRecord {scene : Scene} (hScene : Keeps content scene) :
      Keeps content (recordChanges scene) := by
    rw [recordChanges_eq]
    exact
      { plot := hScene.plot
        words := hScene.words
        listsOnce := hScene.listsOnce }
  have hNext : Keeps content (nextTurn game.scene) :=
    { plot := hKeeps.plot
      words := hKeeps.words
      listsOnce := hKeeps.listsOnce }
  rw [scene_execute]
  exact hRecord
    (hNext.edits
      (turn_edits (World.grants_any game.world) line))

theorem executeAll
    {game : Game}
    (hKeeps : Keeps content game.scene)
    (lines : List String) :
    Keeps content (game.executeAll lines).value.1.scene :=
  executeAll_keeps (fun game => Keeps content game.scene)
    (fun _ line hKeeps => hKeeps.execute line) hKeeps lines

/- The things are those of the content, in its order. -/
theorem thingIds
    {scene : Scene}
    (hKeeps : Keeps content scene) :
    Catalog.ids scene.world.things =
      Catalog.ids (World.ofContent content).things := by
  have hWords (things : List Thing) :
      Catalog.ids (things.map Thing.words) =
        Catalog.ids things := by
    apply Catalog.ids_map
    intro thing
    rfl
  rw [← hWords, hKeeps.words, hWords]

/- The thing of an id has the words it has in the content. -/
theorem thing?_words
    {scene : Scene}
    (hKeeps : Keeps content scene)
    (id : String) :
    (scene.world.thing? id).map Thing.words =
      ((World.ofContent content).thing? id).map
        Thing.words := by
  have hWords (world : World) :
      Catalog.find? id (world.things.map Thing.words) =
        (world.thing? id).map Thing.words := by
    apply Catalog.find?_map
    intro thing
    rfl
  rw [← hWords, hKeeps.words, hWords]

/- A thing is of the template of its original. -/
theorem template_eq
    {scene : Scene}
    (hFlags : scene.world.HasFlagsOf content)
    {thing placed : Thing}
    (hThing : thing ∈ scene.world.things)
    (hPlaced : placed ∈ (World.ofContent content).things)
    (hWords : thing.words = placed.words) :
    thing.template = placed.template := by
  rw [World.ofContent_things] at hPlaced
  rcases List.mem_map.mp hPlaced with
    ⟨original, hOriginal, rfl⟩
  have hPlace :=
    original.template_placeWhereListed content.rooms
  have hTexts : thing.words = original.words :=
    hWords.trans ((Thing.template_eq_iff _ _).mp hPlace).1
  have hId : original.words.id = thing.words.id :=
    congrArg Thing.id hTexts.symm
  rw [hPlace, Thing.template_eq_iff]
  exact ⟨hTexts, hFlags thing hThing original hOriginal hId⟩

theorem templates
    {scene : Scene}
    (hKeeps : Keeps content scene)
    (hIds : (Catalog.ids content.things).Nodup)
    (hFlags : scene.world.HasFlagsOf content) :
    scene.world.things.map Thing.template =
      (World.ofContent content).things.map Thing.template := by
  apply Catalog.map_eq_of_find? _ hKeeps.thingIds
  · intro id
    have hWords := hKeeps.thing?_words id
    unfold World.thing? at hWords
    cases hThing : Catalog.find? id scene.world.things with
    | none =>
        rw [hThing, Option.map_none, eq_comm,
          Option.map_eq_none_iff] at hWords
        rw [hWords]
    | some thing =>
        rw [hThing, Option.map_some, eq_comm,
          Option.map_eq_some_iff] at hWords
        rcases hWords with ⟨placed, hPlaced, hSame⟩
        rw [hPlaced, Option.map_some, Option.map_some,
          template_eq hFlags (Catalog.find?_some hThing).1
            (Catalog.find?_some hPlaced).1 hSame.symm]
  · rw [hKeeps.thingIds, World.ids_ofContent_things]
    exact hIds

end Keeps

------------------------------------------------------------
-- Playing On
------------------------------------------------------------

/- A played game is twin to what is resumed of its session. -/
theorem twins_resumed
    {content : Content}
    {game : Game}
    (hValid : content.IsValid)
    (hFollows : Follows content game)
    (hKeeps : Keeps content game.scene)
    (hFlags : game.world.HasFlagsOf content) :
    Twins content.ListsOnce game
      { settings := game.settings
        scene :=
          Scene.resumed (World.ofContent content)
            game.session } where
  settings := rfl
  scenes :=
    { alike :=
        hFollows.tracks.alike_resumed hFollows.recorded
          (World.ofContent_isCoherent hValid)
          hFollows.consistent hKeeps.plot
          (hKeeps.templates hValid.thingIds hFlags)
      left :=
        { consistent := hFollows.consistent
          listsOnce := hKeeps.listsOnce }
      right :=
        { consistent :=
            Scene.resumed_isConsistent
              (World.ofContent_isCoherent hValid)
              game.session
          listsOnce := fun hOnce =>
            (hOnce.ofContent hValid).resumed game.session } }

/- Twins whose rooms list the same are one game. -/
theorem Twins.eq_of_rooms_eq
    {left right : Game}
    (hTwins : Twins once left right)
    (hRooms : left.world.rooms = right.world.rooms) :
    left = right := by
  have hWorld (scene : Scene) :
      { scene.unlisted with
          world :=
            { scene.unlisted.world with
                rooms := scene.world.rooms } } =
        scene :=
    rfl
  have hScene : left.scene = right.scene := by
    have hRooms : left.scene.world.rooms =
        right.scene.world.rooms := hRooms
    rw [← hWorld left.scene, ← hWorld right.scene,
      hTwins.scenes.alike, hRooms]
  cases left
  cases right
  rw [Game.mk.injEq]
  exact ⟨hTwins.settings, hScene⟩

/- A started game keeps its settings. -/
theorem settings_executeAll
    (game : Game)
    (lines : List String) :
    (game.executeAll lines).value.1.settings =
      game.settings :=
  executeAll_keeps
    (fun after => after.settings = game.settings)
    (fun after line hSame =>
      (settings_execute after line).trans hSame)
    rfl lines

/-
  A game that was started, played to a room of its world and
  loaded from its text comes to the same with all further
  lines as the game that was saved, as long as no thing had a
  flag that a save leaves out other than in the content.

  Of what it says only the things that a room lists may come
  in another order; if the content lists nothing twice in a
  room, then each of them as often. If rooms list things in
  the same order when the game is saved and when it is loaded,
  all it says is the same.

  The text of the time of the save is taken to be read as
  the time, and that of each double as the double.
-/
theorem plays_on_after_load
    {settings : Settings}
    {disk : Disk}
    {id : SessionId}
    {first : Game}
    (hStart : (start settings disk id).value = .ok first)
    (hLoose :
      ∀ thing ∈ (settings.content disk).things,
        thing.IsLoose)
    {lines : List String}
    {game : Game}
    (hGame : (first.executeAll lines).value.1 = game)
    (hRoom :
      game.session.currentRoom ∈
        Catalog.ids game.world.rooms)
    (hFlags : game.world.HasFlagsOf (settings.content disk))
    {time : Timestamp}
    (hTime : Timestamp.ofText? time.text = some time)
    (hDoubles : game.session.All Value.IsLegible) :
    ∃ loaded,
      (load settings disk (game.save time)).value =
          .ok loaded ∧
        ∀ further,
          List.Forall₂
              (Outcome.Alike
                (settings.content disk).ListsOnce)
              (game.executeAll further).value.2
              (loaded.executeAll further).value.2 ∧
            (loaded.world.rooms = game.world.rooms →
              (loaded.executeAll further).value.2 =
                (game.executeAll further).value.2) := by
  have hFollows := follows_of_start hStart hLoose lines
  rcases start_eq_ok_iff.mp hStart with ⟨hValid, rfl⟩
  have hKeeps :=
    (Keeps.fresh hValid settings id).executeAll lines
  have hSettings :=
    settings_executeAll
      (fresh settings (settings.content disk) id) lines
  rw [hGame] at hFollows hKeeps hSettings
  have hTwins :=
    twins_resumed hValid hFollows hKeeps hFlags
  have hSame : game.settings = settings := hSettings
  rw [hSame] at hTwins
  refine ⟨_,
    load_save_value hValid hFollows.toRecords hRoom hTime
      hDoubles, ?_⟩
  intro further
  refine ⟨hTwins.executeAll further, ?_⟩
  intro hRooms
  rw [← hTwins.eq_of_rooms_eq hRooms.symm]

/-
  A game in the built-in content in which the lighter that
  the leaves hide was taken and dropped, so that the forest
  lists it last. The content lists it first.
-/
def droppedLighter : Game :=
  ((fresh {} .embedded ⟨0⟩).executeAll
    ["search leaves", "take lighter",
      "drop lighter"]).value.1

theorem start_embedded :
    (start {} (fun _ => .nothing) ⟨0⟩).value =
      .ok (fresh {} .embedded ⟨0⟩) :=
  start_eq_ok_iff.mpr ⟨rfl, rfl⟩

/- What is read off the game, for which it is played once. -/
theorem facts_droppedLighter :
    droppedLighter.IsPlain ∧
      ∀ thing ∈ droppedLighter.world.things,
        ∀ original ∈ Content.embedded.things,
          original.id = thing.id →
            thing.template = original.template := by
  decide +kernel

/- A time whose text is read as the time. -/
def savedAt : Timestamp :=
  ⟨1700000000, 0⟩

theorem ofText?_savedAt :
    Timestamp.ofText? savedAt.text = some savedAt := by
  decide +kernel

theorem plays_on_after_load_of_droppedLighter :
    let disk : Disk := fun _ => .nothing
    ∃ loaded,
      (load {} disk (droppedLighter.save savedAt)).value =
          .ok loaded ∧
        ∀ further,
          List.Forall₂
              (Outcome.Alike Content.embedded.ListsOnce)
              (droppedLighter.executeAll further).value.2
              (loaded.executeAll further).value.2 ∧
            (loaded.world.rooms = droppedLighter.world.rooms →
              (loaded.executeAll further).value.2 =
                (droppedLighter.executeAll
                  further).value.2) := by
  intro disk
  have hFlags : droppedLighter.world.HasFlagsOf .embedded := by
    intro thing hThing original hOriginal hId
    have hSame :=
      facts_droppedLighter.2 thing hThing original hOriginal
        hId
    exact ((Thing.template_eq_iff _ _).mp hSame).2
  exact plays_on_after_load start_embedded isLoose_embedded
    rfl facts_droppedLighter.1.1 hFlags ofText?_savedAt
    facts_droppedLighter.1.isLegible

------------------------------------------------------------
-- What A Save Leaves Out
------------------------------------------------------------

/-
  A game can be started, played to a room of its world and
  loaded, and comes to something else with a line then.
-/
def LoadedDiffers
    (settings : Settings)
    (disk : Disk)
    (lines : List String)
    (line : String) : Prop :=
  ∃ first game loaded,
    (start settings disk ⟨0⟩).value = .ok first ∧
      (∀ thing ∈ (settings.content disk).things,
        thing.IsLoose) ∧
      (first.executeAll lines).value.1 = game ∧
      game.session.currentRoom ∈
        Catalog.ids game.world.rooms ∧
      (load settings disk (game.save savedAt)).value =
        .ok loaded ∧
      (game.executeAll [line]).value.2 ≠
        (loaded.executeAll [line]).value.2

/- It is enough to look at what is resumed. -/
theorem loadedDiffers_of_resumed
    {settings : Settings}
    {disk : Disk}
    {content : Content}
    (hContent : settings.content disk = content)
    (hValid : content.IsValid)
    (hLoose : ∀ thing ∈ content.things, thing.IsLoose)
    {lines : List String}
    {game : Game}
    (hGame :
      ((fresh settings content ⟨0⟩).executeAll
        lines).value.1 = game)
    (hPlain : game.IsPlain)
    {line : String}
    (hDiffers :
      (game.executeAll [line]).value.2 ≠
        (executeAll
          { settings := settings
            scene :=
              Scene.resumed (World.ofContent content)
                game.session }
          [line]).value.2) :
    LoadedDiffers settings disk lines line := by
  subst hContent
  have hStart :
      (start settings disk ⟨0⟩).value =
        .ok (fresh settings (settings.content disk) ⟨0⟩) :=
    start_eq_ok_iff.mpr ⟨hValid, rfl⟩
  have hFollows := follows_of_start hStart hLoose lines
  rw [hGame] at hFollows
  exact ⟨_, game, _, hStart, hLoose, hGame, hPlain.1,
    load_save_value hValid hFollows.toRecords hPlain.1
      ofText?_savedAt hPlain.isLegible,
    hDiffers⟩

/- Files of a place with an orb that comes to be fixed. -/
def orbFiles : Disk
| "orb/rooms.json" =>
    .text "[\x7b\"id\": \"hall\", \"name\": \"Hall\"\x7d]"
| "orb/objects.json" =>
    .text
      ("[\x7b\"id\": \"orb\", \"name\": \"orb\", " ++
        "\"placement\": \x7b\"room\": \"hall\"\x7d\x7d]")
| "orb/puzzles.json" =>
    .text
      ("[\x7b\"id\": \"p\", \"name\": \"P\", " ++
        "\"conditions\": [], \"effects\": [" ++
        "\x7b\"type\": \"set_property\", " ++
        "\"object\": \"orb\", \"property\": \"isFixed\", " ++
        "\"value\": true\x7d]\x7d]")
| _ => .nothing

def orbSettings : Settings where
  source := .directory "orb"

/- The content of these files. -/
def orbContent : Content where
  rules := { startRoom := "hall" }
  rooms := [{ id := "hall", name := "Hall" }]
  things :=
    [{ id := "orb", name := "orb", placement := .room "hall" }]
  puzzles :=
    [{ id := "p"
       name := "P"
       effects :=
        [.setProperty "orb" "isFixed" (.boolean true)] }]

theorem content_orbSettings :
    orbSettings.content orbFiles = orbContent := by
  decide +kernel

/- The game in which the puzzle has fixed the orb. -/
def fixedOrb : Game :=
  ((fresh orbSettings orbContent ⟨0⟩).executeAll
    ["wait"]).value.1

/-
  The forest is described in another order when the game is
  loaded, and an orb that was fixed can be taken again.
-/
theorem loadedDiffers_of_order_and_flag :
    LoadedDiffers {} (fun _ => .nothing)
        ["search leaves", "take lighter", "drop lighter"]
        "look" ∧
      LoadedDiffers orbSettings orbFiles ["wait"]
        "take orb" := by
  constructor
  · have hValid : Content.embedded.IsValid := by rfl
    have hContent :
        Settings.content {} (fun _ => .nothing) = .embedded :=
      rfl
    apply loadedDiffers_of_resumed hContent hValid
      isLoose_embedded rfl facts_droppedLighter.1
    decide +kernel
  · have hValid : orbContent.IsValid := by rfl
    have hLoose :
        ∀ thing ∈ orbContent.things, thing.IsLoose := by
      decide
    have hPlain : fixedOrb.IsPlain := by decide +kernel
    apply loadedDiffers_of_resumed content_orbSettings hValid
      hLoose rfl hPlain
    decide +kernel

end Game

end TextAdventure
