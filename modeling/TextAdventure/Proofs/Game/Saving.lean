import TextAdventure.Proofs.Game.Replay
import TextAdventure.Proofs.Game.Tracking

/-
  Games that are saved and loaded.

  A game that was started and played holds finite values only
  and its session tracks its world. So its text can be read,
  and the session that is read leads back to where the game
  was.

  Main declarations:
    * `Game.Records`
    * `Game.Records.execute`
    * `Game.Follows`
    * `Game.load_save_of_finite`
    * `Game.load_save_value`
    * `Game.exists_load_save`
-/

namespace TextAdventure

namespace Game

------------------------------------------------------------
-- Played Games
------------------------------------------------------------

/-
  What holds of a game between turns, whatever is in hand:
  the session tells how the world has come from the content,
  no change is left to record, and all values can be saved.
-/
structure Records (content : Content) (game : Game) :
    Prop where
  coherent : game.world.IsCoherent
  tracks : game.scene.Tracks (World.ofContent content)
  recorded : game.world.changed = []
  grants : game.world.Grants Value.IsFinite
  holds : game.scene.Holds Value.IsFinite

/- And world and session agree on what is in hand. -/
structure Follows (content : Content) (game : Game) : Prop
    extends Records content game where
  consistent : game.scene.IsConsistent

variable {content : Content}

/- A new session records its content. -/
theorem records_fresh
    (hValid : content.IsValid)
    (hFinite : content.AllFinite)
    (settings : Settings)
    (id : SessionId) :
    Records content (fresh settings content id) where
  coherent :=
    (World.ofContent_isCoherent hValid).of_layout_eq
      (World.layout_visit _ _)
  tracks := tracks_opening hValid id
  recorded := rfl
  grants := hFinite.grants_ofContent.of_plot_eq rfl
  holds :=
    { things := hFinite.things_ofContent
      flags := Dict.all_empty
      states := Dict.all_empty }

/- A line that is played is recorded. -/
theorem Records.execute
    {game : Game}
    (hRecords : Records content game)
    (line : String) :
    Records content (game.execute line).value.1 where
  coherent := isCoherent_execute hRecords.coherent line
  tracks :=
    tracks_execute hRecords.tracks hRecords.coherent line
  recorded := changed_execute game line
  grants := grants_execute hRecords.grants line
  holds := holds_execute hRecords.grants hRecords.holds line

theorem Records.executeAll
    {game : Game}
    (hRecords : Records content game)
    (lines : List String) :
    Records content (game.executeAll lines).value.1 :=
  executeAll_keeps (Records content)
    (fun _ line hRecords => hRecords.execute line) hRecords
    lines

/- A started game records all lines that are played. -/
theorem records_of_start
    {settings : Settings}
    {disk : Disk}
    {id : SessionId}
    {first : Game}
    (hStart : (start settings disk id).value = .ok first)
    (lines : List String) :
    Records (settings.content disk)
      (first.executeAll lines).value.1 := by
  rcases start_eq_ok_iff.mp hStart with ⟨hValid, rfl⟩
  exact
    (records_fresh hValid (settings.content_allFinite disk)
      settings id).executeAll lines

/- A new game agrees with its content. -/
theorem follows_fresh
    (hValid : content.IsValid)
    (hFinite : content.AllFinite)
    (hLoose : ∀ thing ∈ content.things, thing.IsLoose)
    (settings : Settings)
    (id : SessionId) :
    Follows content (fresh settings content id) where
  toRecords := records_fresh hValid hFinite settings id
  consistent := opening_isConsistent hValid hLoose id

/- A line that is played keeps a game in agreement. -/
theorem Follows.execute
    {game : Game}
    (hFollows : Follows content game)
    (line : String) :
    Follows content (game.execute line).value.1 where
  toRecords := hFollows.toRecords.execute line
  consistent := isConsistent_execute hFollows.consistent line

theorem Follows.executeAll
    {game : Game}
    (hFollows : Follows content game)
    (lines : List String) :
    Follows content (game.executeAll lines).value.1 :=
  executeAll_keeps (Follows content)
    (fun _ line hFollows => hFollows.execute line) hFollows
    lines

/- A started game follows the content, whatever is played. -/
theorem follows_of_start
    {settings : Settings}
    {disk : Disk}
    {id : SessionId}
    {first : Game}
    (hStart : (start settings disk id).value = .ok first)
    (hLoose :
      ∀ thing ∈ (settings.content disk).things,
        thing.IsLoose)
    (lines : List String) :
    Follows (settings.content disk)
      (first.executeAll lines).value.1 := by
  rcases start_eq_ok_iff.mp hStart with ⟨hValid, rfl⟩
  exact
    (follows_fresh hValid (settings.content_allFinite disk)
      hLoose settings id).executeAll lines

------------------------------------------------------------
-- Saving And Loading
------------------------------------------------------------

/- A session in a known room is resumed in its content. -/
theorem resume_value
    {settings : Settings}
    {disk : Disk}
    {session : Session}
    (hValid : (settings.content disk).IsValid)
    (hRoom :
      session.currentRoom ∈
        Catalog.ids
          (World.ofContent (settings.content disk)).rooms) :
    (resume settings disk session).value =
      .ok
        { settings := settings
          scene :=
            Scene.resumed
              (World.ofContent (settings.content disk))
              session } := by
  rcases Scene.restore_eq_ok_iff.mpr ⟨hRoom, rfl⟩ with
    ⟨warnings, hRestore⟩
  exact resume_eq_ok_iff.mpr ⟨hValid, _, hRestore, rfl⟩

/- A session in an unknown room is not resumed at all. -/
theorem resume_value_of_unknown
    {settings : Settings}
    {disk : Disk}
    {session : Session}
    (hValid : (settings.content disk).IsValid)
    (hRoom :
      session.currentRoom ∉
        Catalog.ids
          (World.ofContent (settings.content disk)).rooms) :
    (resume settings disk session).value =
      .error (.unknownCurrentRoom session.currentRoom) := by
  have hRestore :
      Scene.restore (World.ofContent (settings.content disk))
          session =
        .error (.unknownCurrentRoom session.currentRoom) :=
    Scene.restore_eq_error_iff.mpr ⟨hRoom, rfl⟩
  simp only [resume, Logged.bind]
  rw [Settings.loadWorld_eq_ok_iff.mpr ⟨hValid, rfl⟩]
  simp only [hRestore, Logged.silent]

/- What is loaded from a text is the session as it is read. -/
theorem load_save_of_finite
    {game : Game}
    (settings : Settings)
    (disk : Disk)
    {time : Timestamp}
    (hTime : Timestamp.ofText? time.text = some time)
    (hFinite : game.session.All Value.IsFinite)
    (hReadings : game.session.All Value.HasReading) :
    (load settings disk (game.save time)).value =
      (resume settings disk game.session.reading).value := by
  have hSave :
      SavedGame.ofText (game.save time) =
        .ok (SavedGame.ofSession time game.session.reading) :=
    SavedGame.ofText_text hTime hFinite hReadings
  rw [load, hSave]
  rfl

theorem load_save_eq_resume
    {content : Content}
    {game : Game}
    (hRecords : Records content game)
    (settings : Settings)
    (disk : Disk)
    {time : Timestamp}
    (hTime : Timestamp.ofText? time.text = some time)
    (hDoubles : game.session.All Value.IsLegible) :
    (load settings disk (game.save time)).value =
      (resume settings disk game.session).value := by
  have hFinite : game.session.All Value.IsFinite :=
    { flags := hRecords.holds.flags
      states := hRecords.holds.states }
  have hReadings : game.session.All Value.HasReading :=
    hDoubles.imp (fun _ hLegible => hLegible.hasReading)
  rw [load_save_of_finite settings disk hTime hFinite
    hReadings, Session.reading_eq_self hFinite hDoubles]

/- A game in a known room is resumed in its content. -/
theorem resume_session_value
    {settings : Settings}
    {disk : Disk}
    {game : Game}
    (hValid : (settings.content disk).IsValid)
    (hRecords : Records (settings.content disk) game)
    (hRoom :
      game.session.currentRoom ∈
        Catalog.ids game.world.rooms) :
    (resume settings disk game.session).value =
      .ok
        { settings := settings
          scene :=
            Scene.resumed
              (World.ofContent (settings.content disk))
              game.session } := by
  apply resume_value hValid
  rw [← hRecords.tracks.roomIds]
  exact hRoom

theorem load_save_value
    {settings : Settings}
    {disk : Disk}
    {game : Game}
    (hValid : (settings.content disk).IsValid)
    (hRecords : Records (settings.content disk) game)
    (hRoom :
      game.session.currentRoom ∈
        Catalog.ids game.world.rooms)
    {time : Timestamp}
    (hTime : Timestamp.ofText? time.text = some time)
    (hDoubles : game.session.All Value.IsLegible) :
    (load settings disk (game.save time)).value =
      .ok
        { settings := settings
          scene :=
            Scene.resumed
              (World.ofContent (settings.content disk))
              game.session } :=
  (load_save_eq_resume hRecords settings disk hTime
    hDoubles).trans (resume_session_value hValid hRecords hRoom)

/-
  A started game that was played to a room of its world is
  loaded from its text, under the settings it was started
  with: the session is the same, and the world has made the
  same progress.

  The text of the time of the save is taken to be read as
  the time, and that of each double as the double.
-/
theorem exists_load_save
    {settings : Settings}
    {disk : Disk}
    {id : SessionId}
    {first : Game}
    (hStart : (start settings disk id).value = .ok first)
    (hLoose :
      ∀ thing ∈ (settings.content disk).things,
        thing.IsLoose)
    {lines : List String}
    {game : Game}
    (hGame : (first.executeAll lines).value.1 = game)
    (hRoom :
      game.session.currentRoom ∈
        Catalog.ids game.world.rooms)
    {time : Timestamp}
    (hTime : Timestamp.ofText? time.text = some time)
    (hDoubles : game.session.All Value.IsLegible) :
    ∃ loaded,
      (load settings disk (game.save time)).value =
          .ok loaded ∧
        loaded.session = game.session ∧
        loaded.world.SameProgress game.world := by
  have hFollows := follows_of_start hStart hLoose lines
  rw [hGame] at hFollows
  have hValid := (start_eq_ok_iff.mp hStart).1
  rcases hFollows.tracks.resumed hFollows.recorded
      (World.ofContent_isCoherent hValid)
      hFollows.consistent with ⟨hSession, hProgress⟩
  exact ⟨_,
    load_save_value hValid hFollows.toRecords hRoom hTime
      hDoubles,
    hSession, hProgress⟩

/-
  A game in a room of its world in which only truth values
  are held, so that its text holds no doubles.
-/
def IsPlain (game : Game) : Prop :=
  game.session.currentRoom ∈ Catalog.ids game.world.rooms ∧
    game.session.flags.All
      (fun value => value.asBool?.isSome) ∧
    game.session.thingStates.All (fun state =>
      state.customState.All
        (fun value => value.asBool?.isSome))

instance (game : Game) : Decidable game.IsPlain :=
  inferInstanceAs (Decidable (_ ∧ _ ∧ _))

theorem IsPlain.isLegible
    {game : Game}
    (hPlain : game.IsPlain) :
    game.session.All Value.IsLegible :=
  Session.isLegible_of_asBool? hPlain.2.1 hPlain.2.2

theorem IsPlain.hasReading
    {game : Game}
    (hPlain : game.IsPlain) :
    game.session.All Value.HasReading :=
  hPlain.isLegible.imp (fun _ hLegible => hLegible.hasReading)

theorem isLoose_embedded :
    ∀ thing ∈ Content.embedded.things, thing.IsLoose := by
  decide +kernel

/-
  A game in the built-in content in which two puzzles are
  solved: the leaves are searched and the vines are burnt.
-/
def burntVines : Game :=
  ((fresh {} .embedded ⟨0⟩).executeAll
    ["search leaves", "take lighter", "north",
      "burn vines"]).value.1

theorem exists_load_burntVines :
    let time : Timestamp := ⟨1700000000, 0⟩
    let disk : Disk := fun _ => .nothing
    ∃ loaded,
      (load {} disk (burntVines.save time)).value =
          .ok loaded ∧
        loaded.session = burntVines.session ∧
        loaded.world.SameProgress burntVines.world := by
  intro time disk
  have hValid : Content.embedded.IsValid := by rfl
  have hStart :
      (start {} disk ⟨0⟩).value =
        .ok (fresh {} .embedded ⟨0⟩) :=
    start_eq_ok_iff.mpr ⟨hValid, rfl⟩
  have hTime : Timestamp.ofText? time.text = some time := by
    decide +kernel
  have hPlain : burntVines.IsPlain := by decide +kernel
  exact exists_load_save hStart isLoose_embedded rfl hPlain.1
    hTime hPlain.isLegible

end Game

end TextAdventure
