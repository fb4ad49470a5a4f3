import TextAdventure.Proofs.Chain
import TextAdventure.Proofs.Content.Layer
import TextAdventure.Proofs.Game.Run

/-
  Where a game starts, whatever its settings and files.

  What is loaded is always a story: accepted content with a
  start room, since the built-in story stands in for a
  directory that cannot be loaded. The layer limit comes
  after that, and nothing stands in for what it takes away.
  If it takes away the start room, the game does not start,
  unless no room at all is left: then it starts nowhere.

  Main declarations:
    * `Content.IsStory`
    * `ContentSource.content_isStory`
    * `Settings.Keeps`
    * `Settings.loadWorld_value`
    * `Game.start_in_a_room_iff`
    * `Game.start_of_unloadable`
-/

namespace TextAdventure

------------------------------------------------------------
-- What Is Loaded
------------------------------------------------------------

namespace Content

/- Accepted content that has its start room. -/
structure IsStory (content : Content) : Prop where
  valid : content.IsValid
  start :
    content.rules.startRoom ∈ Catalog.ids content.rooms

theorem embedded_isStory : embedded.IsStory where
  valid := rfl
  start := by decide +kernel

/- A directory without rooms is refused. -/
theorem rooms_ne_nil_of_readDirectory
    {disk : Disk}
    {directory : String}
    {content : Content}
    (hRead : readDirectory disk directory = .ok content) :
    content.rooms ≠ [] := by
  unfold readDirectory at hRead
  simp only [bind_eq_ok_iff] at hRead
  rcases hRead with
    ⟨rooms, -, things, -, puzzles, -, hRest⟩
  split at hRest
  · simp at hRest
  · rename_i hFull
    simp only [bind_eq_ok_iff, pure_eq_ok_iff] at hRest
    rcases hRest with ⟨scripts, -, rules, -, rfl⟩
    rintro rfl
    simp at hFull

/- A directory that can be loaded holds a story. -/
theorem isStory_of_ofDirectory
    {disk : Disk}
    {directory : String}
    {content : Content}
    (hLoad :
      (ofDirectory disk directory).value = .ok content) :
    content.IsStory := by
  unfold ofDirectory at hLoad
  cases hRead : readDirectory disk directory with
  | error fault => simp [hRead, Logged.silent] at hLoad
  | ok read =>
      simp only [hRead, Logged.map] at hLoad
      split at hLoad
      · rename_i hValid
        cases hLoad
        refine ⟨hValid, ?_⟩
        exact (startFault?_eq_none_iff.mp
          (IsValid.startFault?_eq_none hValid)).resolve_left
            (rooms_ne_nil_of_readDirectory hRead)
      · simp at hLoad

end Content

/- The content of a source, by what its directory holds. -/
theorem ContentSource.content_value
    (disk : Disk)
    (source : ContentSource) :
    (source.content disk).value =
      match source with
      | .embedded => .embedded
      | .directory path =>
          match (Content.ofDirectory disk path).value with
          | .ok content => content
          | .error _ => .embedded := by
  cases source with
  | embedded => rfl
  | directory path =>
      simp only [ContentSource.content, Logged.bind]
      cases (Content.ofDirectory disk path).value <;> rfl

/- Whatever the source is, a story comes from it. -/
theorem ContentSource.content_isStory
    (disk : Disk)
    (source : ContentSource) :
    (source.content disk).value.IsStory := by
  rw [content_value]
  split
  · exact Content.embedded_isStory
  · split
    · rename_i hLoad
      exact Content.isStory_of_ofDirectory hLoad
    · exact Content.embedded_isStory

------------------------------------------------------------
-- What Is Left Of It
------------------------------------------------------------

namespace Settings

/- A room is within the layers that the settings ask for. -/
def Keeps (settings : Settings) (room : Room) : Prop :=
  ∀ layer, settings.maxLayer = some layer →
    room.layer ≤ layer

variable {settings : Settings}
variable {content : Content}

theorem limitLayer_startRoom
    (settings : Settings)
    (content : Content) :
    (settings.limitLayer content).rules.startRoom =
      content.rules.startRoom := by
  unfold limitLayer
  split <;> rfl

/- The rooms that are left are those that are kept. -/
theorem mem_ids_limitLayer_rooms_iff
    {id : String} :
    id ∈ Catalog.ids (settings.limitLayer content).rooms ↔
      ∃ room ∈ content.rooms,
        room.id = id ∧ settings.Keeps room := by
  unfold limitLayer Keeps
  cases settings.maxLayer with
  | none => simp [Catalog.mem_ids_iff]
  | some layer =>
      simp [Content.ids_filterLayer_rooms,
        Content.mem_ids_roomsUpTo_iff]

theorem limitLayer_rooms_eq_nil_iff :
    (settings.limitLayer content).rooms = [] ↔
      ∀ room ∈ content.rooms, ¬ settings.Keeps room := by
  have hNil :
      (settings.limitLayer content).rooms = [] ↔
        ∀ id, id ∉
          Catalog.ids (settings.limitLayer content).rooms := by
    rw [← List.eq_nil_iff_forall_not_mem, Catalog.ids,
      List.map_eq_nil_iff]
  simp only [hNil, mem_ids_limitLayer_rooms_iff]
  constructor
  · intro hNone room hMem hKept
    exact hNone room.id ⟨room, hMem, rfl, hKept⟩
  · rintro hNone id ⟨room, hMem, -, hKept⟩
    exact hNone room hMem hKept

/- The limit spoils accepted content in one way at most. -/
theorem validate_limitLayer
    (hValid : content.IsValid) :
    (settings.limitLayer content).validate.value =
      match (settings.limitLayer content).startFault? with
      | some fault => .error fault
      | none => .ok () := by
  unfold limitLayer
  split
  · exact hValid.validate_filterLayer _
  · exact hValid.hangsTogether.validate_value

/- Loading fails only for want of the start room. -/
theorem loadWorld_value
    (settings : Settings)
    (disk : Disk) :
    (settings.loadWorld disk).value =
      match (settings.content disk).startFault? with
      | some fault => .error (.content fault)
      | none =>
          .ok (World.ofContent (settings.content disk)) := by
  have hStory :=
    ContentSource.content_isStory disk settings.source
  have hCheck :=
    @validate_limitLayer settings _ hStory.valid
  unfold loadWorld content
  simp only [Logged.bind, Logged.map, hCheck]
  cases (settings.limitLayer
    (settings.source.content disk).value).startFault? <;> rfl

end Settings

------------------------------------------------------------
-- Starting
------------------------------------------------------------

namespace Game

variable {settings : Settings}
variable {disk : Disk}
variable {id : SessionId}

theorem start_value :
    (start settings disk id).value =
      match (settings.content disk).startFault? with
      | some fault => .error (.content fault)
      | none =>
          .ok (fresh settings (settings.content disk) id) := by
  simp only [start, Logged.map, Settings.loadWorld_value]
  cases (settings.content disk).startFault? <;> rfl

theorem start_eq_ok_iff_startFault?
    {game : Game} :
    (start settings disk id).value = .ok game ↔
      (settings.content disk).startFault? = none ∧
        game = fresh settings (settings.content disk) id := by
  rw [start_value]
  cases (settings.content disk).startFault? <;>
    simp [eq_comm]

theorem start_eq_error_iff
    {fault : WorldFault} :
    (start settings disk id).value =
        .error (.content fault) ↔
      (settings.content disk).startFault? = some fault := by
  rw [start_value]
  cases (settings.content disk).startFault? <;> simp

theorem ids_fresh_rooms
    (settings : Settings)
    (content : Content)
    (id : SessionId) :
    Catalog.ids (fresh settings content id).world.rooms =
      Catalog.ids content.rooms := by
  rw [← World.ids_ofContent_rooms]
  exact World.ids_rooms_of_layout_eq
    (World.layout_visit _ content.rules.startRoom)

theorem fresh_rooms_eq_nil_iff
    {content : Content} :
    (fresh settings content id).world.rooms = [] ↔
      content.rooms = [] := by
  have hIds := ids_fresh_rooms settings content id
  rw [← List.map_eq_nil_iff, ← Catalog.ids, hIds,
    Catalog.ids, List.map_eq_nil_iff]

/- With distinct ids a room is left exactly if it is kept. -/
theorem mem_ids_content_rooms_iff_keeps
    {first : Room}
    (hIds :
      (Catalog.ids
        (settings.source.content disk).value.rooms).Nodup)
    (hFirst :
      first ∈ (settings.source.content disk).value.rooms) :
    first.id ∈ Catalog.ids (settings.content disk).rooms ↔
      settings.Keeps first := by
  refine Settings.mem_ids_limitLayer_rooms_iff.trans ?_
  constructor
  · rintro ⟨room, hRoom, hSame, hKeeps⟩
    rwa [← Catalog.eq_of_idOf_eq hIds hRoom hFirst hSame]
  · intro hKeeps
    exact ⟨first, hFirst, rfl, hKeeps⟩

/- If the start room is kept, the game starts in it. -/
theorem exists_start_of_keeps
    {first : Room}
    (hFirst :
      first ∈ (settings.source.content disk).value.rooms)
    (hStart :
      first.id =
        (settings.source.content disk).value.rules.startRoom)
    (hKeeps : settings.Keeps first) :
    ∃ game, (start settings disk id).value = .ok game ∧
      game.session.currentRoom = first.id ∧
      first.id ∈ Catalog.ids game.world.rooms := by
  have hRule :
      (settings.content disk).rules.startRoom = first.id :=
    (Settings.limitLayer_startRoom _ _).trans hStart.symm
  have hHere :
      first.id ∈ Catalog.ids (settings.content disk).rooms :=
    Settings.mem_ids_limitLayer_rooms_iff.mpr
      ⟨first, hFirst, rfl, hKeeps⟩
  have hFault :
      (settings.content disk).startFault? = none := by
    rw [Content.startFault?_eq_none_iff, hRule]
    exact Or.inr hHere
  refine ⟨_, start_eq_ok_iff_startFault?.mpr ⟨hFault, rfl⟩,
    hRule, ?_⟩
  rw [ids_fresh_rooms]
  exact hHere

/-
  Of any settings and files, with the start room of what is
  loaded: the game starts in a room exactly if this room is
  kept, it is refused exactly if other rooms are kept but
  not this one, and it starts in no room at all exactly if
  none is kept.
-/
theorem start_in_a_room_iff
    (settings : Settings)
    (disk : Disk)
    (id : SessionId) :
    let loaded := (settings.source.content disk).value
    let started := (start settings disk id).value
    ∃ first ∈ loaded.rooms,
      first.id = loaded.rules.startRoom ∧
        ((∃ game, started = .ok game ∧
            game.session.currentRoom = first.id ∧
            first.id ∈ Catalog.ids game.world.rooms) ↔
          settings.Keeps first) ∧
        (started = .error (.content (.unknownRoom first.id)) ↔
          ¬ settings.Keeps first ∧
            ∃ room ∈ loaded.rooms, settings.Keeps room) ∧
        ((∃ game, started = .ok game ∧
            game.world.rooms = []) ↔
          ∀ room ∈ loaded.rooms, ¬ settings.Keeps room) := by
  intro loaded started
  have hStory : loaded.IsStory :=
    ContentSource.content_isStory disk settings.source
  rcases (Catalog.mem_ids_iff _ _).mp hStory.start with
    ⟨first, hFirst, hStart⟩
  have hKeeps :
      first.id ∈ Catalog.ids (settings.content disk).rooms ↔
        settings.Keeps first :=
    mem_ids_content_rooms_iff_keeps hStory.valid.roomIds
      hFirst
  have hNone :
      (settings.content disk).rooms = [] ↔
        ∀ room ∈ loaded.rooms, ¬ settings.Keeps room :=
    Settings.limitLayer_rooms_eq_nil_iff
  refine ⟨first, hFirst, hStart, ⟨?_, ?_⟩, ?_, ⟨?_, ?_⟩⟩
  · rintro ⟨game, hOk, -, hHere⟩
    rcases start_eq_ok_iff_startFault?.mp hOk with ⟨-, rfl⟩
    rw [ids_fresh_rooms] at hHere
    exact hKeeps.mp hHere
  · exact exists_start_of_keeps hFirst hStart
  · have hRule :
        (settings.content disk).rules.startRoom = first.id :=
      (Settings.limitLayer_startRoom _ _).trans hStart.symm
    rw [start_eq_error_iff, Content.startFault?_eq_some_iff,
      hRule, ← hKeeps, ne_eq, hNone]
    simp [and_comm]
  · rintro ⟨game, hOk, hEmpty⟩
    rcases start_eq_ok_iff_startFault?.mp hOk with ⟨-, rfl⟩
    exact hNone.mp (fresh_rooms_eq_nil_iff.mp hEmpty)
  · intro hNoRoom
    have hEmpty := hNone.mpr hNoRoom
    exact ⟨_, start_eq_ok_iff_startFault?.mpr
      ⟨Content.startFault?_eq_none_iff.mpr (Or.inl hEmpty),
        rfl⟩,
      fresh_rooms_eq_nil_iff.mpr hEmpty⟩

/- Files whose start room is above the lowest layer. -/
def atticFiles : Disk
| "attic/rooms.json" =>
    .text
      ("[\x7b\"id\": \"attic\", \"name\": \"Attic\", " ++
        "\"layer\": 1\x7d, " ++
        "\x7b\"id\": \"cellar\", \"name\": \"Cellar\"\x7d]")
| "attic/objects.json" =>
    .text
      ("[\x7b\"id\": \"coin\", \"name\": \"coin\", " ++
        "\"placement\": \x7b\"room\": \"cellar\"\x7d\x7d]")
| "attic/puzzles.json" =>
    .text
      ("[\x7b\"id\": \"p\", \"name\": \"P\", " ++
        "\"conditions\": [\x7b\"kind\": \"flag\", " ++
        "\"target\": \"never\", \"value\": true\x7d]\x7d]")
| _ => .nothing

/- The cellar is left, but the attic to start in is gone. -/
example :
    (start { source := .directory "attic", maxLayer := some 0 }
        atticFiles ⟨0⟩).value =
      .error (.content (.unknownRoom "attic")) := by
  decide +kernel

------------------------------------------------------------
-- The Built-In Story
------------------------------------------------------------

/- The built-in start room is on the lowest layer. -/
theorem exists_lowest_of_embedded :
    ∃ first ∈ Content.embedded.rooms,
      first.id = Content.embedded.rules.startRoom ∧
        first.layer = 0 := by
  decide +kernel

/-
  A game of the built-in story starts in a room, whatever
  the limit; so does one of a directory that cannot be
  loaded.
-/
theorem start_of_unloadable
    (hUnloadable :
      ∀ path, settings.source = .directory path →
        ∃ fault,
          (Content.ofDirectory disk path).value =
            .error fault) :
    ∃ game, (start settings disk id).value = .ok game ∧
      game.session.currentRoom =
        Content.embedded.rules.startRoom ∧
      Content.embedded.rules.startRoom ∈
        Catalog.ids game.world.rooms := by
  have hSource :
      (settings.source.content disk).value = .embedded := by
    rw [ContentSource.content_value]
    cases hSource : settings.source with
    | embedded => rfl
    | directory path =>
        rcases hUnloadable path hSource with ⟨fault, hFault⟩
        simp only [hFault]
  rcases exists_lowest_of_embedded with
    ⟨first, hFirst, hStart, hLowest⟩
  have hKeeps : settings.Keeps first := by
    intro layer _
    rw [hLowest]
    exact UInt32.zero_le
  rw [← hStart]
  exact exists_start_of_keeps (hSource ▸ hFirst)
    (hSource ▸ hStart) hKeeps

end Game

end TextAdventure
