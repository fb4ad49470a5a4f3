import TextAdventure.Format.SaveText
import TextAdventure.Proofs.Json.Record
import TextAdventure.Proofs.Json.Text
import TextAdventure.Proofs.Session.Id

/-
  Sessions and saved games are read back as written.

  A double that is infinite or not a number is written as
  null, so only a session of finite values comes back. From
  its text it does with each double as the text of the double
  is read, if it can be, and so as it was if that is the
  double itself.

  Main declarations:
    * `Value.IsFinite` and `Value.IsLegible`
    * `Value.HasReading` and `Value.reading`
    * `Session.All`
    * `Session.ofJson?_toJson`
    * `Session.reading_toJson`
    * `Session.reading_eq_self`
    * `SavedGame.ofText_text`
-/

namespace TextAdventure

open Json (FitsDepth Record)
open Json.Token (FitsNumber fitsNumber_of_lt)

------------------------------------------------------------
-- Values
------------------------------------------------------------

/- A value that is no infinite or undefined double. -/
def Value.IsFinite : Value → Prop
| .float value => (value.isInf || value.isNaN) = false
| _ => True

instance : DecidablePred Value.IsFinite
| .boolean _ => isTrue trivial
| .integer _ => isTrue trivial
| .float value =>
    inferInstanceAs
      (Decidable ((value.isInf || value.isNaN) = false))
| .text _ => isTrue trivial

/- A value whose text is read as it, if a finite double. -/
def Value.IsLegible : Value → Prop
| .float value =>
    (value.isInf || value.isNaN) = false →
      Json.parse? (Json.floatText value) = some (.float value)
| _ => True

/- A value whose text can be read, if a finite double. -/
def Value.HasReading : Value → Prop
| .float value =>
    (value.isInf || value.isNaN) = false →
      ∃ read : Value, read.IsFinite ∧
        Json.parse? (Json.floatText value) = some read.toJson
| _ => True

/- What the text of a value is read as, if as a value. -/
def Value.reading (value : Value) : Value :=
  (ofJson? value.toJson.reading).getD value

namespace Value

theorem isLegible_of_asBool?
    {value : Value}
    (hBool : value.asBool?.isSome = true) :
    value.IsLegible := by
  cases value with
  | boolean value => trivial
  | integer | float | text => cases hBool

theorem ofDouble?_eq_some_iff
    {value : Float}
    {read : Value} :
    ofDouble? value = some read ↔
      (value.isInf || value.isNaN) = false ∧
        read = .float value := by
  unfold ofDouble?
  cases value.isInf || value.isNaN <;> simp [eq_comm]

/- Finite values are read back. -/
theorem ofJson?_toJson
    {value : Value}
    (hFinite : value.IsFinite) :
    ofJson? value.toJson = some value := by
  cases value with
  | boolean value => rfl
  | integer value =>
      have hRange :
          Int64.minValue.toInt ≤ value.toInt ∧
            value.toInt ≤ Int64.maxValue.toInt :=
        ⟨value.minValue_le_toInt, value.toInt_le⟩
      simp only [toJson, ofJson?, hRange, and_self, if_true,
        Int64.ofInt_toInt]
  | float value =>
      exact ofDouble?_eq_some_iff.mpr ⟨hFinite, rfl⟩
  | text value => rfl

theorem IsLegible.hasReading
    {value : Value}
    (hLegible : value.IsLegible) : value.HasReading := by
  cases value with
  | float value =>
      intro hFinite
      exact ⟨.float value, hFinite, hLegible hFinite⟩
  | boolean | integer | text => trivial

/- A finite value with a reading is read as a finite value. -/
theorem exists_reading_toJson
    {value : Value}
    (hFinite : value.IsFinite)
    (hReading : value.HasReading) :
    ∃ read : Value, read.IsFinite ∧
      value.toJson.reading = read.toJson := by
  cases value with
  | float value =>
      rcases hReading hFinite with ⟨read, hRead, hReads⟩
      refine ⟨read, hRead, ?_⟩
      rw [toJson, Json.reading, Json.mapDoubles,
        Json.readDouble, hReads, Option.getD_some]
  | boolean value => exact ⟨.boolean value, trivial, rfl⟩
  | integer value => exact ⟨.integer value, trivial, rfl⟩
  | text value => exact ⟨.text value, trivial, rfl⟩

theorem reading_toJson
    {value : Value}
    (hFinite : value.IsFinite)
    (hReading : value.HasReading) :
    value.toJson.reading = value.reading.toJson := by
  rcases exists_reading_toJson hFinite hReading with
    ⟨read, hRead, hReads⟩
  rw [reading, hReads, ofJson?_toJson hRead, Option.getD_some]

theorem isFinite_reading
    {value : Value}
    (hFinite : value.IsFinite)
    (hReading : value.HasReading) :
    value.reading.IsFinite := by
  rcases exists_reading_toJson hFinite hReading with
    ⟨read, hRead, hReads⟩
  rw [reading, hReads, ofJson?_toJson hRead, Option.getD_some]
  exact hRead

/- A legible value is read as it was written. -/
theorem reading_eq_self
    {value : Value}
    (hFinite : value.IsFinite)
    (hLegible : value.IsLegible) :
    value.reading = value := by
  have hSame : value.toJson.reading = value.toJson := by
    cases value with
    | float value =>
        rw [toJson, Json.reading, Json.mapDoubles,
          Json.readDouble, hLegible hFinite, Option.getD_some]
    | boolean | integer | text => rfl
  rw [reading, hSame, ofJson?_toJson hFinite,
    Option.getD_some]

theorem hasReading_toJson
    {value : Value}
    (hFinite : value.IsFinite)
    (hReading : value.HasReading) :
    Json.HasReading value.toJson := by
  cases value with
  | boolean | text => trivial
  | integer value =>
      have hSmall :
          Int64.maxValue.toInt < UInt64.size := by
        decide
      exact ⟨value.minValue_le_toInt,
        Int.lt_of_le_of_lt value.toInt_le hSmall⟩
  | float value =>
      rcases hReading hFinite with ⟨read, -, hReads⟩
      exact ⟨read.toJson, hReads⟩

/- What is read is finite. -/
theorem isFinite_of_ofJson?
    {json : Json}
    {value : Value}
    (hRead : ofJson? json = some value) :
    value.IsFinite := by
  cases json with
  | bool value =>
      cases hRead
      trivial
  | integer value =>
      simp only [ofJson?] at hRead
      split at hRead
      · cases hRead
        trivial
      · rcases ofDouble?_eq_some_iff.mp hRead with
          ⟨hFinite, rfl⟩
        exact hFinite
  | float value =>
      rcases ofDouble?_eq_some_iff.mp hRead with
        ⟨hFinite, rfl⟩
      exact hFinite
  | string value =>
      cases hRead
      trivial
  | null | array | object | unreadable => simp [ofJson?] at hRead

end Value

/- A dictionary of finite values is read back. -/
theorem Dict.dict?_ofDict
    {dict : Dict Value}
    (hFinite : dict.All Value.IsFinite) :
    Json.dict? Value.ofJson?
        (Json.ofDict Value.toJson dict) = some dict :=
  Json.dict?_ofDict (fun entry hMem =>
    Value.ofJson?_toJson (hFinite entry hMem))

section Readings

variable {dict : Dict Value}

theorem Dict.hasReading_ofDict
    (hFinite : dict.All Value.IsFinite)
    (hReadings : dict.All Value.HasReading) :
    Json.HasReading (Json.ofDict Value.toJson dict) :=
  Json.hasReading_ofDict (fun entry hMem =>
    Value.hasReading_toJson (hFinite entry hMem)
      (hReadings entry hMem))

theorem Dict.reading_ofDict
    (hFinite : dict.All Value.IsFinite)
    (hReadings : dict.All Value.HasReading) :
    (Json.ofDict Value.toJson dict).reading =
      Json.ofDict Value.toJson (dict.map Value.reading) :=
  Json.reading_ofDict (fun entry hMem =>
    Value.reading_toJson (hFinite entry hMem)
      (hReadings entry hMem))

theorem Dict.isFinite_map_reading
    (hFinite : dict.All Value.IsFinite)
    (hReadings : dict.All Value.HasReading) :
    (dict.map Value.reading).All Value.IsFinite := by
  apply Dict.All.map
  intro entry hMem
  exact Value.isFinite_reading (hFinite entry hMem)
    (hReadings entry hMem)

end Readings

------------------------------------------------------------
-- Parts Of Sessions
------------------------------------------------------------

@[simp] theorem PlayerState.ofJson?_toJson
    (state : PlayerState) :
    PlayerState.ofJson? state.toJson = some state := by
  cases state <;> rfl

@[simp] theorem Placement.ofJson?_toJson
    (placement : Placement) :
    Placement.ofJson? placement.toJson = some placement := by
  cases placement <;> rfl

theorem ThingState.ofJson?_toJson
    {state : ThingState}
    (hFinite : state.customState.All Value.IsFinite) :
    ThingState.ofJson? state.toJson = some state := by
  have hCustom := Dict.dict?_ofDict hFinite
  have hNodup :
      ["placement", "hidden", "isWorn", "isOpen", "isLocked",
        "isLit", "isSwitchedOn", "customState"].Nodup := by
    decide
  rw [ThingState.ofJson?, ThingState.toJson]
  refine Record.bind_ofJson? hNodup rfl ?_
  refine Record.bind_required? hNodup (by simp)
    state.placement.ofJson?_toJson ?_
  refine Record.bind_required? hNodup (by simp)
    (Json.bool?_bool state.hidden) ?_
  refine Record.bind_required? hNodup (by simp)
    (Json.bool?_bool state.isWorn) ?_
  refine Record.bind_required? hNodup (by simp)
    (Json.bool?_bool state.isOpen) ?_
  refine Record.bind_required? hNodup (by simp)
    (Json.bool?_bool state.isLocked) ?_
  refine Record.bind_required? hNodup (by simp)
    (Json.bool?_bool state.isLit) ?_
  refine Record.bind_required? hNodup (by simp)
    (Json.bool?_bool state.isSwitchedOn) ?_
  refine Record.bind_withDefault? hNodup (by simp)
    hCustom ?_
  rfl

theorem Placement.hasReading_toJson (placement : Placement) :
    Json.HasReading placement.toJson := by
  cases placement <;>
    simp [toJson, Json.HasReading, Json.MembersHaveReadings]

theorem Placement.reading_toJson (placement : Placement) :
    placement.toJson.reading = placement.toJson := by
  cases placement <;> rfl

/- The state as its text is read. -/
def ThingState.reading (state : ThingState) : ThingState :=
  { state with
      customState := state.customState.map Value.reading }

theorem ThingState.hasReading_toJson
    {state : ThingState}
    (hFinite : state.customState.All Value.IsFinite)
    (hReadings : state.customState.All Value.HasReading) :
    Json.HasReading state.toJson := by
  have hCustom := Dict.hasReading_ofDict hFinite hReadings
  simp [toJson, Json.HasReading, Json.MembersHaveReadings,
    Placement.hasReading_toJson, hCustom]

theorem ThingState.reading_toJson
    {state : ThingState}
    (hFinite : state.customState.All Value.IsFinite)
    (hReadings : state.customState.All Value.HasReading) :
    state.toJson.reading = state.reading.toJson := by
  have hPlacement := state.placement.reading_toJson
  have hCustom := Dict.reading_ofDict hFinite hReadings
  unfold Json.reading at hPlacement hCustom
  simp only [toJson, reading, Json.reading, Json.mapDoubles,
    Json.mapMembers, hPlacement, hCustom]

------------------------------------------------------------
-- Sessions
------------------------------------------------------------

/- All values that a session holds pass a test. -/
structure Session.All
    (test : Value → Prop)
    (session : Session) : Prop where
  flags : session.flags.All test
  states :
    session.thingStates.All (fun state =>
      state.customState.All test)

/- Truth values are legible whatever doubles look like. -/
theorem Session.isLegible_of_asBool?
    {session : Session}
    (hFlags :
      session.flags.All (fun value => value.asBool?.isSome))
    (hStates :
      session.thingStates.All (fun state =>
        state.customState.All
          (fun value => value.asBool?.isSome))) :
    session.All Value.IsLegible where
  flags := by
    intro entry hMem
    exact Value.isLegible_of_asBool? (hFlags entry hMem)
  states := by
    intro entry hMem custom hCustom
    exact Value.isLegible_of_asBool?
      (hStates entry hMem custom hCustom)

theorem Session.All.imp
    {test other : Value → Prop}
    {session : Session}
    (hAll : session.All test)
    (hImp : ∀ value, test value → other value) :
    session.All other where
  flags := fun entry hMem => hImp _ (hAll.flags entry hMem)
  states := fun entry hMem custom hCustom =>
    hImp _ (hAll.states entry hMem custom hCustom)

/- The session as its text is read. -/
def Session.reading (session : Session) : Session :=
  { session with
      flags := session.flags.map Value.reading
      thingStates :=
        session.thingStates.map ThingState.reading }

theorem Session.isFinite_reading
    {session : Session}
    (hFinite : session.All Value.IsFinite)
    (hReadings : session.All Value.HasReading) :
    session.reading.All Value.IsFinite where
  flags :=
    Dict.isFinite_map_reading hFinite.flags hReadings.flags
  states := by
    apply Dict.All.map
    intro entry hMem
    exact Dict.isFinite_map_reading (hFinite.states entry hMem)
      (hReadings.states entry hMem)

/- A legible session is read as it was written. -/
theorem Session.reading_eq_self
    {session : Session}
    (hFinite : session.All Value.IsFinite)
    (hLegible : session.All Value.IsLegible) :
    session.reading = session := by
  have hFlags :
      session.flags.map Value.reading = session.flags :=
    Dict.map_eq_self (fun entry hMem =>
      Value.reading_eq_self (hFinite.flags entry hMem)
        (hLegible.flags entry hMem))
  have hStates :
      session.thingStates.map ThingState.reading =
        session.thingStates := by
    apply Dict.map_eq_self
    intro entry hMem
    have hCustom :
        entry.2.customState.map Value.reading =
          entry.2.customState :=
      Dict.map_eq_self (fun custom hCustom =>
        Value.reading_eq_self
          (hFinite.states entry hMem custom hCustom)
          (hLegible.states entry hMem custom hCustom))
    rw [ThingState.reading, hCustom]
  rw [reading, hFlags, hStates]

/- A session of finite values is read back. -/
theorem Session.ofJson?_toJson
    {session : Session}
    (hFinite : session.All Value.IsFinite) :
    Session.ofJson? session.toJson = some session := by
  have hReadId :
      SessionId.ofJson? session.id.toJson = some session.id :=
    session.id.ofText?_text
  have hPrevious :
      Json.nullable? Json.string?
          (Json.ofOption .string session.previousRoom) =
        some session.previousRoom :=
    Json.nullable?_ofOption (by simp) (fun _ _ => rfl)
  have hSuspended :
      Json.nullable? PlayerState.ofJson?
          (Json.ofOption PlayerState.toJson
            session.suspendedState) =
        some session.suspendedState :=
    Json.nullable?_ofOption (by simp [PlayerState.toJson])
      (fun state _ => state.ofJson?_toJson)
  have hFlags := Dict.dict?_ofDict hFinite.flags
  have hStates :
      Json.dict? ThingState.ofJson?
          (Json.ofDict ThingState.toJson
            session.thingStates) =
        some session.thingStates :=
    Json.dict?_ofDict (fun entry hMem =>
      ThingState.ofJson?_toJson (hFinite.states entry hMem))
  have hNodup :
      ["sessionId", "currentRoom", "previousRoom",
        "inventory", "worn", "playerState", "suspendedState",
        "flags", "solvedPuzzles", "turn", "visitedRooms",
        "objectStates", "openedExits"].Nodup := by
    decide
  rw [Session.ofJson?, Session.toJson]
  refine Record.bind_ofJson? hNodup rfl ?_
  refine Record.bind_required? hNodup (by simp)
    hReadId ?_
  refine Record.bind_required? hNodup (by simp)
    (Json.string?_string session.currentRoom) ?_
  refine Record.bind_withDefault? hNodup (by simp)
    hPrevious ?_
  refine Record.bind_withDefault? hNodup (by simp)
    (Json.strings?_ofStrings session.inventory) ?_
  refine Record.bind_withDefault? hNodup (by simp)
    (Json.strings?_ofStrings session.worn) ?_
  refine Record.bind_withDefault? hNodup (by simp)
    session.playerState.ofJson?_toJson ?_
  refine Record.bind_withDefault? hNodup (by simp)
    hSuspended ?_
  refine Record.bind_withDefault? hNodup (by simp)
    hFlags ?_
  refine Record.bind_withDefault? hNodup (by simp)
    (Json.strings?_ofStrings session.solvedPuzzles) ?_
  refine Record.bind_withDefault? hNodup (by simp)
    (Json.uint64?_toNat session.turn) ?_
  refine Record.bind_withDefault? hNodup (by simp)
    (Json.strings?_ofStrings session.visitedRooms) ?_
  refine Record.bind_withDefault? hNodup (by simp)
    hStates ?_
  refine Record.bind_withDefault? hNodup (by simp)
    (Json.strings?_ofStrings session.openedExits) ?_
  rfl

/- The text of a session of finite values can be read. -/
theorem Session.hasReading_toJson
    {session : Session}
    (hFinite : session.All Value.IsFinite)
    (hReadings : session.All Value.HasReading) :
    Json.HasReading session.toJson := by
  have hPrevious :
      Json.HasReading
        (Json.ofOption .string session.previousRoom) :=
    Json.hasReading_ofOption (fun _ => by trivial) _
  have hSuspended :
      Json.HasReading
        (Json.ofOption PlayerState.toJson
          session.suspendedState) :=
    Json.hasReading_ofOption (fun _ => by trivial) _
  have hFlags :=
    Dict.hasReading_ofDict hFinite.flags hReadings.flags
  have hTurn :
      FitsNumber session.turn.toNat :=
    fitsNumber_of_lt session.turn.toNat_lt
  have hStates :
      Json.HasReading
        (Json.ofDict ThingState.toJson session.thingStates) :=
    Json.hasReading_ofDict (fun entry hMem =>
      ThingState.hasReading_toJson (hFinite.states entry hMem)
        (hReadings.states entry hMem))
  simp only [toJson, SessionId.toJson, PlayerState.toJson,
    Json.HasReading, Json.MembersHaveReadings,
    Json.hasReading_ofStrings, true_and, and_true]
  exact ⟨hPrevious, hSuspended, hFlags, hTurn, hStates⟩

/- It is read as the text of the session as it is read. -/
theorem Session.reading_toJson
    {session : Session}
    (hFinite : session.All Value.IsFinite)
    (hReadings : session.All Value.HasReading) :
    session.toJson.reading = session.reading.toJson := by
  have hStrings := Json.reading_ofStrings
  have hPrevious :
      (Json.ofOption .string session.previousRoom).reading =
        Json.ofOption .string session.previousRoom :=
    Json.reading_ofOption (fun _ => rfl) _
  have hSuspended :
      (Json.ofOption PlayerState.toJson
          session.suspendedState).reading =
        Json.ofOption PlayerState.toJson
          session.suspendedState :=
    Json.reading_ofOption (fun _ => rfl) _
  have hFlags :=
    Dict.reading_ofDict hFinite.flags hReadings.flags
  have hStates :
      (Json.ofDict ThingState.toJson
          session.thingStates).reading =
        Json.ofDict ThingState.toJson
          (session.thingStates.map ThingState.reading) :=
    Json.reading_ofDict (fun entry hMem =>
      ThingState.reading_toJson (hFinite.states entry hMem)
        (hReadings.states entry hMem))
  unfold Json.reading at *
  simp only [toJson, reading, SessionId.toJson,
    PlayerState.toJson, Json.mapDoubles, Json.mapMembers,
    hStrings, hPrevious, hSuspended, hFlags, hStates]

------------------------------------------------------------
-- Depth
------------------------------------------------------------

namespace Json

variable {α : Type} {encode : α → Json} {depth : Nat}

theorem fitsDepth_ofStrings
    (depth : Nat)
    (texts : List String) :
    FitsDepth (depth + 1) (ofStrings texts) := by
  unfold ofStrings ofList FitsDepth
  induction texts with
  | nil => simp [AllFitDepth]
  | cons text rest ih =>
      simp only [List.map_cons, AllFitDepth]
      exact ⟨by simp [FitsDepth], ih⟩

theorem fitsDepth_ofOption
    (hFits : ∀ value, FitsDepth depth (encode value))
    (value : Option α) :
    FitsDepth depth (ofOption encode value) := by
  cases value with
  | none => simp [ofOption, FitsDepth]
  | some value => exact hFits value

theorem fitsDepth_ofDict
    (hFits : ∀ value, FitsDepth depth (encode value))
    (dict : Dict α) :
    FitsDepth (depth + 1) (ofDict encode dict) := by
  unfold ofDict FitsDepth
  generalize dict.entries = entries
  induction entries with
  | nil => simp [MembersFitDepth]
  | cons entry rest ih =>
      simp only [List.map_cons, MembersFitDepth]
      exact ⟨hFits entry.2, ih⟩

end Json

theorem Value.fitsDepth_toJson (value : Value) (depth : Nat) :
    FitsDepth depth value.toJson := by
  cases value <;> simp [toJson, FitsDepth]

theorem ThingState.fitsDepth_toJson
    (state : ThingState)
    (depth : Nat) :
    FitsDepth (depth + 2) state.toJson := by
  have hPlacement :
      FitsDepth (depth + 1) state.placement.toJson := by
    cases state.placement <;>
      simp [Placement.toJson, FitsDepth, Json.MembersFitDepth]
  have hCustom :
      FitsDepth (depth + 1)
        (Json.ofDict Value.toJson state.customState) :=
    Json.fitsDepth_ofDict
      (fun value => value.fitsDepth_toJson depth) _
  simp only [toJson, FitsDepth, Json.MembersFitDepth]
  simp [hPlacement, hCustom]

theorem Session.fitsDepth_toJson
    (session : Session)
    (depth : Nat) :
    FitsDepth (depth + 4) session.toJson := by
  have hStrings (texts : List String) :
      FitsDepth (depth + 3) (Json.ofStrings texts) :=
    Json.fitsDepth_ofStrings (depth + 2) texts
  have hPrevious :
      FitsDepth (depth + 3)
        (Json.ofOption .string session.previousRoom) :=
    Json.fitsDepth_ofOption (by simp [FitsDepth]) _
  have hSuspended :
      FitsDepth (depth + 3)
        (Json.ofOption PlayerState.toJson
          session.suspendedState) :=
    Json.fitsDepth_ofOption
      (by simp [PlayerState.toJson, FitsDepth]) _
  have hFlags :
      FitsDepth (depth + 3)
        (Json.ofDict Value.toJson session.flags) :=
    Json.fitsDepth_ofDict
      (fun value => value.fitsDepth_toJson (depth + 2)) _
  have hStates :
      FitsDepth (depth + 3)
        (Json.ofDict ThingState.toJson session.thingStates) :=
    Json.fitsDepth_ofDict
      (fun state => state.fitsDepth_toJson depth) _
  simp only [toJson, FitsDepth, Json.MembersFitDepth]
  simp [hStrings, hPrevious, hSuspended, hFlags, hStates,
    SessionId.toJson, PlayerState.toJson, FitsDepth]

theorem SavedGame.fitsDepth_toJson
    (save : SavedGame)
    (depth : Nat) :
    FitsDepth (depth + 5) save.toJson := by
  have hSession := save.session.fitsDepth_toJson depth
  simp only [toJson, FitsDepth, Json.MembersFitDepth]
  simp [hSession, Timestamp.toJson, FitsDepth]

------------------------------------------------------------
-- Saved Games
------------------------------------------------------------

theorem SavedGame.ofJson?_toJson
    {save : SavedGame}
    (hTime :
      Timestamp.ofText? save.savedAt.text = some save.savedAt)
    (hSession :
      Session.ofJson? save.session.toJson =
        some save.session) :
    SavedGame.ofJson? save.toJson = some save := by
  have hReadTime :
      Timestamp.ofJson? save.savedAt.toJson =
        some save.savedAt := by
    rw [Timestamp.ofJson?, Timestamp.toJson, Json.string?,
      Option.bind_some, hTime]
  have hNodup :
      ["version", "savedAt", "state"].Nodup := by
    decide
  rw [SavedGame.ofJson?, SavedGame.toJson]
  refine Record.bind_ofJson? hNodup rfl ?_
  refine Record.bind_required? hNodup (by simp)
    (Json.uint32?_toNat save.version) ?_
  refine Record.bind_required? hNodup (by simp)
    hReadTime ?_
  refine Record.bind_required? hNodup (by simp)
    hSession ?_
  rfl

/- The text of a save of finite values can be read. -/
theorem SavedGame.hasReading_toJson
    {save : SavedGame}
    (hFinite : save.session.All Value.IsFinite)
    (hReadings : save.session.All Value.HasReading) :
    Json.HasReading save.toJson := by
  have hVersion :
      FitsNumber save.version.toNat :=
    fitsNumber_of_lt
      (Nat.lt_trans save.version.toNat_lt (by decide))
  have hSession :=
    Session.hasReading_toJson hFinite hReadings
  simpa only [toJson, Timestamp.toJson, Json.HasReading,
    Json.MembersHaveReadings, true_and, and_true] using
    And.intro hVersion hSession

/-
  A saved game is read from its text, with its session as
  that is read, if the text of its time is read as the time.
-/
theorem SavedGame.ofText_text
    {time : Timestamp}
    {session : Session}
    (hTime : Timestamp.ofText? time.text = some time)
    (hFinite : session.All Value.IsFinite)
    (hReadings : session.All Value.HasReading) :
    SavedGame.ofText (SavedGame.ofSession time session).text =
      .ok (SavedGame.ofSession time session.reading) := by
  have hSession := Session.reading_toJson hFinite hReadings
  have hJson :
      (SavedGame.ofSession time session).toJson.reading =
        (SavedGame.ofSession time session.reading).toJson := by
    unfold Json.reading at hSession ⊢
    simp only [toJson, ofSession, Timestamp.toJson,
      Json.mapDoubles, Json.mapMembers, hSession]
  have hText :
      Json.parse? (SavedGame.ofSession time session).text =
        some
          (SavedGame.ofSession time session.reading).toJson :=
    (Json.parse?_pretty (SavedGame.fitsDepth_toJson _ 122)
      (SavedGame.hasReading_toJson hFinite hReadings)).trans
        (congrArg some hJson)
  have hRead :
      SavedGame.ofJson?
          (SavedGame.ofSession time session.reading).toJson =
        some (SavedGame.ofSession time session.reading) :=
    SavedGame.ofJson?_toJson hTime
      (Session.ofJson?_toJson
        (Session.isFinite_reading hFinite hReadings))
  rw [SavedGame.ofText, hText, Option.bind_some, hRead]
  rfl

end TextAdventure
