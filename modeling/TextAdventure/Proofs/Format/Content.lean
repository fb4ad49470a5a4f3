import TextAdventure.Proofs.Content.Finite
import TextAdventure.Proofs.Format.Flags

/-
  Content and saved games are read back as written.

  Every kind of entity comes back from its written form, a
  variant as the same variant and an absent part as absent.
  Only a double that is infinite or not a number is lost, and
  with it all that holds it.

  Main declarations:
    * `Value.ofJson?_toJson_eq_ite`
    * `Effect.ofJson?_toJson`
    * `Room.ofJson?_toJson` and `Thing.ofJson?_toJson`
    * `Puzzle.ofJson?_toJson`
    * `Content.ofJson?_toJson_iff`
    * `SavedGame.ofJson?_toJson_iff`
    * `encoding_loses_no_finite_value`
-/

namespace TextAdventure

open Json (Record nullable? string? ofOption)

------------------------------------------------------------
-- Values And Words
------------------------------------------------------------

/- A value comes back as it is or not at all. -/
theorem Value.ofJson?_toJson_eq_ite (value : Value) :
    Value.ofJson? value.toJson =
      if value.IsFinite then some value else none := by
  split
  · rename_i hFinite
    exact Value.ofJson?_toJson hFinite
  · rename_i hNot
    cases value with
    | boolean | integer | text => exact absurd trivial hNot
    | float value =>
        simp only [IsFinite, Bool.not_eq_false] at hNot
        exact if_pos hNot

theorem Value.isReadable_toJson (value : Value) :
    value.toJson.isReadable = true := by
  cases value <;> rfl

theorem Direction.ofJson?_toJson (direction : Direction) :
    Direction.ofJson? direction.toJson = some direction :=
  direction.ofName?_name

theorem Verb.ofJson?_toJson (verb : Verb) :
    Verb.ofJson? verb.toJson = some verb :=
  verb.ofName?_name

theorem ConditionKind.ofJson?_toJson (kind : ConditionKind) :
    ConditionKind.ofJson? kind.toJson = some kind :=
  kind.ofName?_name

/- An absent text comes back absent. -/
theorem Json.nullable?_ofOption_string
    (text : Option String) :
    nullable? string? (ofOption .string text) = some text :=
  nullable?_ofOption (by simp) (fun _ _ => rfl)

------------------------------------------------------------
-- Effects
------------------------------------------------------------

namespace Effect

/- All of a written effect can be read. -/
theorem isReadable_toJson (effect : Effect) :
    effect.toJson.isReadable = true := by
  cases effect with
  | setFlag flag value | setProperty thing property value =>
      simp [toJson, tagged, Json.isReadable,
        Json.membersAreReadable, value.isReadable_toJson]
  | unlockExit | revealThing | moveThing | triggerEvent =>
      rfl
  | setPlayerState state => rfl

/-
  An effect comes back as the same variant. Its kind is found
  in front, and the fields after it by their names.
-/
theorem ofJson?_toJson_eq_ite (effect : Effect) :
    ofJson? effect.toJson =
      if effect.Grants Value.IsFinite then some effect
      else none := by
  rw [ofJson?, if_pos effect.isReadable_toJson]
  cases effect with
  | unlockExit exit => rfl
  | revealThing thing => rfl
  | setFlag flag value =>
      have hRead :
          ofReadable? (setFlag flag value).toJson =
            (Value.ofJson? value.toJson).bind
              (fun value => some (.setFlag flag value)) := rfl
      rw [hRead, value.ofJson?_toJson_eq_ite]
      by_cases hFinite : value.IsFinite <;>
        simp [Grants, hFinite]
  | moveThing thing room => rfl
  | triggerEvent event => rfl
  | setProperty thing property value =>
      have hRead :
          ofReadable?
              (setProperty thing property value).toJson =
            (Value.ofJson? value.toJson).bind
              (fun value =>
                some (.setProperty thing property value)) :=
        rfl
      rw [hRead, value.ofJson?_toJson_eq_ite]
      by_cases hFinite : value.IsFinite <;>
        simp [Grants, hFinite]
  | setPlayerState state => cases state <;> rfl

theorem ofJson?_toJson
    {effect : Effect}
    (hFinite : effect.Grants Value.IsFinite) :
    ofJson? effect.toJson = some effect := by
  rw [ofJson?_toJson_eq_ite, if_pos hFinite]

theorem list?_ofList
    {effects : List Effect}
    (hFinite :
      ∀ effect ∈ effects, effect.Grants Value.IsFinite) :
    Json.list? Effect.ofJson?
        (Json.ofList Effect.toJson effects) =
      some effects :=
  Json.list?_ofList (fun effect hMem =>
    ofJson?_toJson (hFinite effect hMem))

end Effect

------------------------------------------------------------
-- Rooms And Things
------------------------------------------------------------

/- An exit comes back, with a door or without one. -/
theorem Exit.ofJson?_toJson (exit : Exit) :
    Exit.ofJson? exit.toJson = some exit := by
  have hNodup :
      ["direction", "destination", "door", "blocked",
        "blockedMessage"].Nodup := by
    decide
  rw [Exit.ofJson?, Exit.toJson]
  refine Record.bind_ofJson? hNodup rfl ?_
  refine Record.bind_required? hNodup (by simp)
    exit.direction.ofJson?_toJson ?_
  refine Record.bind_required? hNodup (by simp)
    (Json.string?_string exit.destination) ?_
  refine Record.bind_withDefault? hNodup (by simp)
    (Json.nullable?_ofOption_string exit.door) ?_
  refine Record.bind_withDefault? hNodup (by simp)
    (Json.bool?_bool exit.blocked) ?_
  refine Record.bind_withDefault? hNodup (by simp)
    (Json.nullable?_ofOption_string exit.blockedMessage) ?_
  rfl

theorem Room.ofJson?_toJson (room : Room) :
    Room.ofJson? room.toJson = some room := by
  have hExits :
      Json.list? Exit.ofJson?
          (Json.ofList Exit.toJson room.exits) =
        some room.exits :=
    Json.list?_ofList (fun exit _ => exit.ofJson?_toJson)
  have hNodup :
      ["id", "name", "region", "description", "darkDescription",
        "isDark", "visited", "exits", "objects",
        "layer"].Nodup := by
    decide
  rw [Room.ofJson?, Room.toJson]
  refine Record.bind_ofJson? hNodup rfl ?_
  refine Record.bind_required? hNodup (by simp)
    (Json.string?_string room.id) ?_
  refine Record.bind_required? hNodup (by simp)
    (Json.string?_string room.name) ?_
  refine Record.bind_withDefault? hNodup (by simp)
    (Json.string?_string room.region) ?_
  refine Record.bind_withDefault? hNodup (by simp)
    (Json.string?_string room.description) ?_
  refine Record.bind_withDefault? hNodup (by simp)
    (Json.nullable?_ofOption_string room.darkDescription) ?_
  refine Record.bind_withDefault? hNodup (by simp)
    (Json.bool?_bool room.isDark) ?_
  refine Record.bind_withDefault? hNodup (by simp)
    (Json.bool?_bool room.visited) ?_
  refine Record.bind_withDefault? hNodup (by simp)
    hExits ?_
  refine Record.bind_withDefault? hNodup (by simp)
    (Json.strings?_ofStrings room.things) ?_
  refine Record.bind_withDefault? hNodup (by simp)
    (Json.uint32?_toNat room.layer) ?_
  rfl

/- A thing comes back if its custom state does. -/
theorem Thing.ofJson?_toJson
    {thing : Thing}
    (hFinite : thing.customState.All Value.IsFinite) :
    Thing.ofJson? thing.toJson = some thing := by
  have hCustom := Dict.dict?_ofDict hFinite
  -- Field by field, in the order in which they are written.
  have hNodup :
      ["id", "name", "aliases", "description", "text",
        "placement", "hidden", "isWearable", "isWorn",
        "isOpenable", "isOpen", "isLockable", "isLocked",
        "isLit", "isFixed", "isScenery", "isContainer",
        "isSwitchable", "isSwitchedOn",
        "customState"].Nodup := by
    decide
  rw [Thing.ofJson?, Thing.toJson]
  refine Record.bind_ofJson? hNodup rfl ?_
  refine Record.bind_withDefault? hNodup (by simp)
    (Json.string?_string thing.id) ?_
  refine Record.bind_withDefault? hNodup (by simp)
    (Json.string?_string thing.name) ?_
  refine Record.bind_withDefault? hNodup (by simp)
    (Json.strings?_ofStrings thing.aliases) ?_
  refine Record.bind_withDefault? hNodup (by simp)
    (Json.string?_string thing.description) ?_
  refine Record.bind_withDefault? hNodup (by simp)
    (Json.nullable?_ofOption_string thing.text) ?_
  refine Record.bind_withDefault? hNodup (by simp)
    thing.placement.ofJson?_toJson ?_
  refine Record.bind_withDefault? hNodup (by simp)
    (Json.bool?_bool thing.hidden) ?_
  refine Record.bind_withDefault? hNodup (by simp)
    (Json.bool?_bool thing.isWearable) ?_
  refine Record.bind_withDefault? hNodup (by simp)
    (Json.bool?_bool thing.isWorn) ?_
  refine Record.bind_withDefault? hNodup (by simp)
    (Json.bool?_bool thing.isOpenable) ?_
  refine Record.bind_withDefault? hNodup (by simp)
    (Json.bool?_bool thing.isOpen) ?_
  refine Record.bind_withDefault? hNodup (by simp)
    (Json.bool?_bool thing.isLockable) ?_
  refine Record.bind_withDefault? hNodup (by simp)
    (Json.bool?_bool thing.isLocked) ?_
  refine Record.bind_withDefault? hNodup (by simp)
    (Json.bool?_bool thing.isLit) ?_
  refine Record.bind_withDefault? hNodup (by simp)
    (Json.bool?_bool thing.isFixed) ?_
  refine Record.bind_withDefault? hNodup (by simp)
    (Json.bool?_bool thing.isScenery) ?_
  refine Record.bind_withDefault? hNodup (by simp)
    (Json.bool?_bool thing.isContainer) ?_
  refine Record.bind_withDefault? hNodup (by simp)
    (Json.bool?_bool thing.isSwitchable) ?_
  refine Record.bind_withDefault? hNodup (by simp)
    (Json.bool?_bool thing.isSwitchedOn) ?_
  refine Record.bind_withDefault? hNodup (by simp)
    hCustom ?_
  rfl

------------------------------------------------------------
-- Puzzles And Scripts
------------------------------------------------------------

theorem Condition.ofJson?_toJson
    {condition : Condition}
    (hFinite : condition.value.IsFinite) :
    Condition.ofJson? condition.toJson = some condition := by
  have hValue := Value.ofJson?_toJson hFinite
  have hNodup :
      ["kind", "target", "property", "value"].Nodup := by
    decide
  rw [Condition.ofJson?, Condition.toJson]
  refine Record.bind_ofJson? hNodup rfl ?_
  refine Record.bind_required? hNodup (by simp)
    condition.kind.ofJson?_toJson ?_
  refine Record.bind_required? hNodup (by simp)
    (Json.string?_string condition.target) ?_
  refine Record.bind_withDefault? hNodup (by simp)
    (Json.nullable?_ofOption_string condition.property) ?_
  refine Record.bind_withDefault? hNodup (by simp)
    hValue ?_
  rfl

theorem Puzzle.ofJson?_toJson
    {puzzle : Puzzle}
    (hFinite : puzzle.AllFinite) :
    Puzzle.ofJson? puzzle.toJson = some puzzle := by
  have hConditions :
      Json.list? Condition.ofJson?
          (Json.ofList Condition.toJson puzzle.conditions) =
        some puzzle.conditions :=
    Json.list?_ofList (fun condition hMem =>
      Condition.ofJson?_toJson
        (hFinite.conditions condition hMem))
  have hEffects := Effect.list?_ofList hFinite.effects
  have hNodup :
      ["id", "name", "solved", "conditions", "effects", "hint",
        "message", "dependsOn", "layer"].Nodup := by
    decide
  rw [Puzzle.ofJson?, Puzzle.toJson]
  refine Record.bind_ofJson? hNodup rfl ?_
  refine Record.bind_required? hNodup (by simp)
    (Json.string?_string puzzle.id) ?_
  refine Record.bind_required? hNodup (by simp)
    (Json.string?_string puzzle.name) ?_
  refine Record.bind_withDefault? hNodup (by simp)
    (Json.bool?_bool puzzle.solved) ?_
  refine Record.bind_withDefault? hNodup (by simp)
    hConditions ?_
  refine Record.bind_withDefault? hNodup (by simp)
    hEffects ?_
  refine Record.bind_withDefault? hNodup (by simp)
    (Json.nullable?_ofOption_string puzzle.hint) ?_
  refine Record.bind_withDefault? hNodup (by simp)
    (Json.nullable?_ofOption_string puzzle.message) ?_
  refine Record.bind_withDefault? hNodup (by simp)
    (Json.strings?_ofStrings puzzle.dependsOn) ?_
  refine Record.bind_withDefault? hNodup (by simp)
    (Json.uint32?_toNat puzzle.layer) ?_
  rfl

theorem Script.ofJson?_toJson
    {script : Script}
    (hFinite :
      ∀ effect ∈ script.effects,
        effect.Grants Value.IsFinite) :
    Script.ofJson? script.toJson = some script := by
  have hEffects := Effect.list?_ofList hFinite
  have hNodup :
      ["object", "verb", "once", "message",
        "effects"].Nodup := by
    decide
  rw [Script.ofJson?, Script.toJson]
  refine Record.bind_ofJson? hNodup rfl ?_
  refine Record.bind_required? hNodup (by simp)
    (Json.string?_string script.thing) ?_
  refine Record.bind_required? hNodup (by simp)
    script.verb.ofJson?_toJson ?_
  refine Record.bind_withDefault? hNodup (by simp)
    (Json.bool?_bool script.once) ?_
  refine Record.bind_withDefault? hNodup (by simp)
    (Json.nullable?_ofOption_string script.message) ?_
  refine Record.bind_withDefault? hNodup (by simp)
    hEffects ?_
  rfl

------------------------------------------------------------
-- Content
------------------------------------------------------------

theorem DreamRule.ofJson?_toJson (rule : DreamRule) :
    DreamRule.ofJson? rule.toJson = some rule := rfl

theorem VoidRule.ofJson?_toJson (rule : VoidRule) :
    VoidRule.ofJson? rule.toJson = some rule := rfl

theorem StoryRules.ofJson?_toJson (rules : StoryRules) :
    StoryRules.ofJson? rules.toJson = some rules := by
  have hDream :
      nullable? DreamRule.ofJson?
          (ofOption DreamRule.toJson rules.dream) =
        some rules.dream :=
    Json.nullable?_ofOption (by simp [DreamRule.toJson])
      (fun rule _ => rule.ofJson?_toJson)
  have hVoid :
      nullable? VoidRule.ofJson?
          (ofOption VoidRule.toJson rules.void) =
        some rules.void :=
    Json.nullable?_ofOption (by simp [VoidRule.toJson])
      (fun rule _ => rule.ofJson?_toJson)
  have hNodup :
      ["startRoom", "dream", "void"].Nodup := by
    decide
  rw [StoryRules.ofJson?, StoryRules.toJson]
  refine Record.bind_ofJson? hNodup rfl ?_
  refine Record.bind_withDefault? hNodup (by simp)
    (Json.string?_string rules.startRoom) ?_
  refine Record.bind_withDefault? hNodup (by simp)
    hDream ?_
  refine Record.bind_withDefault? hNodup (by simp)
    hVoid ?_
  rfl

theorem Content.ofJson?_toJson
    {content : Content}
    (hFinite : content.AllFinite) :
    Content.ofJson? content.toJson = some content := by
  have hRooms :
      Json.list? Room.ofJson?
          (Json.ofList Room.toJson content.rooms) =
        some content.rooms :=
    Json.list?_ofList (fun room _ => room.ofJson?_toJson)
  have hThings :
      Json.list? Thing.ofJson?
          (Json.ofList Thing.toJson content.things) =
        some content.things :=
    Json.list?_ofList (fun thing hMem =>
      Thing.ofJson?_toJson (hFinite.things thing hMem))
  have hPuzzles :
      Json.list? Puzzle.ofJson?
          (Json.ofList Puzzle.toJson content.puzzles) =
        some content.puzzles :=
    Json.list?_ofList (fun puzzle hMem =>
      Puzzle.ofJson?_toJson (hFinite.puzzles puzzle hMem))
  have hScripts :
      Json.list? Script.ofJson?
          (Json.ofList Script.toJson content.scripts) =
        some content.scripts :=
    Json.list?_ofList (fun script hMem =>
      Script.ofJson?_toJson (hFinite.scripts script hMem))
  have hNodup :
      ["rules", "rooms", "objects", "puzzles",
        "scripts"].Nodup := by
    decide
  rw [Content.ofJson?, Content.toJson]
  refine Record.bind_ofJson? hNodup rfl ?_
  refine Record.bind_withDefault? hNodup (by simp)
    content.rules.ofJson?_toJson ?_
  refine Record.bind_withDefault? hNodup (by simp)
    hRooms ?_
  refine Record.bind_withDefault? hNodup (by simp)
    hThings ?_
  refine Record.bind_withDefault? hNodup (by simp)
    hPuzzles ?_
  refine Record.bind_withDefault? hNodup (by simp)
    hScripts ?_
  rfl

------------------------------------------------------------
-- What Is Read
------------------------------------------------------------

/- Content that is read holds finite values only. -/
theorem Content.allFinite_of_ofJson?
    {json : Json}
    {content : Content}
    (hRead : Content.ofJson? json = some content) :
    content.AllFinite := by
  simp only [Content.ofJson?, Option.bind_eq_bind,
    Option.bind_eq_some_iff] at hRead
  rcases hRead with
    ⟨fields, -, rules, -, rooms, -, things, hThings,
      puzzles, hPuzzles, scripts, hScripts, hContent⟩
  cases hContent
  exact
    { things :=
        Record.of_withDefault? (by simp)
          (fun _ _ => Json.forall_of_list?
            (fun _ _ => Thing.isFinite_of_ofJson?)) hThings
      puzzles :=
        Record.of_withDefault? (by simp)
          (fun _ _ => Json.forall_of_list?
            (fun _ _ => Puzzle.allFinite_of_ofJson?)) hPuzzles
      scripts :=
        Record.of_withDefault? (by simp)
          (fun _ _ => Json.forall_of_list?
            (fun _ _ => Script.grants_of_ofJson?)) hScripts }

/- The values of a dictionary in a field are finite. -/
theorem Record.allFinite_of_withDefault?
    {record : Record}
    {name : String}
    {dict : Dict Value}
    (hRead :
      record.withDefault? name .empty
        (Json.dict? Value.ofJson?) = some dict) :
    dict.All Value.IsFinite :=
  Record.of_withDefault? Dict.all_empty
    (fun _ _ => Json.all_of_dict?
      (fun _ _ => Value.isFinite_of_ofJson?)) hRead

theorem ThingState.isFinite_of_ofJson?
    {json : Json}
    {state : ThingState}
    (hRead : ThingState.ofJson? json = some state) :
    state.customState.All Value.IsFinite := by
  simp only [ThingState.ofJson?, Option.bind_eq_bind,
    Option.bind_eq_some_iff] at hRead
  rcases hRead with
    ⟨fields, -, placement, -, hidden, -, worn, -, isOpen, -,
      locked, -, lit, -, switchedOn, -, custom, hCustom,
      hState⟩
  cases hState
  exact Record.allFinite_of_withDefault? hCustom

/- A session that is read holds finite values only. -/
theorem Session.allFinite_of_ofJson?
    {json : Json}
    {session : Session}
    (hRead : Session.ofJson? json = some session) :
    session.All Value.IsFinite := by
  -- The flags are the ninth of fourteen parts, and the states
  -- of the things are the thirteenth.
  unfold Session.ofJson? at hRead
  iterate 8
    obtain ⟨_, -, hRead⟩ := Option.bind_eq_some_iff.mp hRead
  rcases Option.bind_eq_some_iff.mp hRead with
    ⟨flags, hFlags, hRead⟩
  iterate 3
    obtain ⟨_, -, hRead⟩ := Option.bind_eq_some_iff.mp hRead
  rcases Option.bind_eq_some_iff.mp hRead with
    ⟨states, hStates, hRead⟩
  rcases Option.bind_eq_some_iff.mp hRead with
    ⟨opened, -, hSession⟩
  cases hSession
  exact
    { flags := Record.allFinite_of_withDefault? hFlags
      states :=
        Record.of_withDefault? Dict.all_empty
          (fun _ _ => Json.all_of_dict?
            (fun _ _ => ThingState.isFinite_of_ofJson?))
          hStates }

------------------------------------------------------------
-- What Comes Back
------------------------------------------------------------

theorem Content.ofJson?_toJson_iff (content : Content) :
    Content.ofJson? content.toJson = some content ↔
      content.AllFinite :=
  ⟨Content.allFinite_of_ofJson?, Content.ofJson?_toJson⟩

theorem Session.ofJson?_toJson_iff (session : Session) :
    Session.ofJson? session.toJson = some session ↔
      session.All Value.IsFinite :=
  ⟨Session.allFinite_of_ofJson?, Session.ofJson?_toJson⟩

/- A saved game comes back if its time and session do. -/
theorem SavedGame.ofJson?_toJson_iff (save : SavedGame) :
    SavedGame.ofJson? save.toJson = some save ↔
      Timestamp.ofText? save.savedAt.text =
          some save.savedAt ∧
        save.session.All Value.IsFinite := by
  constructor
  · intro hRead
    have hNodup :
        ["version", "savedAt", "state"].Nodup := by
      decide
    rcases save with ⟨version, savedAt, session⟩
    rw [SavedGame.ofJson?, SavedGame.toJson,
      Record.ofJson?_object hNodup rfl, Option.bind_eq_bind,
      Option.bind_some] at hRead
    rcases Option.bind_eq_some_iff.mp hRead with
      ⟨_, -, hRead⟩
    rcases Option.bind_eq_some_iff.mp hRead with
      ⟨readTime, hTime, hRead⟩
    rcases Option.bind_eq_some_iff.mp hRead with
      ⟨readSession, hSession, hSave⟩
    cases hSave
    have hField :
        Record.field?
            ⟨[("version", .integer version.toNat),
              ("savedAt", savedAt.toJson),
              ("state", session.toJson)], true⟩ "savedAt" =
          some savedAt.toJson :=
      Record.field?_of_mem hNodup (by simp)
    rw [Record.required?, hField, Option.bind_eq_bind,
      Option.bind_some, Timestamp.ofJson?, Timestamp.toJson,
      Json.string?, Option.bind_some] at hTime
    exact ⟨hTime, Record.of_required?
      (fun _ _ => Session.allFinite_of_ofJson?) hSession⟩
  · rintro ⟨hTime, hFinite⟩
    exact SavedGame.ofJson?_toJson hTime
      (Session.ofJson?_toJson hFinite)

/-
  Content and saved games come back as they were from their
  written forms exactly if all their values are finite and,
  for a saved game, the text of its time is read as the time.
  Each value and each effect comes back as it was or, if it
  is not finite, not at all, and every placement comes back.
-/
theorem encoding_loses_no_finite_value
    (content : Content)
    (save : SavedGame)
    (value : Value)
    (effect : Effect)
    (placement : Placement) :
    (Content.ofJson? content.toJson = some content ↔
      content.AllFinite) ∧
    (SavedGame.ofJson? save.toJson = some save ↔
      Timestamp.ofText? save.savedAt.text =
          some save.savedAt ∧
        save.session.All Value.IsFinite) ∧
    (Value.ofJson? value.toJson =
      if value.IsFinite then some value else none) ∧
    (Effect.ofJson? effect.toJson =
      if effect.Grants Value.IsFinite then some effect
      else none) ∧
    Placement.ofJson? placement.toJson = some placement :=
  ⟨content.ofJson?_toJson_iff, save.ofJson?_toJson_iff,
    value.ofJson?_toJson_eq_ite,
    effect.ofJson?_toJson_eq_ite, placement.ofJson?_toJson⟩

end TextAdventure
