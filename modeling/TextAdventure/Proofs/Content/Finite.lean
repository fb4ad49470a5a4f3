import TextAdventure.Proofs.Chain
import TextAdventure.Proofs.Format.Session
import TextAdventure.Proofs.Game.Run

/-
  The values that content brings into a game are finite.

  Content is built in, or it comes from JSON, which has no
  infinite number. So what things hold to begin with, what
  conditions compare with and what effects write can be saved
  and read back.

  Main declarations:
    * `Puzzle.AllFinite`
    * `Content.AllFinite`
    * `Settings.content_allFinite`
    * `Content.AllFinite.grants_ofContent`
-/

namespace TextAdventure

open Json (Record)

/-
  All values of a puzzle are finite, those that it compares
  with and those that it writes.
-/
structure Puzzle.AllFinite (puzzle : Puzzle) : Prop where
  conditions :
    ∀ condition ∈ puzzle.conditions, condition.value.IsFinite
  effects :
    ∀ effect ∈ puzzle.effects, effect.Grants Value.IsFinite

/- All values in content are finite. -/
structure Content.AllFinite (content : Content) : Prop where
  things :
    ∀ thing ∈ content.things,
      thing.customState.All Value.IsFinite
  puzzles : ∀ puzzle ∈ content.puzzles, puzzle.AllFinite
  scripts :
    ∀ script ∈ content.scripts,
      ∀ effect ∈ script.effects, effect.Grants Value.IsFinite

------------------------------------------------------------
-- Entities That Are Read
------------------------------------------------------------

theorem Record.isFinite_of_withDefault?
    {record : Record}
    {name : String}
    {value : Value}
    (hRead :
      record.withDefault? name (.boolean true)
        Value.ofJson? = some value) :
    value.IsFinite :=
  Record.of_withDefault? trivial
    (fun _ _ => Value.isFinite_of_ofJson?) hRead

/- The value that a read effect writes is finite. -/
theorem Effect.grants_of_ofReadable?
    {json : Json}
    {effect : Effect}
    (hRead : Effect.ofReadable? json = some effect) :
    effect.Grants Value.IsFinite := by
  unfold Effect.ofReadable? at hRead
  rcases Option.bind_eq_some_iff.mp hRead with
    ⟨kind, -, hKind⟩
  dsimp only at hKind
  split at hKind
  case h_8 => simp at hKind
  all_goals
    simp only [Option.bind_eq_bind,
      Option.bind_eq_some_iff] at hKind
  case h_3 =>
    rcases hKind with
      ⟨fields, -, flag, -, value, hValue, hEffect⟩
    cases hEffect
    exact Record.isFinite_of_withDefault? hValue
  case h_6 =>
    rcases hKind with
      ⟨fields, -, thing, -, property, -, value, hValue,
        hEffect⟩
    cases hEffect
    exact Record.isFinite_of_withDefault? hValue
  case h_4 =>
    rcases hKind with
      ⟨fields, -, thing, -, room, -, hEffect⟩
    cases hEffect
    trivial
  case h_1 | h_2 | h_5 | h_7 =>
    rcases hKind with ⟨fields, -, field, -, hEffect⟩
    cases hEffect
    trivial

theorem Effect.grants_of_ofJson?
    {json : Json}
    {effect : Effect}
    (hRead : Effect.ofJson? json = some effect) :
    effect.Grants Value.IsFinite := by
  unfold Effect.ofJson? at hRead
  split at hRead
  · exact Effect.grants_of_ofReadable? hRead
  · simp at hRead

/- The effects that a field lists write finite values. -/
theorem Record.grants_of_withDefault?
    {record : Record}
    {name : String}
    {effects : List Effect}
    (hRead :
      record.withDefault? name []
        (Json.list? Effect.ofJson?) = some effects) :
    ∀ effect ∈ effects, effect.Grants Value.IsFinite :=
  Record.of_withDefault? (by simp)
    (fun _ _ => Json.forall_of_list?
      (fun _ _ => Effect.grants_of_ofJson?)) hRead

theorem Thing.isFinite_of_ofJson?
    {json : Json}
    {thing : Thing}
    (hRead : Thing.ofJson? json = some thing) :
    thing.customState.All Value.IsFinite := by
  -- The custom state is the last of twenty-one parts.
  unfold Thing.ofJson? at hRead
  iterate 20
    obtain ⟨_, -, hRead⟩ := Option.bind_eq_some_iff.mp hRead
  rcases Option.bind_eq_some_iff.mp hRead with
    ⟨customState, hCustom, hThing⟩
  cases hThing
  exact Record.of_withDefault? Dict.all_empty
    (fun _ _ => Json.all_of_dict?
      (fun _ _ => Value.isFinite_of_ofJson?)) hCustom

theorem Condition.isFinite_of_ofJson?
    {json : Json}
    {condition : Condition}
    (hRead : Condition.ofJson? json = some condition) :
    condition.value.IsFinite := by
  simp only [Condition.ofJson?, Option.bind_eq_bind,
    Option.bind_eq_some_iff] at hRead
  rcases hRead with
    ⟨fields, -, kind, -, target, -, property, -, value,
      hValue, hCondition⟩
  cases hCondition
  exact Record.isFinite_of_withDefault? hValue

theorem Puzzle.allFinite_of_ofJson?
    {json : Json}
    {puzzle : Puzzle}
    (hRead : Puzzle.ofJson? json = some puzzle) :
    puzzle.AllFinite := by
  simp only [Puzzle.ofJson?, Option.bind_eq_bind,
    Option.bind_eq_some_iff] at hRead
  rcases hRead with
    ⟨fields, -, id, -, name, -, solved, -, conditions,
      hConditions, effects, hEffects, hint, -, message, -,
      dependsOn, -, layer, -, hPuzzle⟩
  cases hPuzzle
  exact
    { conditions :=
        Record.of_withDefault? (by simp)
          (fun _ _ => Json.forall_of_list?
            (fun _ _ => Condition.isFinite_of_ofJson?))
          hConditions
      effects := Record.grants_of_withDefault? hEffects }

theorem Script.grants_of_ofJson?
    {json : Json}
    {script : Script}
    (hRead : Script.ofJson? json = some script) :
    ∀ effect ∈ script.effects,
      effect.Grants Value.IsFinite := by
  simp only [Script.ofJson?, Option.bind_eq_bind,
    Option.bind_eq_some_iff] at hRead
  rcases hRead with
    ⟨fields, -, thing, -, verb, -, once, -, message, -,
      effects, hEffects, hScript⟩
  cases hScript
  exact Record.grants_of_withDefault? hEffects

------------------------------------------------------------
-- Content That Is Loaded
------------------------------------------------------------

namespace Content

theorem allFinite_embedded : embedded.AllFinite where
  things := by decide
  puzzles := by
    have hConditions :
        ∀ puzzle ∈ embedded.puzzles,
          ∀ condition ∈ puzzle.conditions,
            condition.value.IsFinite := by
      decide
    have hEffects :
        ∀ puzzle ∈ embedded.puzzles,
          ∀ effect ∈ puzzle.effects,
            effect.Grants Value.IsFinite := by
      decide
    exact fun puzzle hMem =>
      ⟨hConditions puzzle hMem, hEffects puzzle hMem⟩
  scripts := by decide

/- The data of a section was read. -/
theorem exists_of_sectionOfText
    {α : Type}
    {file text : String}
    {decode : Json → Option α}
    {value : α}
    (hRead : sectionOfText file text decode = .ok value) :
    ∃ json, decode json = some value := by
  unfold sectionOfText at hRead
  split at hRead
  · rename_i found hFound
    cases hRead
    rcases Option.bind_eq_some_iff.mp hFound with
      ⟨json, -, hDecode⟩
    exact ⟨json, hDecode⟩
  · simp at hRead

theorem exists_of_requiredSection
    {α : Type}
    {disk : Disk}
    {directory file : String}
    {decode : Json → Option α}
    {value : α}
    (hRead :
      requiredSection disk directory file decode =
        .ok value) :
    ∃ json, decode json = some value := by
  unfold requiredSection at hRead
  split at hRead
  · exact exists_of_sectionOfText hRead
  · simp at hRead
  · simp at hRead

theorem eq_or_exists_of_optionalSection
    {α : Type}
    {disk : Disk}
    {directory file : String}
    {default : α}
    {decode : Json → Option α}
    {value : α}
    (hRead :
      optionalSection disk directory file default decode =
        .ok value) :
    value = default ∨ ∃ json, decode json = some value := by
  unfold optionalSection at hRead
  split at hRead
  · exact Or.inr (exists_of_sectionOfText hRead)
  · simp at hRead
  · exact Or.inl (Except.ok.inj hRead).symm

/- Content from files is finite, section by section. -/
theorem allFinite_of_readDirectory
    {disk : Disk}
    {directory : String}
    {content : Content}
    (hRead : readDirectory disk directory = .ok content) :
    content.AllFinite := by
  unfold readDirectory at hRead
  simp only [bind_eq_ok_iff] at hRead
  rcases hRead with
    ⟨rooms, -, things, hThings, puzzles, hPuzzles, hRest⟩
  split at hRest
  · simp at hRest
  · simp only [bind_eq_ok_iff, pure_eq_ok_iff] at hRest
    rcases hRest with ⟨scripts, hScripts, rules, -, rfl⟩
    rcases exists_of_requiredSection hThings with
      ⟨thingsJson, hThings⟩
    rcases exists_of_requiredSection hPuzzles with
      ⟨puzzlesJson, hPuzzles⟩
    refine
      { things :=
          Json.forall_of_list?
            (fun _ _ => Thing.isFinite_of_ofJson?) hThings
        puzzles :=
          Json.forall_of_list?
            (fun _ _ => Puzzle.allFinite_of_ofJson?) hPuzzles
        scripts := ?_ }
    rcases eq_or_exists_of_optionalSection hScripts with
      rfl | ⟨scriptsJson, hScripts⟩
    · simp
    · exact Json.forall_of_list?
        (fun _ _ => Script.grants_of_ofJson?) hScripts

theorem AllFinite.filterLayer
    {content : Content}
    (hFinite : content.AllFinite)
    (layer : UInt32) :
    (content.filterLayer layer).AllFinite where
  things := by
    intro thing hMem
    exact hFinite.things thing (List.mem_filter.mp hMem).1
  puzzles := by
    intro puzzle hMem
    exact hFinite.puzzles puzzle (List.mem_filter.mp hMem).1
  scripts := by
    intro script hMem
    exact hFinite.scripts script (List.mem_filter.mp hMem).1

end Content

/- Whatever the settings ask for, the content is finite. -/
theorem Settings.content_allFinite
    (settings : Settings)
    (disk : Disk) :
    (settings.content disk).AllFinite := by
  have hSource :
      (settings.source.content disk).value.AllFinite := by
    cases settings.source with
    | embedded => exact Content.allFinite_embedded
    | directory path =>
        simp only [ContentSource.content, Content.ofDirectory]
        cases hRead : Content.readDirectory disk path with
        | error fault => exact Content.allFinite_embedded
        | ok content =>
            have hFinite :=
              Content.allFinite_of_readDirectory hRead
            cases hCheck : content.validate.value with
            | error fault =>
                simp [Logged.map, Logged.bind, hCheck,
                  Content.allFinite_embedded]
            | ok done =>
                simp [Logged.map, Logged.bind, hCheck,
                  Logged.silent, hFinite]
  unfold Settings.content Settings.limitLayer
  split
  · exact hSource.filterLayer _
  · exact hSource

namespace Content.AllFinite

variable {content : Content}

/- The things of a built world hold finite values. -/
theorem things_ofContent
    (hFinite : content.AllFinite) :
    ∀ thing ∈ (World.ofContent content).things,
      thing.customState.All Value.IsFinite := by
  intro placed hMem
  rw [World.ofContent_things, List.mem_map] at hMem
  rcases hMem with ⟨thing, hThing, rfl⟩
  have hCustom :
      (placeWhereListed content.rooms thing).customState =
        thing.customState := by
    unfold placeWhereListed
    split <;> rfl
  rw [hCustom]
  exact hFinite.things thing hThing

/- In the world of finite content all that is written is. -/
theorem grants_ofContent
    (hFinite : content.AllFinite) :
    (World.ofContent content).Grants Value.IsFinite where
  boolean := fun _ => trivial
  puzzles := fun puzzle hMem =>
    (hFinite.puzzles puzzle hMem).effects
  scripts := hFinite.scripts

end Content.AllFinite

end TextAdventure
