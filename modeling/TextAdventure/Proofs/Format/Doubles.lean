import TextAdventure.Proofs.Format.Flags
import TextAdventure.Proofs.Format.Session

/-
  Saved games with doubles that have no number.

  For such a double null is read, and null is no value. So of
  all that a text of a saved game may be read as, whatever is
  made of its numbers, nothing is left if one of the values
  is not finite.

  Main declarations:
    * `Json.all_of_dict?_nulled`
    * `Session.all_isFinite_of_ofJson?`
    * `SavedGame.ofText_text_of_not_finite`
-/

namespace TextAdventure

open Json (Resembles MembersResemble Record)

------------------------------------------------------------
-- Dictionaries
------------------------------------------------------------

namespace Json

variable {α β : Type}
variable {encode : α → Json}
variable {decode : Json → Option β}
variable {good : α → Prop}

/- Where all is read, each entry passes what reading tests. -/
theorem all_of_dict?_nulled
    (hGood :
      ∀ value json read,
        Resembles (encode value).nulled json →
          decode json = some read → good value)
    {dict : Dict α}
    {read : Dict β}
    {json : Json}
    (hResembles : Resembles (ofDict encode dict).nulled json)
    (hRead : dict? decode json = some read) :
    dict.All good := by
  simp only [ofDict, nulled, mapDoubles, Resembles] at hResembles
  rcases hResembles with ⟨members, rfl, hMembers⟩
  rcases Option.map_eq_some_iff.mp hRead with
    ⟨others, hOthers, -⟩
  unfold Dict.All
  generalize dict.entries = entries at hMembers ⊢
  clear hRead
  induction entries generalizing members others with
  | nil => simp
  | cons entry rest ih =>
      simp only [List.map_cons, mapMembers,
        MembersResemble] at hMembers
      rcases hMembers with ⟨value, later, rfl, hFirst, hLater⟩
      simp only [List.mapM_cons, Option.bind_eq_bind,
        Option.bind_eq_some_iff] at hOthers
      rcases hOthers with ⟨first, hEntry, more, hMore, -⟩
      rcases Option.map_eq_some_iff.mp hEntry with
        ⟨found, hFound, -⟩
      exact List.forall_mem_cons.mpr
        ⟨hGood entry.2 value found hFirst hFound,
          ih later more hMore hLater⟩

end Json

------------------------------------------------------------
-- Values
------------------------------------------------------------

/- Only a finite value is read. -/
theorem Value.isFinite_of_resembles
    (value : Value)
    (json : Json)
    (read : Value)
    (hResembles : Resembles value.toJson.nulled json)
    (hRead : ofJson? json = some read) :
    value.IsFinite := by
  cases value with
  | boolean | integer | text => trivial
  | float value =>
      simp only [toJson, Json.nulled, Json.mapDoubles,
        Json.numberOrNull] at hResembles
      split at hResembles
      · simp only [Resembles] at hResembles
        rw [hResembles] at hRead
        cases hRead
      · rename_i hFinite
        rw [Bool.or_comm] at hFinite
        simpa [IsFinite] using hFinite

/- The custom state of a state that is read is a field. -/
theorem ThingState.customState_of_ofJson?
    {members : List (String × Json)}
    {read : ThingState}
    (hNames : members.map Prod.fst =
      ["placement", "hidden", "isWorn", "isOpen", "isLocked",
        "isLit", "isSwitchedOn", "customState"])
    (hRead : ofJson? (.object members) = some read) :
    Record.withDefault? ⟨members, true⟩ "customState" .empty
        (Json.dict? Value.ofJson?) =
      some read.customState := by
  unfold ofJson? at hRead
  rw [Record.ofJson?_object (by decide) hNames,
    Option.bind_eq_bind, Option.bind_some] at hRead
  -- The custom state comes behind the placement and six flags.
  iterate 7
    obtain ⟨_, -, hRead⟩ := Option.bind_eq_some_iff.mp hRead
  obtain ⟨custom, hCustom, hRead⟩ :=
    Option.bind_eq_some_iff.mp hRead
  cases hRead
  exact hCustom

/- Only a state of finite values is read. -/
theorem ThingState.all_isFinite_of_ofJson?
    (state : ThingState)
    (json : Json)
    (read : ThingState)
    (hResembles : Resembles state.toJson.nulled json)
    (hRead : ofJson? json = some read) :
    state.customState.All Value.IsFinite := by
  unfold toJson at hResembles
  simp only [Json.nulled, Json.mapDoubles, Resembles] at hResembles
  rcases hResembles with ⟨members, rfl, hMembers⟩
  have hNames := Json.names_of_resemble hMembers
  have hFound :
      ∃ custom,
        Resembles
            (Json.ofDict Value.toJson
              state.customState).nulled custom ∧
          Record.field? ⟨members, true⟩ "customState" =
            some custom :=
    Json.field?_of_resemble hMembers
      (by simp [Json.mapMembers])
      (by simp [Json.mapMembers, Json.nulled]) true
  rcases hFound with ⟨custom, hCustom, hField⟩
  have hDict := customState_of_ofJson? hNames hRead
  rw [Record.withDefault?, hField] at hDict
  exact Json.all_of_dict?_nulled Value.isFinite_of_resembles
    hCustom hDict

------------------------------------------------------------
-- Saved Games
------------------------------------------------------------

/- Only a session of finite values is read. -/
theorem Session.all_isFinite_of_ofJson?
    {session read : Session}
    {json : Json}
    (hResembles : Resembles session.toJson.nulled json)
    (hRead : Session.ofJson? json = some read) :
    session.All Value.IsFinite := by
  unfold Session.toJson at hResembles
  simp only [Json.nulled, Json.mapDoubles, Resembles] at hResembles
  rcases hResembles with ⟨members, rfl, hMembers⟩
  have hNames := Json.names_of_resemble hMembers
  have hFlags :
      ∃ flags,
        Resembles
            (Json.ofDict Value.toJson session.flags).nulled
            flags ∧
          Record.field? ⟨members, true⟩ "flags" =
            some flags :=
    Json.field?_of_resemble hMembers
      (by simp [Json.mapMembers])
      (by simp [Json.mapMembers, Json.nulled]) true
  have hStates :
      ∃ states,
        Resembles
            (Json.ofDict ThingState.toJson
              session.thingStates).nulled states ∧
          Record.field? ⟨members, true⟩ "objectStates" =
            some states :=
    Json.field?_of_resemble hMembers
      (by simp [Json.mapMembers])
      (by simp [Json.mapMembers, Json.nulled]) true
  rcases hFlags with ⟨flags, hFlags, hFlagsField⟩
  rcases hStates with ⟨states, hStates, hStatesField⟩
  rcases Session.dicts_of_ofJson? hNames hRead with
    ⟨hFlagsRead, hStatesRead⟩
  rw [Record.withDefault?, hFlagsField] at hFlagsRead
  rw [Record.withDefault?, hStatesField] at hStatesRead
  exact
    { flags :=
        Json.all_of_dict?_nulled Value.isFinite_of_resembles
          hFlags hFlagsRead
      states :=
        Json.all_of_dict?_nulled
          ThingState.all_isFinite_of_ofJson? hStates
          hStatesRead }

/- A text with a value that is not finite is corrupt. -/
theorem SavedGame.ofText_text_of_not_finite
    {save : SavedGame}
    (hNot : ¬ save.session.All Value.IsFinite) :
    SavedGame.ofText save.text = .error .corruptSave := by
  have hNone :
      (Json.parse? save.text).bind ofJson? = none := by
    cases hRead : (Json.parse? save.text).bind ofJson? with
    | none => rfl
    | some read =>
        rcases exists_state_of_read hRead with
          ⟨state, hState, hSession⟩
        exact absurd
          (Session.all_isFinite_of_ofJson? hState hSession)
          hNot
  rw [ofText, hNone]

end TextAdventure
