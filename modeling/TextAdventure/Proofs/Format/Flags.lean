import TextAdventure.Proofs.Format.Session
import TextAdventure.Proofs.Json.Nulls

/-
  Flags that a saved game is read with.

  Whatever is read for the numbers in the text of a saved
  game: if it is read at all, a flag that was set to a truth
  value is set to it, and a flag that was not set is not.

  Main declarations:
    * `KeepsTruth`
    * `SavedGame.exists_state_of_read`
    * `SavedGame.keepsTruth_of_ofText`
-/

namespace TextAdventure

open Json (Resembles MembersResemble Record)

------------------------------------------------------------
-- Members
------------------------------------------------------------

namespace Json

variable {members others : List (String × Json)}

/- Resembling members have the same names. -/
theorem names_of_resemble
    (hResemble : MembersResemble members others) :
    others.map Prod.fst = members.map Prod.fst := by
  induction members generalizing others with
  | nil =>
      simp only [MembersResemble] at hResemble
      rw [hResemble]
  | cons entry rest ih =>
      simp only [MembersResemble] at hResemble
      rcases hResemble with ⟨other, later, rfl, -, hLater⟩
      rw [List.map_cons, List.map_cons, ih hLater]

/- The field of a member's name is one that resembles it. -/
theorem field?_of_resemble
    (hResemble : MembersResemble members others)
    (hNodup : (members.map Prod.fst).Nodup)
    {name : String}
    {json : Json}
    (hMem : (name, json) ∈ members)
    (named : Bool) :
    ∃ other, Resembles json other ∧
      Record.field? ⟨others, named⟩ name = some other := by
  have hOther :
      ∃ other, Resembles json other ∧
        (name, other) ∈ others := by
    clear hNodup
    induction members generalizing others with
    | nil => cases hMem
    | cons entry rest ih =>
        simp only [MembersResemble] at hResemble
        rcases hResemble with
          ⟨other, later, rfl, hFirst, hLater⟩
        rcases List.mem_cons.mp hMem with rfl | hRest
        · exact ⟨other, hFirst, List.mem_cons_self⟩
        · rcases ih hLater hRest with ⟨found, hFound, hIn⟩
          exact ⟨found, hFound, List.mem_cons_of_mem _ hIn⟩
  rcases hOther with ⟨other, hOther, hIn⟩
  rw [← names_of_resemble hResemble] at hNodup
  exact ⟨other, hOther, Record.field?_of_mem hNodup hIn⟩

end Json

------------------------------------------------------------
-- Dictionaries
------------------------------------------------------------

/- An entry of the same key, and of the same truth value. -/
structure Reread (before after : String × Value) : Prop where
  key : after.1 = before.1
  truth :
    ∀ value, before.2 = .boolean value →
      after.2 = .boolean value

/- A dictionary of the same keys with the same truth values. -/
structure KeepsTruth (before after : Dict Value) : Prop where
  absent :
    ∀ key, before.get? key = none → after.get? key = none
  truth :
    ∀ key value, before.get? key = some (.boolean value) →
      after.get? key = some (.boolean value)

/- What is read for a value that was written. -/
theorem Value.truth_of_resembles
    {value read : Value}
    {json : Json}
    (hResembles : Resembles value.toJson json)
    (hRead : Value.ofJson? json = some read)
    (truth : Bool)
    (hTruth : value = .boolean truth) :
    read = .boolean truth := by
  subst hTruth
  simp only [toJson, Resembles] at hResembles
  rw [hResembles] at hRead
  cases hRead
  rfl

/- Entries are read one by one. -/
theorem Json.forall₂_reread
    {entries others : List (String × Value)}
    {members : List (String × Json)}
    (hResemble :
      MembersResemble
        (entries.map (fun entry => (entry.1, entry.2.toJson)))
        members)
    (hRead :
      members.mapM (fun entry =>
          (Value.ofJson? entry.2).map (fun value =>
            (entry.1, value))) =
        some others) :
    List.Forall₂ Reread entries others := by
  induction entries generalizing members others with
  | nil =>
      simp only [List.map_nil, MembersResemble] at hResemble
      subst hResemble
      cases hRead
      exact .nil
  | cons entry rest ih =>
      simp only [List.map_cons, MembersResemble] at hResemble
      rcases hResemble with
        ⟨json, later, rfl, hFirst, hLater⟩
      simp only [List.mapM_cons, Option.bind_eq_bind,
        Option.bind_eq_some_iff] at hRead
      rcases hRead with ⟨first, hEntry, more, hMore, hOthers⟩
      cases hOthers
      rcases Option.map_eq_some_iff.mp hEntry with
        ⟨value, hValue, rfl⟩
      exact .cons
        ⟨rfl, Value.truth_of_resembles hFirst hValue⟩
        (ih hLater hMore)

theorem lookupEntry_of_reread
    {entries others : List (String × Value)}
    (hReread : List.Forall₂ Reread entries others)
    (key : String) :
    (lookupEntry key entries = none →
        lookupEntry key others = none) ∧
      ∀ value, lookupEntry key entries = some (.boolean value) →
        lookupEntry key others = some (.boolean value) := by
  induction hReread with
  | nil => simp [lookupEntry]
  | @cons entry other rest more hFirst _ ih =>
      simp only [lookupEntry, hFirst.key]
      by_cases hKey : key = entry.1
      · simp only [hKey, if_true, Option.some.injEq]
        exact ⟨by simp, hFirst.truth⟩
      · simpa only [if_neg hKey] using ih

/- Keys that increase do so when they are read again. -/
theorem keysIncrease_of_reread
    {entries others : List (String × Value)}
    (hReread : List.Forall₂ Reread entries others)
    (hIncrease : KeysIncrease entries) :
    KeysIncrease others := by
  have hKeys : others.map Prod.fst = entries.map Prod.fst := by
    induction hReread with
    | nil => rfl
    | cons hFirst _ ih =>
        rw [List.map_cons, List.map_cons, hFirst.key,
          ih (List.pairwise_cons.mp hIncrease).2]
  unfold KeysIncrease at hIncrease ⊢
  rw [← List.pairwise_map] at hIncrease ⊢
  rw [hKeys]
  exact hIncrease

/- So the truth values of a dictionary are read again. -/
theorem Json.keepsTruth_of_dict?
    {dict read : Dict Value}
    {json : Json}
    (hResembles : Resembles (ofDict Value.toJson dict) json)
    (hRead : dict? Value.ofJson? json = some read) :
    KeepsTruth dict read := by
  simp only [ofDict, Resembles] at hResembles
  rcases hResembles with ⟨members, rfl, hMembers⟩
  rcases Option.map_eq_some_iff.mp hRead with
    ⟨others, hOthers, rfl⟩
  have hReread := forall₂_reread hMembers hOthers
  have hIncrease :=
    keysIncrease_of_reread hReread dict.keysIncrease
  have hSame : Dict.ofList others = ⟨others, hIncrease⟩ :=
    Dict.ofList_entries ⟨others, hIncrease⟩
  rw [hSame]
  exact
    { absent := fun key =>
        (lookupEntry_of_reread hReread key).1
      truth := fun key =>
        (lookupEntry_of_reread hReread key).2 }

------------------------------------------------------------
-- Saved Games
------------------------------------------------------------

/- The dictionaries of a session that is read are fields. -/
theorem Session.dicts_of_ofJson?
    {members : List (String × Json)}
    {read : Session}
    (hNames : members.map Prod.fst =
      ["sessionId", "currentRoom", "previousRoom",
        "inventory", "worn", "playerState", "suspendedState",
        "flags", "solvedPuzzles", "turn", "visitedRooms",
        "objectStates", "openedExits"])
    (hRead : Session.ofJson? (.object members) = some read) :
    Record.withDefault? ⟨members, true⟩ "flags" .empty
          (Json.dict? Value.ofJson?) =
        some read.flags ∧
      Record.withDefault? ⟨members, true⟩ "objectStates"
          .empty (Json.dict? ThingState.ofJson?) =
        some read.thingStates := by
  unfold Session.ofJson? at hRead
  rw [Record.ofJson?_object (by decide) hNames,
    Option.bind_eq_bind, Option.bind_some] at hRead
  -- The flags come behind seven other fields, and the states
  -- of the things behind three more.
  iterate 7
    obtain ⟨_, -, hRead⟩ := Option.bind_eq_some_iff.mp hRead
  obtain ⟨flags, hFlags, hRead⟩ :=
    Option.bind_eq_some_iff.mp hRead
  iterate 3
    obtain ⟨_, -, hRead⟩ := Option.bind_eq_some_iff.mp hRead
  obtain ⟨states, hStates, hRead⟩ :=
    Option.bind_eq_some_iff.mp hRead
  obtain ⟨_, -, hRead⟩ := Option.bind_eq_some_iff.mp hRead
  cases hRead
  exact ⟨hFlags, hStates⟩

theorem Session.keepsTruth_of_ofJson?
    {session read : Session}
    {json : Json}
    (hResembles : Resembles session.toJson json)
    (hRead : Session.ofJson? json = some read) :
    KeepsTruth session.flags read.flags := by
  unfold Session.toJson at hResembles
  simp only [Resembles] at hResembles
  rcases hResembles with ⟨members, rfl, hMembers⟩
  have hNames := Json.names_of_resemble hMembers
  have hFound :
      ∃ flags,
        Resembles (Json.ofDict Value.toJson session.flags)
          flags ∧
        Record.field? ⟨members, true⟩ "flags" = some flags :=
    Json.field?_of_resemble hMembers (by simp) (by simp) true
  rcases hFound with ⟨flags, hFlags, hField⟩
  have hDict := (Session.dicts_of_ofJson? hNames hRead).1
  rw [Record.withDefault?, hField] at hDict
  exact Json.keepsTruth_of_dict? hFlags hDict

/- What a text is accepted as is what can be read of it. -/
theorem SavedGame.read_of_ofText
    {text : String}
    {read : SavedGame}
    (hText : SavedGame.ofText text = .ok read) :
    (Json.parse? text).bind ofJson? = some read := by
  unfold ofText at hText
  split at hText
  · simp at hText
  · rename_i found hFound
    split at hText
    · cases hText
      exact hFound
    · simp at hText

/-
  What is read for a saved game is read for its session, with
  null for each double that has no number.
-/
theorem SavedGame.exists_state_of_read
    {save read : SavedGame}
    (hRead :
      (Json.parse? save.text).bind ofJson? = some read) :
    ∃ state,
      Resembles save.session.toJson.nulled state ∧
        Session.ofJson? state = some read.session := by
  rcases Option.bind_eq_some_iff.mp hRead with
    ⟨json, hParse, hSave⟩
  have hResembles : Resembles save.toJson.nulled json :=
    Json.resembles_nulled_of_parse?_pretty
      (save.fitsDepth_toJson 122) hParse
  unfold SavedGame.toJson at hResembles
  simp only [Json.nulled, Json.mapDoubles, Resembles] at hResembles
  rcases hResembles with ⟨members, rfl, hMembers⟩
  have hNames :
      members.map Prod.fst =
        ["version", "savedAt", "state"] :=
    Json.names_of_resemble hMembers
  have hFound :
      ∃ state,
        Resembles save.session.toJson.nulled state ∧
        Record.field? ⟨members, true⟩ "state" = some state :=
    Json.field?_of_resemble hMembers
      (by simp [Json.mapMembers])
      (by simp [Json.mapMembers, Json.nulled]) true
  rcases hFound with ⟨state, hState, hField⟩
  unfold SavedGame.ofJson? at hSave
  rw [Record.ofJson?_object (by decide) hNames,
    Option.bind_eq_bind, Option.bind_some] at hSave
  obtain ⟨_, -, hSave⟩ := Option.bind_eq_some_iff.mp hSave
  obtain ⟨_, -, hSave⟩ := Option.bind_eq_some_iff.mp hSave
  obtain ⟨session, hSession, hSave⟩ :=
    Option.bind_eq_some_iff.mp hSave
  cases hSave
  rw [Record.required?, hField] at hSession
  exact ⟨state, hState, hSession⟩

/-
  The truth values of the flags that are saved are those of
  the flags that are read, whatever is made of numbers.
-/
theorem SavedGame.keepsTruth_of_ofText
    {save read : SavedGame}
    (hText : SavedGame.ofText save.text = .ok read) :
    KeepsTruth save.session.flags read.session.flags := by
  rcases exists_state_of_read (read_of_ofText hText) with
    ⟨state, hState, hSession⟩
  exact Session.keepsTruth_of_ofJson?
    (Json.Resembles.of_nulled _ hState) hSession

end TextAdventure
