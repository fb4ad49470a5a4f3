import TextAdventure.Room.ExitKey
import TextAdventure.World.Relocation

/-
  Exit keys and the texts that spell them.

  No word for a direction has a colon, so a text is split at
  its last colon, whatever is in the id of the room. A key has
  a text for each word for its direction, in any case, and one
  of these texts is rebuilt from it. Whichever of them is
  used, the same exit is unblocked.

  Main declarations:
    * `splitAtLast?_eq_some_iff`
    * `Direction.words`
    * `Direction.ofWord?_eq_some_iff`
    * `ExitKey.IsSpelled`
    * `ExitKey.ofText?_eq_some_iff`
    * `ExitKey.unblocks_alike`
    * `ExitKey.texts_round_trip`
-/

namespace TextAdventure

------------------------------------------------------------
-- Last Separators
------------------------------------------------------------

theorem splitAtLast?_eq_none_iff
    {separator : Char}
    {text : List Char} :
    splitAtLast? separator text = none ↔
      separator ∉ text := by
  induction text with
  | nil => simp [splitAtLast?]
  | cons c rest ih =>
      cases hRest : splitAtLast? separator rest with
      | none =>
          simp [splitAtLast?, hRest, ih.mp hRest, eq_comm]
      | some parts =>
          have hMem : separator ∈ rest := by
            refine Decidable.not_not.mp (fun hNone => ?_)
            rw [ih.mpr hNone] at hRest
            cases hRest
          simp [splitAtLast?, hRest, hMem]

/- A text has one last separator. -/
theorem splitAtLast?_eq_some_iff
    {separator : Char}
    {text before after : List Char} :
    splitAtLast? separator text = some (before, after) ↔
      text = before ++ separator :: after ∧
        separator ∉ after := by
  constructor
  · intro hSplit
    have hText := eq_append_of_splitAtLast? hSplit
    refine ⟨hText, ?_⟩
    induction text generalizing before with
    | nil => simp [splitAtLast?] at hSplit
    | cons c rest ih =>
        cases hRest : splitAtLast? separator rest with
        | none =>
            have hNone := splitAtLast?_eq_none_iff.mp hRest
            simp only [splitAtLast?, hRest] at hSplit
            split at hSplit
            · cases hSplit
              exact hNone
            · cases hSplit
        | some parts =>
            simp only [splitAtLast?, hRest,
              Option.some.injEq, Prod.mk.injEq] at hSplit
            rcases hSplit with ⟨rfl, rfl⟩
            exact ih hRest (eq_append_of_splitAtLast? hRest)
  · rintro ⟨rfl, hNone⟩
    exact splitAtLast?_append hNone before

------------------------------------------------------------
-- Words For Directions
------------------------------------------------------------

namespace Direction

/- The words for a direction, in lower case. -/
def words : Direction → List String
| .north => ["n", "north"]
| .south => ["s", "south"]
| .east => ["e", "east"]
| .west => ["w", "west"]
| .northeast => ["ne", "northeast"]
| .northwest => ["nw", "northwest"]
| .southeast => ["se", "southeast"]
| .southwest => ["sw", "southwest"]
| .up => ["u", "up"]
| .down => ["d", "down"]
| .inward => ["in", "inside", "enter"]
| .outward => ["out", "outside", "exit"]

/- Words are understood by these lists, in any case. -/
theorem ofWord?_eq_some_iff
    {word : String}
    {direction : Direction} :
    ofWord? word = some direction ↔
      Text.lowercase word ∈ direction.words := by
  have hName :
      ∀ direction ∈ all, direction.name ∈ direction.words := by
    decide
  have hOther :
      ∀ entry ∈ otherWords, entry.1 ∈ entry.2.words := by
    decide
  have hListed :
      ∀ direction ∈ all, ∀ lowered ∈ direction.words,
        ofName? lowered = some direction ∨
          ofName? lowered = none ∧
            (otherWords.find? (fun entry =>
              entry.1 == lowered)).map Prod.snd =
                some direction := by
    decide
  unfold ofWord?
  generalize Text.lowercase word = lowered
  constructor
  · intro hFound
    dsimp only at hFound
    split at hFound
    · rename_i found hNamed
      cases hFound
      have hSame : direction.name = lowered := by
        simpa using List.find?_some hNamed
      rw [← hSame]
      exact hName direction direction.mem_all
    · rcases Option.map_eq_some_iff.mp hFound with
        ⟨entry, hEntry, rfl⟩
      have hSame : entry.1 = lowered := by
        simpa using List.find?_some hEntry
      rw [← hSame]
      exact hOther entry (List.mem_of_find?_eq_some hEntry)
  · intro hMem
    rcases hListed direction direction.mem_all lowered hMem with
      hNamed | ⟨hUnnamed, hEntry⟩
    · simp [hNamed]
    · simpa [hUnnamed] using hEntry

theorem colon_not_mem_name (direction : Direction) :
    ':' ∉ direction.name.toList := by
  cases direction <;> decide

end Direction

------------------------------------------------------------
-- Texts Of Keys
------------------------------------------------------------

namespace ExitKey

variable {key : ExitKey}
variable {text : String}

/-
  A text spells a key: before its last colon stands the room,
  which is not empty, and after it a word for the direction,
  in any case.
-/
def IsSpelled (key : ExitKey) (text : String) : Prop :=
  key.room ≠ "" ∧
    ∃ word,
      text = key.room ++ ":" ++ word ∧
        ':' ∉ word.toList ∧
        Text.lowercase word ∈ key.direction.words

/- A text is understood exactly if it spells a key. -/
theorem ofText?_eq_some_iff :
    ofText? text = some key ↔ key.IsSpelled text := by
  unfold ofText? IsSpelled
  constructor
  · intro hText
    rcases Option.bind_eq_some_iff.mp hText with
      ⟨⟨room, word⟩, hSplit, hRest⟩
    rcases Option.bind_eq_some_iff.mp hRest with
      ⟨direction, hDirection, hKey⟩
    rcases splitAtLast?_eq_some_iff.mp hSplit with
      ⟨hChars, hLast⟩
    split at hKey
    · cases hKey
    · rename_i hRoom
      cases hKey
      refine ⟨?_, String.ofList word, ?_, ?_, ?_⟩
      · simpa using hRoom
      · rw [← String.toList_inj, hChars]
        simp
      · simpa using hLast
      · exact Direction.ofWord?_eq_some_iff.mp hDirection
  · rintro ⟨hRoom, word, rfl, hLast, hWord⟩
    have hSplit := splitAtLast?_append hLast key.room.toList
    have hDirection := Direction.ofWord?_eq_some_iff.mpr hWord
    simp [hSplit, hDirection, hRoom]

/- The text that is rebuilt from a key spells it. -/
theorem isSpelled_text (hRoom : key.room ≠ "") :
    key.IsSpelled key.text := by
  refine ⟨hRoom, key.direction.name, rfl,
    key.direction.colon_not_mem_name, ?_⟩
  exact Direction.ofWord?_eq_some_iff.mp
    key.direction.ofWord?_name

/-
  Two texts that spell one key unblock the same exit, or fail
  alike; a fault about the key itself repeats its text.
-/
theorem unblocks_alike
    {other : String}
    (hText : key.IsSpelled text)
    (hOther : key.IsSpelled other)
    (world : World) :
    (∀ opened,
        world.unblockExit text = .ok opened ↔
          world.unblockExit other = .ok opened) ∧
      (∀ room,
        world.unblockExit text = .error (.unknownRoom room) ↔
          world.unblockExit other =
            .error (.unknownRoom room)) ∧
      (world.unblockExit text =
          .error (.invalidExitKey text) ↔
        world.unblockExit other =
          .error (.invalidExitKey other)) := by
  have hKey := ofText?_eq_some_iff.mpr hText
  have hSame := ofText?_eq_some_iff.mpr hOther
  cases hRoom : world.room? key.room with
  | none => simp [World.unblockExit, hKey, hSame, hRoom]
  | some room =>
      cases hExit : room.exit? key.direction <;>
        simp [World.unblockExit, hKey, hSame, hRoom, hExit]

/-
  The text of a key with a room is read as the key. A text is
  read as a key exactly if it spells the key. Then the text
  that is rebuilt is read as the same key, and in every world
  the two texts unblock the same exit or fail alike.
-/
theorem texts_round_trip (key : ExitKey) (text : String) :
    (key.room ≠ "" → ofText? key.text = some key) ∧
      (ofText? text = some key ↔ key.IsSpelled text) ∧
      (ofText? text = some key →
        ofText? key.text = some key ∧
          ∀ world : World,
            (∀ opened,
                world.unblockExit text = .ok opened ↔
                  world.unblockExit key.text = .ok opened) ∧
              (∀ room,
                world.unblockExit text =
                    .error (.unknownRoom room) ↔
                  world.unblockExit key.text =
                    .error (.unknownRoom room)) ∧
              (world.unblockExit text =
                  .error (.invalidExitKey text) ↔
                world.unblockExit key.text =
                  .error (.invalidExitKey key.text))) := by
  refine ⟨?_, ofText?_eq_some_iff, ?_⟩
  · intro hRoom
    exact ofText?_eq_some_iff.mpr (isSpelled_text hRoom)
  · intro hKey
    have hText := ofText?_eq_some_iff.mp hKey
    have hRebuilt := isSpelled_text hText.1
    exact ⟨ofText?_eq_some_iff.mpr hRebuilt,
      unblocks_alike hText hRebuilt⟩

/- A room with a colon in its id, and a short word. -/
theorem texts_round_trip_of_upperTower :
    let key : ExitKey :=
      { room := "tower:upper", direction := .northeast }
    key.room ≠ "" ∧
      ofText? "tower:upper:Ne" = some key ∧
      ofText? key.text = some key ∧
      ∀ (world : World) (opened : World × Bool),
        world.unblockExit "tower:upper:Ne" = .ok opened ↔
          world.unblockExit "tower:upper:northeast" =
            .ok opened := by
  intro key
  rcases texts_round_trip key "tower:upper:Ne" with
    ⟨hText, hSpells, hSame⟩
  have hRoom : key.room ≠ "" := by decide
  have hKey : ofText? "tower:upper:Ne" = some key :=
    hSpells.mpr ⟨hRoom, "Ne", by decide, by decide,
      by decide +kernel⟩
  refine ⟨hRoom, hKey, hText hRoom, ?_⟩
  intro world opened
  exact ((hSame hKey).2 world).1 opened

end ExitKey

end TextAdventure
