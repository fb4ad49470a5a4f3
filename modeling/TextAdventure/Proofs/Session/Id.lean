import Mathlib.Algebra.Group.Nat.Defs
import TextAdventure.Session.Id

/-
  The text of a session id is read as the id.

  Main declarations:
    * `SessionId.hexNumber?_hexDigits`
    * `SessionId.ungroup?_grouped`
    * `SessionId.ofText?_text`
-/

namespace TextAdventure

namespace SessionId

------------------------------------------------------------
-- Digits
------------------------------------------------------------

theorem hexDigit?_digitChar
    {digit : Nat}
    (hSmall : digit < 16) :
    Text.hexDigit? (Nat.digitChar digit) = some digit := by
  revert digit
  decide

theorem length_hexDigits (count number : Nat) :
    (hexDigits count number).length = count := by
  induction count generalizing number with
  | zero => rfl
  | succ count ih => simp [hexDigits, ih]

/- The digits of a number spell it, if they suffice. -/
theorem hexNumber?_hexDigits
    {count number : Nat}
    (hSmall : number < 16 ^ count) :
    Text.hexNumber? (hexDigits count number) =
      some number := by
  induction count generalizing number with
  | zero =>
      have hZero : number = 0 := by simpa using hSmall
      rw [hZero]
      rfl
  | succ count ih =>
      have hFront : number / 16 < 16 ^ count := by
        rw [Nat.pow_succ] at hSmall
        omega
      have hLast : number % 16 < 16 := by omega
      rcases Option.map_eq_some_iff.mp (ih hFront) with
        ⟨digits, hDigits, hNumber⟩
      have hAll :
          (hexDigits (count + 1) number).mapM
              Text.hexDigit? =
            some (digits ++ [number % 16]) := by
        simp [hexDigits, hDigits, hexDigit?_digitChar hLast]
      rw [Text.hexNumber?, hAll, Option.map_some,
        Text.numberOf, List.foldl_append]
      rw [Text.numberOf] at hNumber
      rw [hNumber]
      simp only [List.foldl_cons, List.foldl_nil]
      congr 1
      omega

/- Five groups are taken apart at the hyphens. -/
theorem ungroup?_grouped
    {first second third fourth fifth : List Char}
    (hFirst : first.length = 8)
    (hSecond : second.length = 4)
    (hThird : third.length = 4)
    (hFourth : fourth.length = 4)
    (hFifth : fifth.length = 12) :
    ungroup?
        (first ++ '-' :: second ++ '-' :: third ++
          '-' :: fourth ++ '-' :: fifth) =
      some (first ++ second ++ third ++ fourth ++ fifth) := by
  simp [ungroup?, List.drop_append, List.drop_of_length_le,
    hFirst, hSecond, hThird, hFourth, hFifth]

------------------------------------------------------------
-- Texts
------------------------------------------------------------

/- An id is written in five groups of its digits. -/
theorem toList_text (id : SessionId) :
    id.text.toList =
      (hexDigits 32 id.bits.toNat).take 8 ++
        '-' :: ((hexDigits 32 id.bits.toNat).drop 8).take 4 ++
        '-' :: ((hexDigits 32 id.bits.toNat).drop 12).take 4 ++
        '-' :: ((hexDigits 32 id.bits.toNat).drop 16).take 4 ++
        '-' :: (hexDigits 32 id.bits.toNat).drop 20 := by
  simp [text]

theorem scheme_eq :
    scheme =
      ['u', 'r', 'n', ':', 'u', 'u', 'i', 'd', ':'] := by
  decide +kernel

/- A text that begins with a digit is taken as it is. -/
theorem unwrap_digitChar
    {digit : Nat}
    (hSmall : digit < 16)
    (rest : List Char) :
    unwrap (Nat.digitChar digit :: rest) =
      Nat.digitChar digit :: rest := by
  have hLetter :
      (Nat.digitChar digit).toLower ≠ 'u' ∧
        Nat.digitChar digit ≠ '\x7b' := by
    revert digit
    decide
  have hScheme :
      ((Nat.digitChar digit :: rest).take
          scheme.length).map Char.toLower ≠ scheme := by
    rw [scheme_eq]
    intro hSame
    exact hLetter.1 (List.cons.inj hSame).1
  rw [unwrap, if_neg hScheme]
  intro other hText
  exact hLetter.2 (List.cons.inj hText).1

theorem exists_digitChar_of_mem
    {count number : Nat}
    {c : Char}
    (hMem : c ∈ hexDigits count number) :
    ∃ digit < 16, c = Nat.digitChar digit := by
  induction count generalizing number with
  | zero => simp [hexDigits] at hMem
  | succ count ih =>
      rcases List.mem_append.mp hMem with hFront | hLast
      · exact ih hFront
      · refine ⟨number % 16, by omega, ?_⟩
        simpa using hLast

theorem unwrap_text (id : SessionId) :
    unwrap id.text.toList = id.text.toList := by
  have hLength := length_hexDigits 32 id.bits.toNat
  rw [toList_text]
  cases hDigits : hexDigits 32 id.bits.toNat with
  | nil => simp [hDigits] at hLength
  | cons c rest =>
      have hMem : c ∈ hexDigits 32 id.bits.toNat := by
        rw [hDigits]
        exact List.mem_cons_self
      rcases exists_digitChar_of_mem hMem with
        ⟨digit, hSmall, rfl⟩
      simp only [List.take_succ_cons, List.cons_append]
      exact unwrap_digitChar hSmall _

theorem ungroup?_text (id : SessionId) :
    ungroup? id.text.toList =
      some (hexDigits 32 id.bits.toNat) := by
  rw [toList_text]
  have hLength := length_hexDigits 32 id.bits.toNat
  generalize hexDigits 32 id.bits.toNat = digits at hLength ⊢
  have hAll :
      digits.take 8 ++ (digits.drop 8).take 4 ++
          (digits.drop 12).take 4 ++ (digits.drop 16).take 4 ++
          digits.drop 20 =
        digits := by
    have hNext :
        ∀ start, (digits.drop start).take 4 ++
            digits.drop (start + 4) =
          digits.drop start := by
      intro start
      rw [← List.drop_drop]
      exact List.take_append_drop 4 (digits.drop start)
    simp only [List.append_assoc, hNext 16, hNext 12,
      hNext 8, List.take_append_drop]
  rw [ungroup?_grouped, hAll]
  all_goals simp [hLength]

/- The text of an id is read as the id. -/
theorem ofText?_text (id : SessionId) :
    ofText? id.text = some id := by
  have hGroups := ungroup?_text id
  have hUnwrap := unwrap_text id
  have hNumber :
      Text.hexNumber? (hexDigits 32 id.bits.toNat) =
        some id.bits.toNat :=
    hexNumber?_hexDigits id.bits.isLt
  have hDigits := length_hexDigits 32 id.bits.toNat
  have hLength : id.text.toList.length ≠ 32 := by
    rw [toList_text]
    simp [hDigits]
  generalize hexDigits 32 id.bits.toNat = digits at *
  simp only [ofText?, if_neg hLength, hUnwrap, hGroups]
  simp [ofDigits?, hNumber, hDigits]

end SessionId

end TextAdventure
