import TextAdventure.Json.Printer
import TextAdventure.Proofs.Json.Token

/-
  Written strings and numbers, each of which is one token.

  An escaped character is read as the character, and the
  digits of an integer spell it. The text of a double begins
  like a number; what number is read from it is left open.

  Main declarations:
    * `Json.Token.scanString_escapedChar`
    * `Json.Token.Scans.quoted`
    * `Json.Token.numberValue_digits`
    * `Json.Token.Scans.integer`
    * `Json.Token.exists_cons_pointed`
-/

namespace TextAdventure

namespace Json

namespace Token

variable {rest : List Char} {read : List Token}

------------------------------------------------------------
-- Strings
------------------------------------------------------------

/- A control character is read back from its two digits. -/
theorem hexNumber?_control
    {code : Nat}
    (hControl : code < 0x20) :
    Text.hexNumber?
        ['0', '0', Nat.digitChar (code / 16),
          Nat.digitChar (code % 16)] = some code := by
  revert code
  decide

/- A character that needs no escape stands for itself. -/
theorem scanString_of_ne
    {c : Char}
    (hQuote : c ≠ '"')
    (hSlash : c ≠ '\\')
    (hControl : ¬c.toNat < 0x20)
    {pieces : List Piece}
    {text : List Char} :
    scanString pieces (c :: text) =
      scanString (.char c :: pieces) text := by
  have hTaken : ¬(c.toNat < 0x20 ∨ c = '\\') :=
    not_or.mpr ⟨hControl, hSlash⟩
  rw [scanString.eq_def]
  split
  case h_1 hText => cases hText
  case h_2 hText =>
    cases hText
    exact absurd rfl hQuote
  case h_3 hText =>
    cases hText
    exact absurd rfl hSlash
  case h_4 hText =>
    cases hText
    exact absurd rfl hSlash
  case h_5 hText =>
    cases hText
    rw [if_neg hTaken]

/- The escaped form of a character is read as it. -/
theorem scanString_escapedChar
    (pieces : List Piece)
    (c : Char)
    (text : List Char) :
    scanString pieces (escapedChar c ++ text) =
      scanString (.char c :: pieces) text := by
  unfold escapedChar
  split
  · subst c; rfl
  split
  · subst c; rfl
  split
  · subst c; rfl
  split
  · subst c; rfl
  split
  · subst c; rfl
  split
  · subst c; rfl
  split
  · subst c; rfl
  split
  · rename_i hControl
    have hPiece :
        pieceOfUnit c.toNat = .char c := by
      have hHigh : isHighSurrogate c.toNat = false := by
        simp [isHighSurrogate]; omega
      have hLow : isLowSurrogate c.toNat = false := by
        simp [isLowSurrogate]; omega
      simp [pieceOfUnit, hHigh, hLow, Char.ofNat_toNat]
    simp only [List.cons_append, List.nil_append]
    rw [scanString, hexNumber?_control hControl]
    simp only [hPiece]
  · rename_i hQuote hSlash _ _ _ _ _ hControl
    exact scanString_of_ne hQuote hSlash hControl

/- The pieces of a written text are its characters. -/
theorem scanString_escaped
    (pieces : List Piece)
    (chars : List Char)
    (text : List Char) :
    scanString pieces
        (chars.flatMap escapedChar ++ '"' :: text) =
      some (pieces.reverse ++ chars.map .char, text) := by
  induction chars generalizing pieces with
  | nil => simp [scanString]
  | cons c chars ih =>
      rw [List.flatMap_cons, List.append_assoc,
        scanString_escapedChar, ih]
      simp

theorem textOf?_chars (text : String) :
    textOf? (text.toList.map .char) = some text := by
  have hChars :
      ∀ chars : List Char,
        charsOf? (chars.map .char) = some chars := by
    intro chars
    induction chars with
    | nil => rfl
    | cons c chars ih => simp [charsOf?, ih]
  simp [textOf?, hChars]

/- A quoted text is one token, whatever follows it. -/
theorem next?_quoted
    (text : String)
    (rest : List Char) :
    ∃ tail, (Json.quoted text).toList = '"' :: tail ∧
      next? ('"' :: (tail ++ rest)) =
        some (.string (some text), rest) := by
  refine ⟨text.toList.flatMap escapedChar ++ ['"'],
    by simp [Json.quoted], ?_⟩
  rw [List.append_assoc, List.singleton_append]
  simp [next?, scanString_escaped, textOf?_chars]

theorem Scans.quoted
    (text : String)
    (hRest : Scans rest read) :
    Scans ((Json.quoted text).toList ++ rest)
      (.string (some text) :: read) := by
  rcases next?_quoted text rest with ⟨tail, hText, hNext⟩
  rw [hText]
  exact hRest.token rfl hNext

------------------------------------------------------------
-- Integers
------------------------------------------------------------

/- The digits that a number is written with. -/
def digits (number : Nat) : List Nat :=
  (Nat.toDigits 10 number).map
    (fun c => c.toNat - '0'.toNat)

theorem numeral_digits (number : Nat) :
    Decimal.numeral (digits number) = number := by
  rw [Decimal.numeral, digits, List.foldl_map]
  exact Nat.ofDigitChars_ten_toDigits

theorem digits_of_lt
    {number : Nat}
    (hSmall : number < 10) :
    digits number = [number] := by
  have hDigit :=
    Nat.toNat_digitChar_sub_48_of_lt_ten hSmall
  simpa [digits, Nat.toDigits_of_lt_base hSmall] using hDigit

/- A number other than zero does not begin with a zero. -/
theorem head?_digits
    {number : Nat}
    (hPos : 0 < number) :
    (digits number).head? ≠ some 0 := by
  induction number using Nat.strongRecOn with
  | ind number ih =>
      by_cases hSmall : number < 10
      · rw [digits_of_lt hSmall]
        simp
        omega
      · have hHead := ih (number / 10) (by omega) (by omega)
        have hSome : (digits (number / 10)).head?.isSome := by
          simp [digits, List.isSome_head?,
            Nat.toDigits_ne_nil]
        have hDigits :
            digits number =
              digits (number / 10) ++
                digits (number % 10) := by
          have hLast : number % 10 < 10 := by omega
          have hDigit :
              (number % 10).digitChar.toNat - '0'.toNat =
                number % 10 :=
            Nat.toNat_digitChar_sub_48_of_lt_ten hLast
          rw [digits_of_lt hLast, digits, digits,
            Nat.toDigits_of_base_le (by decide)
              (Nat.le_of_not_lt hSmall),
            List.map_append, List.map_singleton, hDigit]
        rw [hDigits, List.head?_append,
          Option.or_of_isSome hSome]
        exact hHead

theorem isDigit_of_mem_toDigits
    {number : Nat}
    {c : Char}
    (hMem : c ∈ Nat.toDigits 10 number) :
    isDigit c = true := by
  have hDigit :=
    Nat.isDigit_of_mem_toDigits (by decide) (by decide) hMem
  simpa [Char.isDigit, isDigit, Char.le_def] using hDigit

/- Of a written number all digits are taken. -/
theorem someDigits?_toDigits (number : Nat) :
    someDigits? (Nat.toDigits 10 number) =
      some (digits number, []) := by
  have hAll :
      ∀ c ∈ Nat.toDigits 10 number, isDigit c = true := by
    intro c hMem
    exact isDigit_of_mem_toDigits hMem
  have hSplit :
      splitDigits (Nat.toDigits 10 number) =
        (digits number, []) := by
    rw [splitDigits, List.takeWhile_eq_self_iff.mpr hAll,
      List.dropWhile_eq_nil_iff.mpr hAll, digits]
  have hSome : digits number ≠ [] := by
    simp [digits, Nat.toDigits_ne_nil]
  exact someDigits?_eq_some_iff.mpr ⟨hSplit, hSome⟩

/- Whether an integer is within the range of JSON numbers. -/
def FitsNumber (value : Int) : Prop :=
  Int64.minValue.toInt ≤ value ∧ value < UInt64.size

theorem fitsNumber_of_lt
    {number : Nat}
    (hSmall : number < UInt64.size) :
    FitsNumber number := by
  have hLow : Int64.minValue.toInt ≤ 0 := by decide
  exact ⟨by omega, by omega⟩

/- The value of the digits of an integer is the integer. -/
theorem numberValue_digits
    {value : Int}
    (hFits : FitsNumber value) :
    numberValue (value < 0) (digits value.natAbs) none none =
      .integer value := by
  have hValue :
      (if decide (value < 0) = true then
          -(value.natAbs : Int)
        else value.natAbs) = value := by
    simp only [decide_eq_true_eq]
    split <;> omega
  have hZero :
      (decide (value < 0) && (value.natAbs : Int) == 0) =
        false := by
    simp; omega
  have hInteger :
      (decide (Int64.minValue.toInt ≤ value) &&
        decide (value < UInt64.size)) = true := by
    rw [Bool.and_eq_true, decide_eq_true_eq,
      decide_eq_true_eq]
    exact hFits
  simp only [numberValue, numeral_digits, hValue, hZero,
    Option.isNone_none, Bool.not_false, Bool.true_and]
  rw [if_pos hInteger]

/- The digits of an integer are read as it, with its sign. -/
theorem scanNumber?_toDigits
    {value : Int}
    (hFits : FitsNumber value) :
    scanNumber? (value < 0) (Nat.toDigits 10 value.natAbs) =
      some (.integer value, []) := by
  have hFirst :
      ¬((digits value.natAbs).length > 1 ∧
          (digits value.natAbs).head? = some 0) := by
    rintro ⟨hLong, hZero⟩
    rcases Nat.eq_zero_or_pos value.natAbs with hNone | hPos
    · simp [hNone, digits_of_lt] at hLong
    · exact head?_digits hPos hZero
  exact scanNumber?_eq_some_iff.mpr
    ⟨digits value.natAbs, [], none, [], none,
      someDigits?_toDigits value.natAbs, hFirst, rfl, rfl,
      numberValue_digits hFits⟩

/- An integer is written as its digits behind its sign. -/
theorem toList_toString (value : Int) :
    (toString value).toList =
      if value < 0 then
        '-' :: Nat.toDigits 10 value.natAbs
      else
        Nat.toDigits 10 value.natAbs := by
  rw [Int.toString_eq_repr, Int.repr_eq_if]
  by_cases hSign : value < 0
  · have hAbs : (-value).toNat = value.natAbs := by omega
    rw [if_neg (by omega), if_pos hSign, hAbs,
      String.toList_append, Nat.toList_repr]
    rfl
  · have hAbs : value.toNat = value.natAbs := by omega
    rw [if_pos (by omega), if_neg hSign, hAbs,
      Nat.toList_repr]

/- The written form of an integer is one token. -/
theorem Scans.integer
    {value : Int}
    (hRest : Scans rest read)
    (hFits : FitsNumber value)
    (hStops : Stops rest) :
    Scans ((toString value).toList ++ rest)
      (.scalar (.integer value) :: read) := by
  have hScan := scanNumber?_toDigits hFits
  rw [toList_toString]
  by_cases hSign : value < 0
  · rw [decide_eq_true hSign] at hScan
    have hNext :
        next? ('-' :: Nat.toDigits 10 value.natAbs) =
          some (.scalar (.integer value), []) := by
      rw [next?_minus, hScan]
      rfl
    rw [if_pos hSign]
    exact hRest.number (Or.inl rfl)
      (scans_nil.token rfl hNext) hStops
  · rw [decide_eq_false hSign] at hScan
    cases hChars : Nat.toDigits 10 value.natAbs with
    | nil => exact absurd hChars Nat.toDigits_ne_nil
    | cons c text =>
        have hDigit : isDigit c = true :=
          isDigit_of_mem_toDigits
            (hChars.symm ▸ List.mem_cons_self)
        have hNext :
            next? (c :: text) =
              some (.scalar (.integer value), []) := by
          rw [next?_of_isDigit hDigit, ← hChars, hScan]
          rfl
        have hAlone :=
          scans_nil.token (isGap_of_isDigit hDigit) hNext
        rw [if_neg hSign]
        exact hRest.number (Or.inr hDigit) hAlone hStops

------------------------------------------------------------
-- Doubles
------------------------------------------------------------

open Decimal (Scaled pointed)

theorem exists_cons_chars (decimal : Scaled) :
    ∃ c text, decimal.chars = c :: text ∧
      isDigit c = true := by
  cases hChars : decimal.chars with
  | nil => exact absurd hChars Nat.toDigits_ne_nil
  | cons c text =>
      have hMem : c ∈ decimal.chars :=
        hChars.symm ▸ List.mem_cons_self
      exact ⟨c, text, rfl, isDigit_of_mem_toDigits hMem⟩

theorem exists_cons_positional
    (whole : List Char)
    (decimal : Scaled) :
    ∃ c text, decimal.positional whole = c :: text ∧
      isDigit c = true := by
  rcases exists_cons_chars decimal with
    ⟨c, text, hChars, hDigit⟩
  simp only [Scaled.positional, hChars]
  split
  · exact ⟨c, _, rfl, hDigit⟩
  split
  · rename_i hPlace
    have hPos : decimal.pointPlace.toNat ≠ 0 := by omega
    rcases Nat.exists_eq_succ_of_ne_zero hPos with
      ⟨place, hSucc⟩
    rw [hSucc]
    exact ⟨c, _, rfl, hDigit⟩
  · exact ⟨'0', _, rfl, rfl⟩

theorem exists_cons_scientific
    (decimal : Scaled) :
    ∃ c text, decimal.scientific = c :: text ∧
      isDigit c = true := by
  rcases exists_cons_chars decimal with
    ⟨c, text, hChars, hDigit⟩
  cases text with
  | nil => simp [Scaled.scientific, hChars, hDigit]
  | cons next rest =>
      simp [Scaled.scientific, hChars, hDigit]

/- The text of a double begins with a sign or a digit. -/
theorem exists_cons_pointed (x : Float) :
    ∃ c text, (pointed x).toList = c :: text ∧
      (c = '-' ∨ isDigit c = true) := by
  simp only [pointed, Decimal.layOut, String.toList_ofList]
  cases Decimal.isNegative x with
  | true => exact ⟨'-', _, rfl, Or.inl rfl⟩
  | false =>
      simp only [Bool.false_eq_true, if_false, List.nil_append]
      split
      · exact ⟨'0', _, rfl, Or.inr rfl⟩
      split
      · rcases exists_cons_positional ['.', '0']
            ((Decimal.Binary.ofFloat x).shortest .even) with
          ⟨c, text, hText, hDigit⟩
        exact ⟨c, text, hText, Or.inr hDigit⟩
      · rcases exists_cons_scientific
            ((Decimal.Binary.ofFloat x).shortest .even) with
          ⟨c, text, hText, hDigit⟩
        exact ⟨c, text, hText, Or.inr hDigit⟩

end Token

end Json

end TextAdventure
