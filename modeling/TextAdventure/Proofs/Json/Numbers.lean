import TextAdventure.Proofs.Json.Scalar

/-
  Written numbers end where they were written to end.

  A number is written as digits, with at most a fraction and
  an exponent behind them. If the scanner takes such a text
  for a number at all, it takes all of it and nothing of what
  follows, whatever number it makes of it.

  Main declarations:
    * `Json.Token.IsLiteral`
    * `Json.Token.rest_of_scanNumber?`
    * `Json.Token.Scans.of_token`
    * `Json.Token.Scans.of_literal`
-/

namespace TextAdventure

namespace Json

namespace Token

variable {text rest : List Char}

------------------------------------------------------------
-- Literals
------------------------------------------------------------

/- Digits only. -/
def AreDigits (digits : List Char) : Prop :=
  ∀ c ∈ digits, isDigit c = true

/- Nothing, or digits behind a point. -/
def IsFraction (text : List Char) : Prop :=
  text = [] ∨ ∃ digits, text = '.' :: digits ∧ AreDigits digits

/- Nothing, or an exponent with its sign. -/
def IsPower (text : List Char) : Prop :=
  text = [] ∨
    ∃ sign digits, text = 'e' :: sign :: digits ∧
      (sign = '-' ∨ sign = '+') ∧ AreDigits digits

/- The text of a number without its sign. -/
def IsLiteral (text : List Char) : Prop :=
  ∃ whole fraction power,
    text = whole ++ (fraction ++ power) ∧
      AreDigits whole ∧ IsFraction fraction ∧ IsPower power

/- Digits are taken up to what does not go on with them. -/
theorem rest_of_someDigits?
    {digits : List Char}
    (hDigits : AreDigits digits)
    (hEnds : ∀ c ∈ text.head?, isDigit c = false)
    {taken : List Nat}
    (hScan : someDigits? (digits ++ text) = some (taken, rest)) :
    rest = text := by
  have hSplit := (someDigits?_eq_some_iff.mp hScan).1
  have hDrop : text.dropWhile isDigit = text := by
    cases text with
    | nil => rfl
    | cons c text => simp [hEnds c rfl]
  rw [splitDigits, List.dropWhile_append_of_pos hDigits,
    hDrop, Prod.mk.injEq] at hSplit
  exact hSplit.2.symm

theorem rest_of_scanExponent?
    {power : List Char}
    (hPower : IsPower power)
    (hStops : Stops text)
    {exponent : Option Int}
    (hScan :
      scanExponent? (power ++ text) = some (exponent, rest)) :
    rest = text := by
  have hEnds : ∀ c ∈ text.head?, isDigit c = false :=
    fun c hHead => (hStops c hHead).1
  rcases hPower with rfl | ⟨sign, digits, rfl, hSign, hDigits⟩
  · rw [List.nil_append, hStops.scanExponent?] at hScan
    cases hScan
    rfl
  · rcases hSign with rfl | rfl
    all_goals
      simp only [List.cons_append, scanExponent?,
        true_or, if_true] at hScan
      rcases Option.map_eq_some_iff.mp hScan with
        ⟨parts, hParts, hResult⟩
      cases hResult
      exact rest_of_someDigits? hDigits hEnds hParts

theorem rest_of_scanFraction?
    {fraction power : List Char}
    (hFraction : IsFraction fraction)
    (hPower : IsPower power)
    (hStops : Stops text)
    {taken : Option (List Nat)}
    (hScan :
      scanFraction? (fraction ++ (power ++ text)) =
        some (taken, rest)) :
    rest = power ++ text := by
  have hHead : ∀ c ∈ (power ++ text).head?,
      isDigit c = false ∧ c ≠ '.' := by
    intro c hHead
    rcases hPower with rfl | ⟨sign, digits, rfl, -, -⟩
    · exact ⟨(hStops c hHead).1, (hStops c hHead).2.1⟩
    · cases hHead
      decide
  rcases hFraction with rfl | ⟨digits, rfl, hDigits⟩
  · rw [List.nil_append] at hScan
    generalize power ++ text = behind at hScan hHead
    cases behind with
    | nil =>
        cases hScan
        rfl
    | cons c behind =>
        have hPoint := (hHead c rfl).2
        have hNone :
            scanFraction? (c :: behind) =
              some (none, c :: behind) := by
          simp [scanFraction?, hPoint]
        rw [hNone] at hScan
        cases hScan
        rfl
  · simp only [List.cons_append, scanFraction?] at hScan
    rcases Option.map_eq_some_iff.mp hScan with
      ⟨parts, hParts, hResult⟩
    cases hResult
    exact rest_of_someDigits? hDigits
      (fun c hMem => (hHead c hMem).1) hParts

/- Of a number nothing is left, and nothing else is taken. -/
theorem rest_of_scanNumber?
    {literal : List Char}
    (hLiteral : IsLiteral literal)
    (hStops : Stops text)
    {negative : Bool}
    {value : Json}
    (hScan :
      scanNumber? negative (literal ++ text) =
        some (value, rest)) :
    rest = text := by
  rcases hLiteral with
    ⟨digits, fraction, power, rfl, hDigits, hFraction, hPower⟩
  rcases scanNumber?_eq_some_iff.mp hScan with
    ⟨whole, afterWhole, taken, afterFraction, exponent,
      hWhole, -, hTaken, hExponent, -⟩
  have hEnds : ∀ c ∈ (fraction ++ (power ++ text)).head?,
      isDigit c = false := by
    intro c hHead
    rcases hFraction with rfl | ⟨digits, rfl, -⟩
    · rcases hPower with rfl | ⟨sign, digits, rfl, -, -⟩
      · exact (hStops c hHead).1
      · cases hHead
        decide
    · cases hHead
      decide
  rw [List.append_assoc, List.append_assoc] at hWhole
  have hFirst := rest_of_someDigits? hDigits hEnds hWhole
  rw [hFirst] at hTaken
  have hSecond :=
    rest_of_scanFraction? hFraction hPower hStops hTaken
  rw [hSecond] at hExponent
  exact rest_of_scanExponent? hPower hStops hExponent

------------------------------------------------------------
-- Written Numbers
------------------------------------------------------------

open Decimal (Scaled pointed)

theorem areDigits_toDigits (number : Nat) :
    AreDigits (Nat.toDigits 10 number) :=
  fun _ hMem => isDigit_of_mem_toDigits hMem

theorem areDigits_zeros (count : Nat) :
    AreDigits (Decimal.zeros count) := by
  intro c hMem
  rw [List.eq_of_mem_replicate hMem]
  rfl

theorem AreDigits.append
    {first second : List Char}
    (hFirst : AreDigits first)
    (hSecond : AreDigits second) :
    AreDigits (first ++ second) := by
  intro c hMem
  rcases List.mem_append.mp hMem with hMem | hMem
  · exact hFirst c hMem
  · exact hSecond c hMem

theorem isPower_signedPower (power : Int) :
    IsPower ('e' :: Decimal.signedPower power) := by
  refine Or.inr ⟨_, _, rfl, ?_, areDigits_toDigits _⟩
  split
  · exact Or.inl rfl
  · exact Or.inr rfl

theorem isLiteral_positional (decimal : Scaled) :
    IsLiteral (decimal.positional ['.', '0']) := by
  have hChars : AreDigits decimal.chars :=
    areDigits_toDigits _
  have hPoint : AreDigits ['0'] := by
    simp only [AreDigits, List.mem_singleton, forall_eq]
    rfl
  unfold Scaled.positional
  simp only
  split
  · exact ⟨decimal.chars ++
        Decimal.zeros decimal.exponent.toNat,
      ['.', '0'], [], by simp,
      hChars.append (areDigits_zeros _),
      Or.inr ⟨['0'], rfl, hPoint⟩, Or.inl rfl⟩
  split
  · refine ⟨decimal.chars.take decimal.pointPlace.toNat,
      '.' :: decimal.chars.drop decimal.pointPlace.toNat, [],
      by simp, ?_, Or.inr ⟨_, rfl, ?_⟩, Or.inl rfl⟩
    · exact fun c hMem => hChars c (List.mem_of_mem_take hMem)
    · exact fun c hMem => hChars c (List.mem_of_mem_drop hMem)
  · exact ⟨['0'],
      '.' :: (Decimal.zeros (-decimal.pointPlace).toNat ++
        decimal.chars),
      [], by simp, hPoint,
      Or.inr ⟨_, rfl, (areDigits_zeros _).append hChars⟩,
      Or.inl rfl⟩

theorem isLiteral_scientific (decimal : Scaled) :
    IsLiteral decimal.scientific := by
  have hChars : AreDigits decimal.chars :=
    areDigits_toDigits _
  have hPower := isPower_signedPower (decimal.pointPlace - 1)
  unfold Scaled.scientific
  cases hText : decimal.chars with
  | nil =>
      exact ⟨[], [], [], rfl, by simp [AreDigits], Or.inl rfl,
        Or.inl rfl⟩
  | cons digit more =>
      rw [hText, AreDigits, List.forall_mem_cons] at hChars
      have hDigit : AreDigits [digit] := by
        simpa [AreDigits] using hChars.1
      cases more with
      | nil =>
          exact ⟨[digit], [], _, rfl, hDigit, Or.inl rfl,
            hPower⟩
      | cons next rest =>
          exact ⟨[digit], '.' :: (next :: rest), _, rfl,
            hDigit, Or.inr ⟨_, rfl, hChars.2⟩, hPower⟩

/- A double is written as a literal behind its sign. -/
theorem exists_literal_pointed (x : Float) :
    ∃ c tail, IsLiteral (c :: tail) ∧ isDigit c = true ∧
      ((pointed x).toList = '-' :: c :: tail ∨
        (pointed x).toList = c :: tail) := by
  have hSign (body : List Char) (hBody : IsLiteral body)
      (hFirst : ∃ c tail, body = c :: tail ∧ isDigit c = true) :
      ∃ c tail, IsLiteral (c :: tail) ∧ isDigit c = true ∧
        ((if Decimal.isNegative x then ['-'] else []) ++ body =
            '-' :: c :: tail ∨
          (if Decimal.isNegative x then ['-'] else []) ++ body =
            c :: tail) := by
    rcases hFirst with ⟨c, tail, rfl, hDigit⟩
    refine ⟨c, tail, hBody, hDigit, ?_⟩
    cases Decimal.isNegative x with
    | true => exact Or.inl rfl
    | false => exact Or.inr rfl
  have hZero : IsLiteral ['0', '.', '0'] :=
    isLiteral_positional ⟨0, 0⟩
  simp only [pointed, Decimal.layOut, String.toList_ofList]
  apply hSign
  · split
    · exact hZero
    split
    · exact isLiteral_positional _
    · exact isLiteral_scientific _
  · split
    · exact ⟨'0', _, rfl, rfl⟩
    split
    · exact exists_cons_positional _ _
    · exact exists_cons_scientific _

/- So is an integer. -/
theorem exists_literal_toString (value : Int) :
    ∃ c tail, IsLiteral (c :: tail) ∧ isDigit c = true ∧
      ((toString value).toList = '-' :: c :: tail ∨
        (toString value).toList = c :: tail) := by
  cases hChars : Nat.toDigits 10 value.natAbs with
  | nil => exact absurd hChars Nat.toDigits_ne_nil
  | cons c tail =>
      have hDigits := areDigits_toDigits value.natAbs
      rw [hChars] at hDigits
      refine ⟨c, tail,
        ⟨c :: tail, [], [], by simp, hDigits, Or.inl rfl,
          Or.inl rfl⟩,
        hDigits c List.mem_cons_self, ?_⟩
      rw [toList_toString, hChars]
      split
      · exact Or.inl rfl
      · exact Or.inr rfl

------------------------------------------------------------
-- Taking Tokens Off A Text
------------------------------------------------------------

variable {all : List Token}

/- A token in front of a text that is scanned comes first. -/
theorem Scans.of_token
    {c : Char}
    (hScan : Scans (c :: text) all)
    (hGap : isGap c = false)
    {token : Token}
    (hNext : next? (c :: text) = some (token, rest)) :
    ∃ later, all = token :: later ∧ Scans rest later := by
  have hDrop : (c :: text).dropWhile isGap = c :: text := by
    simp [hGap]
  rcases hScan with ⟨steps, hScan⟩
  cases steps with
  | zero => simp [scanWithin, hGap] at hScan
  | succ steps =>
      simp only [scanWithin, hDrop, hNext, List.isEmpty_cons,
        Bool.false_eq_true, if_false] at hScan
      rcases Option.map_eq_some_iff.mp hScan with
        ⟨later, hLater, rfl⟩
      exact ⟨later, rfl, steps, hLater⟩

/- A text that does not begin with a token is not scanned. -/
theorem not_scans_of_next?
    {c : Char}
    (hGap : isGap c = false)
    (hNext : next? (c :: text) = none) :
    ¬Scans (c :: text) all := by
  have hDrop : (c :: text).dropWhile isGap = c :: text := by
    simp [hGap]
  rintro ⟨steps, hScan⟩
  cases steps with
  | zero => simp [scanWithin, hGap] at hScan
  | succ steps => simp [scanWithin, hDrop, hNext] at hScan

/- A gap in front of a text has no tokens of its own. -/
theorem Scans.of_gap
    {gap : List Char}
    (hGap : ∀ c ∈ gap, isGap c = true)
    (hScan : Scans (gap ++ text) all) :
    Scans text all := by
  have hDrop :
      (gap ++ text).dropWhile isGap = text.dropWhile isGap :=
    List.dropWhile_append_of_pos hGap
  rcases hScan with ⟨steps, hScan⟩
  refine ⟨steps, ?_⟩
  cases steps with
  | zero =>
      simp only [scanWithin, hDrop] at hScan ⊢
      exact hScan
  | succ steps =>
      simp only [scanWithin, hDrop] at hScan ⊢
      exact hScan

/- A number, or what is too large for one. -/
def IsNumber (value : Json) : Prop :=
  (∃ number, value = .integer number) ∨
    (∃ number, value = .float number) ∨ value = .unreadable

theorem isNumber_of_scanNumber?
    {negative : Bool}
    {value : Json}
    (hScan : scanNumber? negative text = some (value, rest)) :
    IsNumber value := by
  have hNumber (fits large : Bool) (number : Int)
      (double : Float) :
      IsNumber (if fits then .integer number
        else if large then .unreadable else .float double) := by
    cases fits with
    | true => exact Or.inl ⟨number, rfl⟩
    | false =>
        cases large with
        | true => exact Or.inr (Or.inr rfl)
        | false => exact Or.inr (Or.inl ⟨double, rfl⟩)
  rcases scanNumber?_eq_some_iff.mp hScan with
    ⟨whole, -, fraction, -, exponent, -, -, -, -, rfl⟩
  exact hNumber _ _ _ _

/- A literal that is scanned is one number, and no more. -/
theorem Scans.of_literal
    {c : Char}
    {tail written : List Char}
    (hScan : Scans (written ++ text) all)
    (hLiteral : IsLiteral (c :: tail))
    (hDigit : isDigit c = true)
    (hWritten :
      written = '-' :: c :: tail ∨ written = c :: tail)
    (hStops : Stops text) :
    ∃ value later, IsNumber value ∧
      all = .scalar value :: later ∧ Scans text later := by
  have hNumber {first : Char} {behind : List Char}
      {negative : Bool}
      (hGap : isGap first = false)
      (hFirst : next? (first :: behind) =
        (scanNumber? negative (c :: tail ++ text)).map
          (fun parts => (.scalar parts.1, parts.2)))
      (hScan : Scans (first :: behind) all) :
      ∃ value later, IsNumber value ∧
        all = .scalar value :: later ∧ Scans text later := by
    cases hParts : scanNumber? negative (c :: tail ++ text) with
    | none =>
        rw [hParts] at hFirst
        exact absurd hScan (not_scans_of_next? hGap hFirst)
    | some parts =>
        rw [hParts] at hFirst
        have hRest :=
          rest_of_scanNumber? hLiteral hStops hParts
        rcases hScan.of_token hGap hFirst with
          ⟨later, rfl, hLater⟩
        rw [hRest] at hLater
        exact ⟨parts.1, later,
          isNumber_of_scanNumber? hParts, rfl, hLater⟩
  rcases hWritten with rfl | rfl
  · exact hNumber rfl (next?_minus _) hScan
  · exact hNumber (isGap_of_isDigit hDigit)
      (next?_of_isDigit hDigit _) hScan

end Token

end Json

end TextAdventure
