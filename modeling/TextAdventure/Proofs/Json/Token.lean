import Mathlib.Data.List.TakeWhile
import TextAdventure.Json.Token

/-
  The scanner of JSON text.

  Every token takes at least one character, and so a text has
  steps enough to be scanned to its end. A token that stands
  in front of a text is scanned with the tokens of that text
  behind it; a number, if the text does not go on with it.

  Main declarations:
    * `Json.Token.scanNumber?_eq_some_iff`
    * `Json.Token.length_lt_of_next?`
    * `Json.Token.Scans`
    * `Json.Token.Scans.token`
    * `Json.Token.Scans.number`
-/

namespace TextAdventure

namespace Json

namespace Token

variable {text tail rest : List Char}

------------------------------------------------------------
-- Strings
------------------------------------------------------------

/- A string ends before the text that follows it. -/
theorem length_lt_of_scanString
    {pieces read : List Piece}
    (hScan : scanString pieces text = some (read, rest)) :
    rest.length < text.length := by
  fun_induction scanString pieces text with
  | case1 => cases hScan
  | case2 =>
      cases hScan
      simp
  | case3 pieces a b c d text unit hUnit ih =>
      have hShorter := ih hScan
      simp only [List.length_cons]
      omega
  | case4 => simp at hScan
  | case5 pieces c text hNot image hImage ih =>
      have hShorter := ih hScan
      simp only [List.length_cons]
      omega
  | case6 => simp at hScan
  | case7 => simp at hScan
  | case8 pieces c text hQuote hUnit hEscape hTaken ih =>
      have hShorter := ih hScan
      simp only [List.length_cons]
      omega

------------------------------------------------------------
-- Digits
------------------------------------------------------------

theorem someDigits?_eq_some_iff {digits : List Nat} :
    someDigits? text = some (digits, rest) ↔
      splitDigits text = (digits, rest) ∧ digits ≠ [] := by
  cases hSplit : splitDigits text with
  | mk taken left =>
      cases taken with
      | nil =>
          simp [someDigits?, hSplit]
          rintro rfl -
          rfl
      | cons digit more =>
          simp [someDigits?, hSplit]
          rintro rfl -
          simp

theorem length_lt_of_someDigits?
    {digits : List Nat}
    (hScan : someDigits? text = some (digits, rest)) :
    rest.length < text.length := by
  rcases someDigits?_eq_some_iff.mp hScan with
    ⟨hSplit, hSome⟩
  cases hSplit
  have hParts :
      text.takeWhile isDigit ++ text.dropWhile isDigit =
        text :=
    List.takeWhile_append_dropWhile
  have hTaken : 0 < (text.takeWhile isDigit).length := by
    apply List.length_pos_iff.mpr
    intro hNone
    simp [hNone] at hSome
  have hLength := congrArg List.length hParts
  rw [List.length_append] at hLength
  omega

/- No character in front that would go on with a number. -/
def Stops (text : List Char) : Prop :=
  ∀ c ∈ text.head?,
    isDigit c = false ∧ c ≠ '.' ∧ c ≠ 'e' ∧ c ≠ 'E'

theorem stops_nil : Stops [] := by
  simp [Stops]

/- Digits end in front of what does not go on with them. -/
theorem splitDigits_append
    (text : List Char)
    (hStops : Stops rest) :
    splitDigits (text ++ rest) =
      ((splitDigits text).1, (splitDigits text).2 ++ rest) := by
  induction text with
  | nil =>
      cases rest with
      | nil => rfl
      | cons c text => simp [splitDigits, (hStops c rfl).1]
  | cons c text ih =>
      cases hDigit : isDigit c with
      | false => simp [splitDigits, hDigit]
      | true =>
          simp only [splitDigits, Prod.mk.injEq] at ih
          simp only [splitDigits, List.cons_append,
            List.takeWhile_cons_of_pos hDigit,
            List.dropWhile_cons_of_pos hDigit,
            List.map_cons, ih]

theorem someDigits?_append
    {digits : List Nat}
    (hSome : someDigits? text = some (digits, tail))
    (hStops : Stops rest) :
    someDigits? (text ++ rest) =
      some (digits, tail ++ rest) := by
  simp only [someDigits?] at hSome ⊢
  rw [splitDigits_append text hStops]
  split at hSome
  · simp at hSome
  · rename_i hFull
    rw [if_neg hFull]
    cases hSome
    rfl

theorem map_someDigits?_append
    {α : Type}
    {value : α}
    (make : List Nat → α)
    (hSome :
      (someDigits? text).map (fun parts =>
          (make parts.1, parts.2)) =
        some (value, tail))
    (hStops : Stops rest) :
    (someDigits? (text ++ rest)).map (fun parts =>
        (make parts.1, parts.2)) =
      some (value, tail ++ rest) := by
  rcases Option.map_eq_some_iff.mp hSome with
    ⟨parts, hParts, hResult⟩
  cases hResult
  rw [someDigits?_append hParts hStops]
  rfl

------------------------------------------------------------
-- Fractions And Exponents
------------------------------------------------------------

theorem Stops.scanFraction? (hStops : Stops rest) :
    scanFraction? rest = some (none, rest) := by
  cases rest with
  | nil => rfl
  | cons c text =>
      have hPoint := (hStops c rfl).2.1
      simp [Token.scanFraction?, hPoint]

theorem Stops.scanExponent? (hStops : Stops rest) :
    scanExponent? rest = some (none, rest) := by
  cases rest with
  | nil => rfl
  | cons c text =>
      rcases hStops c rfl with ⟨-, -, hSmall, hLarge⟩
      simp [Token.scanExponent?, hSmall, hLarge]

theorem length_le_of_scanFraction?
    {fraction : Option (List Nat)}
    (hScan : scanFraction? text = some (fraction, rest)) :
    rest.length ≤ text.length := by
  unfold scanFraction? at hScan
  split at hScan
  · rcases Option.map_eq_some_iff.mp hScan with
      ⟨parts, hParts, hResult⟩
    cases hResult
    have hShorter := length_lt_of_someDigits? hParts
    simp
    omega
  · cases hScan
    exact Nat.le_refl _

theorem length_le_of_scanExponent?
    {exponent : Option Int}
    (hScan : scanExponent? text = some (exponent, rest)) :
    rest.length ≤ text.length := by
  unfold scanExponent? at hScan
  split at hScan
  · split at hScan
    · split at hScan
      all_goals
        rcases Option.map_eq_some_iff.mp hScan with
          ⟨parts, hParts, hResult⟩
        cases hResult
        have hShorter := length_lt_of_someDigits? hParts
        simp
        omega
    · cases hScan
      exact Nat.le_refl _
  · cases hScan
    exact Nat.le_refl _

theorem scanFraction?_append
    {fraction : Option (List Nat)}
    (hSome : scanFraction? text = some (fraction, tail))
    (hStops : Stops rest) :
    scanFraction? (text ++ rest) =
      some (fraction, tail ++ rest) := by
  cases text with
  | nil =>
      cases hSome
      exact hStops.scanFraction?
  | cons c text =>
      by_cases hPoint : c = '.'
      · subst hPoint
        exact map_someDigits?_append some hSome hStops
      · have hNone :
            ∀ text, Token.scanFraction? (c :: text) =
              some (none, c :: text) := by
          intro text
          simp [Token.scanFraction?, hPoint]
        rw [hNone] at hSome
        cases hSome
        exact hNone (text ++ rest)

theorem scanExponent?_append
    {exponent : Option Int}
    (hSome : scanExponent? text = some (exponent, tail))
    (hStops : Stops rest) :
    scanExponent? (text ++ rest) =
      some (exponent, tail ++ rest) := by
  cases text with
  | nil =>
      cases hSome
      exact hStops.scanExponent?
  | cons c text =>
      by_cases hMark : c = 'e' ∨ c = 'E'
      · cases text with
        | nil =>
            simp [Token.scanExponent?, hMark, someDigits?,
              splitDigits] at hSome
        | cons d text =>
            by_cases hMinus : d = '-'
            · subst hMinus
              simp only [Token.scanExponent?, if_pos hMark,
                List.cons_append] at hSome ⊢
              exact map_someDigits?_append
                (fun digits =>
                  some (-Int.ofNat (Decimal.numeral digits)))
                hSome hStops
            by_cases hPlus : d = '+'
            · subst hPlus
              simp only [Token.scanExponent?, if_pos hMark,
                List.cons_append] at hSome ⊢
              exact map_someDigits?_append
                (fun digits =>
                  some (Int.ofNat (Decimal.numeral digits)))
                hSome hStops
            · have hUnsigned :
                  ∀ text, Token.scanExponent? (c :: d :: text) =
                    (someDigits? (d :: text)).map (fun parts =>
                      (some
                        (Int.ofNat (Decimal.numeral parts.1)),
                        parts.2)) := by
                intro text
                simp [Token.scanExponent?, hMark, hMinus, hPlus]
              rw [hUnsigned] at hSome
              exact (hUnsigned (text ++ rest)).trans
                (map_someDigits?_append
                  (fun digits =>
                    some (Int.ofNat (Decimal.numeral digits)))
                  hSome hStops)
      · simp only [Token.scanExponent?, List.cons_append,
          if_neg hMark] at hSome ⊢
        cases hSome
        rfl

------------------------------------------------------------
-- Numbers
------------------------------------------------------------

/- A number is its digits, a fraction and an exponent. -/
theorem scanNumber?_eq_some_iff
    {negative : Bool}
    {value : Json} :
    scanNumber? negative text = some (value, rest) ↔
      ∃ whole afterWhole fraction afterFraction exponent,
        someDigits? text = some (whole, afterWhole) ∧
          ¬(whole.length > 1 ∧ whole.head? = some 0) ∧
          scanFraction? afterWhole =
            some (fraction, afterFraction) ∧
          scanExponent? afterFraction =
            some (exponent, rest) ∧
          numberValue negative whole fraction exponent =
            value := by
  simp only [scanNumber?, Option.bind_eq_bind,
    Option.bind_eq_some_iff, Prod.exists]
  constructor
  · rintro ⟨whole, afterWhole, hWhole, hScan⟩
    split at hScan
    · simp at hScan
    · rename_i hFirst
      rcases Option.bind_eq_some_iff.mp hScan with
        ⟨⟨fraction, afterFraction⟩, hFraction, hScan⟩
      rcases Option.bind_eq_some_iff.mp hScan with
        ⟨⟨exponent, afterExponent⟩, hExponent, hScan⟩
      cases hScan
      exact ⟨whole, afterWhole, fraction, afterFraction,
        exponent, hWhole, hFirst, hFraction, hExponent, rfl⟩
  · rintro ⟨whole, afterWhole, fraction, afterFraction,
      exponent, hWhole, hFirst, hFraction, hExponent, rfl⟩
    refine ⟨whole, afterWhole, hWhole, ?_⟩
    simp only [if_neg hFirst, hFraction, Option.bind_some,
      hExponent]
    rfl

theorem length_lt_of_scanNumber?
    {negative : Bool}
    {value : Json}
    (hScan : scanNumber? negative text = some (value, rest)) :
    rest.length < text.length := by
  rcases scanNumber?_eq_some_iff.mp hScan with
    ⟨whole, afterWhole, fraction, afterFraction, exponent,
      hWhole, -, hFraction, hExponent, -⟩
  have hFirst := length_lt_of_someDigits? hWhole
  have hSecond := length_le_of_scanFraction? hFraction
  have hThird := length_le_of_scanExponent? hExponent
  omega

/- A number is read alike whatever comes behind it. -/
theorem scanNumber?_append
    {negative : Bool}
    {value : Json}
    (hScan : scanNumber? negative text = some (value, tail))
    (hStops : Stops rest) :
    scanNumber? negative (text ++ rest) =
      some (value, tail ++ rest) := by
  rcases scanNumber?_eq_some_iff.mp hScan with
    ⟨whole, afterWhole, fraction, afterFraction, exponent,
      hWhole, hFirst, hFraction, hExponent, hValue⟩
  exact scanNumber?_eq_some_iff.mpr
    ⟨whole, afterWhole ++ rest, fraction,
      afterFraction ++ rest, exponent,
      someDigits?_append hWhole hStops, hFirst,
      scanFraction?_append hFraction hStops,
      scanExponent?_append hExponent hStops, hValue⟩

------------------------------------------------------------
-- Steps
------------------------------------------------------------

theorem length_le_of_stripStart?
    {start : List Char}
    (hStrip : Text.stripStart? start text = some rest) :
    rest.length ≤ text.length := by
  rw [Text.stripStart?_eq_some_iff.mp hStrip,
    List.length_append]
  omega

/- Every token takes at least one character. -/
theorem length_lt_of_next?
    {token : Token}
    (hNext : next? text = some (token, rest)) :
    rest.length < text.length := by
  unfold next? at hNext
  split at hNext
  case h_1 => simp at hNext
  case h_8 text =>
    rcases Option.map_eq_some_iff.mp hNext with
      ⟨parts, hParts, hResult⟩
    cases hResult
    have hShorter := length_lt_of_scanString hParts
    rw [List.length_cons]
    omega
  case h_9 | h_10 | h_11 =>
    rcases Option.map_eq_some_iff.mp hNext with
      ⟨tail, hParts, hResult⟩
    cases hResult
    have hShorter := length_le_of_stripStart? hParts
    rw [List.length_cons]
    omega
  case h_12 =>
    rcases Option.map_eq_some_iff.mp hNext with
      ⟨parts, hParts, hResult⟩
    cases hResult
    have hShorter := length_lt_of_scanNumber? hParts
    rw [List.length_cons]
    omega
  case h_13 =>
    rcases Option.map_eq_some_iff.mp hNext with
      ⟨parts, hParts, hResult⟩
    cases hResult
    exact length_lt_of_scanNumber? hParts
  all_goals
    cases hNext
    simp

/- More steps than are needed change no result. -/
theorem scanWithin_mono
    {steps more : Nat}
    {text : List Char}
    {tokens : List Token}
    (hScan : scanWithin steps text = some tokens)
    (hLe : steps ≤ more) :
    scanWithin more text = some tokens := by
  induction steps generalizing more text tokens with
  | zero =>
      simp only [scanWithin] at hScan
      split at hScan
      · rename_i hEmpty
        cases more <;> simp_all [scanWithin]
      · cases hScan
  | succ steps ih =>
      cases more with
      | zero => omega
      | succ more =>
          have hRest := fun {text tokens} hText =>
            @ih more text tokens hText (by omega)
          simp only [scanWithin] at hScan ⊢
          split at hScan
          · rename_i hEmpty
            simpa [hEmpty] using hScan
          · rename_i hEmpty
            simp only [hEmpty]
            cases hNext : next? (text.dropWhile isGap) with
            | none => simp [hNext] at hScan
            | some parts =>
                simp only [hNext] at hScan
                rcases Option.map_eq_some_iff.mp hScan with
                  ⟨later, hLater, rfl⟩
                simp [hRest hLater]

/- The number of characters is steps enough. -/
theorem scanWithin_length
    {steps : Nat}
    {tokens : List Token}
    (hScan : scanWithin steps text = some tokens) :
    scanWithin text.length text = some tokens := by
  induction steps generalizing text tokens with
  | zero => exact scanWithin_mono hScan (Nat.zero_le _)
  | succ steps ih =>
      simp only [scanWithin] at hScan
      split at hScan
      · rename_i hEmpty
        cases hScan
        have hNone : scanWithin 0 text = some [] := by
          simp only [scanWithin, if_pos hEmpty]
        exact scanWithin_mono hNone (Nat.zero_le _)
      · rename_i hFull
        cases hNext : next? (text.dropWhile isGap) with
        | none => simp [hNext] at hScan
        | some parts =>
            simp only [hNext] at hScan
            rcases Option.map_eq_some_iff.mp hScan with
              ⟨later, hLater, rfl⟩
            have hShorter := length_lt_of_next? hNext
            have hGap :=
              List.length_dropWhile_le isGap text
            have hLength :
                text.length = (text.length - 1) + 1 := by
              omega
            have hTail :=
              scanWithin_mono (ih hLater)
                (show parts.2.length ≤ text.length - 1 by
                  omega)
            rw [hLength]
            simp only [scanWithin, if_neg hFull, hNext, hTail]
            rfl

/- The tokens that a list of characters is scanned to. -/
def Scans (text : List Char) (tokens : List Token) : Prop :=
  ∃ steps, scanWithin steps text = some tokens

theorem scan_eq_some_iff
    {text : String}
    {tokens : List Token} :
    scan text = some tokens ↔ Scans text.toList tokens := by
  constructor
  · intro hScan
    exact ⟨text.toList.length, hScan⟩
  · rintro ⟨steps, hScan⟩
    exact scanWithin_length hScan

theorem scans_nil : Scans [] [] := ⟨0, rfl⟩

variable {read : List Token}

/- A gap in front of a text has no tokens. -/
theorem Scans.gap
    {gap : List Char}
    (hGap : ∀ c ∈ gap, isGap c = true)
    (hRest : Scans rest read) :
    Scans (gap ++ rest) read := by
  rcases hRest with ⟨steps, hScan⟩
  have hDrop :
      (gap ++ rest).dropWhile isGap =
        rest.dropWhile isGap :=
    List.dropWhile_append_of_pos hGap
  have hSame :
      scanWithin steps (gap ++ rest) =
        scanWithin steps rest := by
    cases steps <;> simp only [scanWithin, hDrop]
  exact ⟨steps, hSame.trans hScan⟩

/- A token in front of a text comes before its tokens. -/
theorem Scans.token
    {c : Char}
    {token : Token}
    (hGap : isGap c = false)
    (hNext : next? (c :: text) = some (token, rest))
    (hRest : Scans rest read) :
    Scans (c :: text) (token :: read) := by
  rcases hRest with ⟨steps, hScan⟩
  have hDrop : (c :: text).dropWhile isGap = c :: text := by
    simp [hGap]
  exact ⟨steps + 1, by simp [scanWithin, hDrop, hNext, hScan]⟩

/- The first token of a text without a gap in front. -/
theorem scans_cons_iff
    {c : Char}
    {token : Token}
    (hGap : isGap c = false) :
    Scans (c :: text) (token :: read) ↔
      ∃ rest, next? (c :: text) = some (token, rest) ∧
        Scans rest read := by
  have hDrop : (c :: text).dropWhile isGap = c :: text := by
    simp [hGap]
  constructor
  · rintro ⟨steps, hScan⟩
    cases steps with
    | zero => simp [scanWithin, hGap] at hScan
    | succ steps =>
        cases hNext : next? (c :: text) with
        | none => simp [scanWithin, hGap, hNext] at hScan
        | some parts =>
            have hTokens :
                (scanWithin steps parts.2).map
                    (parts.1 :: ·) =
                  some (token :: read) := by
              simpa [scanWithin, hDrop, hNext] using hScan
            rcases Option.map_eq_some_iff.mp hTokens with
              ⟨later, hLater, hSame⟩
            cases hSame
            exact ⟨parts.2, rfl, steps, hLater⟩
  · rintro ⟨rest, hNext, hRest⟩
    exact hRest.token hGap hNext

theorem isGap_of_scans_nil
    (hNone : Scans text []) :
    ∀ c ∈ text, isGap c = true := by
  rcases hNone with ⟨steps, hScan⟩
  have hDrop : text.dropWhile isGap = [] := by
    cases steps with
    | zero =>
        simp only [scanWithin] at hScan
        split at hScan
        · rename_i hEmpty
          exact List.isEmpty_iff.mp hEmpty
        · cases hScan
    | succ steps =>
        simp only [scanWithin] at hScan
        split at hScan
        · rename_i hEmpty
          exact List.isEmpty_iff.mp hEmpty
        · split at hScan
          · cases hScan
          · simp at hScan
  exact List.dropWhile_eq_nil_iff.mp hDrop

------------------------------------------------------------
-- Numbers In A Text
------------------------------------------------------------

theorem isGap_of_isDigit
    {c : Char}
    (hDigit : isDigit c = true) :
    isGap c = false := by
  rw [Bool.eq_false_iff]
  intro hGap
  simp only [isGap, Bool.or_eq_true, beq_iff_eq] at hGap
  rcases hGap with ((rfl | rfl) | rfl) | rfl <;>
    exact absurd hDigit (by decide)

theorem next?_of_isDigit
    {c : Char}
    (hDigit : isDigit c = true)
    (text : List Char) :
    next? (c :: text) =
      (scanNumber? false (c :: text)).map (fun parts =>
        (.scalar parts.1, parts.2)) := by
  unfold next?
  split
  case h_1 hText => cases hText
  case h_13 => rfl
  all_goals
    rename_i hText
    cases hText
    exact absurd hDigit (by decide)

theorem next?_minus (text : List Char) :
    next? ('-' :: text) =
      (scanNumber? true text).map (fun parts =>
        (.scalar parts.1, parts.2)) := rfl

theorem isGap_of_first
    {c : Char}
    (hFirst : c = '-' ∨ isDigit c = true) :
    isGap c = false := by
  rcases hFirst with rfl | hDigit
  · rfl
  · exact isGap_of_isDigit hDigit

/- A number is the same token whatever comes behind it. -/
theorem next?_append
    {c : Char}
    {token : Token}
    (hFirst : c = '-' ∨ isDigit c = true)
    (hNext : next? (c :: text) = some (token, tail))
    (hStops : Stops rest) :
    next? (c :: (text ++ rest)) =
      some (token, tail ++ rest) := by
  rcases hFirst with rfl | hDigit
  · rw [next?_minus] at hNext ⊢
    rcases Option.map_eq_some_iff.mp hNext with
      ⟨parts, hParts, hResult⟩
    cases hResult
    rw [scanNumber?_append hParts hStops]
    rfl
  · rw [next?_of_isDigit hDigit] at hNext ⊢
    rcases Option.map_eq_some_iff.mp hNext with
      ⟨parts, hParts, hResult⟩
    cases hResult
    rw [← List.cons_append, scanNumber?_append hParts hStops]
    rfl

/- A number that is a token alone is one in front of a text. -/
theorem Scans.number
    {c : Char}
    {token : Token}
    (hRest : Scans rest read)
    (hFirst : c = '-' ∨ isDigit c = true)
    (hAlone : Scans (c :: text) [token])
    (hStops : Stops rest) :
    Scans (c :: (text ++ rest)) (token :: read) := by
  have hGap := isGap_of_first hFirst
  rcases (scans_cons_iff hGap).mp hAlone with
    ⟨tail, hNext, hTail⟩
  have hBehind : Scans (tail ++ rest) read :=
    hRest.gap (isGap_of_scans_nil hTail)
  exact hBehind.token hGap (next?_append hFirst hNext hStops)

end Token

end Json

end TextAdventure
