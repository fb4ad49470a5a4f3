import TextAdventure.Proofs.Json.Text

/-
  What is read of a text is what was written, but for numbers.

  Nothing is said here of what a number is read as. A text
  that can be read at all is nevertheless read as a value of
  the same shape, with the same names, strings and truth
  values in the same places.

  Main declarations:
    * `Json.Resembles`
    * `Json.yields_of_prettyAt`
    * `Json.resembles_of_parse?_pretty`
-/

namespace TextAdventure

namespace Json

open Token (Scans Stops)

------------------------------------------------------------
-- Resemblance
------------------------------------------------------------

mutual

/-
  A value read for another one that was written: the same but
  for its numbers, for each of which some scalar is read.
-/
def Resembles : Json → Json → Prop
| .null, read => read = .null
| .bool value, read => read = .bool value
| .integer _, read => IsScalar read
| .float _, read => IsScalar read
| .string value, read => read = .string value
| .array items, read =>
    ∃ others, read = .array others ∧ AllResemble items others
| .object members, read =>
    ∃ others, read = .object others ∧
      MembersResemble members others
| .unreadable, read => read = .null

def AllResemble : List Json → List Json → Prop
| [], read => read = []
| item :: rest, read =>
    ∃ other later, read = other :: later ∧
      Resembles item other ∧ AllResemble rest later

def MembersResemble :
    List (String × Json) → List (String × Json) → Prop
| [], read => read = []
| (name, value) :: rest, read =>
    ∃ other later, read = (name, other) :: later ∧
      Resembles value other ∧ MembersResemble rest later

end

------------------------------------------------------------
-- Taking Values Off A Text
------------------------------------------------------------

section Taking

variable {text : List Char} {all : List Token}

theorem of_scans_bool
    (value : Bool)
    (hScan :
      Scans ((if value then "true" else "false").toList ++
        text) all) :
    ∃ later, all = .scalar (.bool value) :: later ∧
      Scans text later := by
  cases value with
  | true => exact hScan.of_token rfl (next?_true text)
  | false => exact hScan.of_token rfl (next?_false text)

theorem of_scans_quoted
    (value : String)
    (hScan : Scans ((quoted value).toList ++ text) all) :
    ∃ later, all = .string (some value) :: later ∧
      Scans text later := by
  rcases Token.next?_quoted value text with
    ⟨tail, hText, hNext⟩
  rw [hText] at hScan
  exact hScan.of_token rfl hNext

theorem of_scans_lineAt
    (level : Nat)
    (hScan : Scans ((lineAt level).toList ++ text) all) :
    Scans text all := by
  refine Scans.of_gap ?_ hScan
  intro c hMem
  simp only [lineAt, String.toList_ofList, List.mem_cons,
    List.mem_replicate] at hMem
  rcases hMem with rfl | ⟨-, rfl⟩ <;> rfl

/- The name of a member is two tokens, with its colon. -/
theorem of_scans_member
    (name : String)
    (hScan :
      Scans ((quoted name).toList ++ (':' :: ' ' :: text))
        all) :
    ∃ later, all = .string (some name) :: .colon :: later ∧
      Scans text later := by
  rcases of_scans_quoted name hScan with ⟨marked, rfl, hMark⟩
  rcases hMark.of_token rfl rfl with ⟨later, rfl, hBlank⟩
  have hGap : ∀ c ∈ [' '], Token.isGap c = true := by
    simp
    rfl
  exact ⟨later, rfl, Scans.of_gap hGap hBlank⟩

theorem of_scans_integer
    (value : Int)
    (hStops : Stops text)
    (hScan : Scans ((toString value).toList ++ text) all) :
    ∃ read later, IsScalar read ∧
      all = .scalar read :: later ∧ Scans text later := by
  rcases Token.exists_literal_toString value with
    ⟨c, tail, hLiteral, hDigit, hWritten⟩
  rcases hScan.of_literal hLiteral hDigit hWritten hStops
    with ⟨read, later, hNumber, hAll, hLater⟩
  exact ⟨read, later, Or.inr hNumber, hAll, hLater⟩

end Taking

/- What is said of the tokens at the front of a text. -/
def Yields
    (depth : Nat)
    (json : Json)
    (text : List Char)
    (all : List Token) : Prop :=
  ∃ read later, all = tokens read ++ later ∧
    Resembles json read ∧ FitsDepth depth read ∧
      Scans text later

theorem yields_scalar
    {depth : Nat}
    {json read : Json}
    {text : List Char}
    {later : List Token}
    (hScalar : IsScalar read)
    (hResembles : Resembles json read)
    (hLater : Scans text later) :
    Yields depth json text (.scalar read :: later) :=
  ⟨read, later, by rw [hScalar.tokens_eq]; rfl, hResembles,
    hScalar.fitsDepth depth, hLater⟩

mutual

/-
  A written value that is scanned yields the tokens of a value
  that resembles it, and what follows is scanned behind them.
-/
theorem yields_of_prettyAt :
    (json : Json) →
    (level : Nat) →
    {depth : Nat} →
    {text : List Char} →
    {all : List Token} →
    FitsDepth depth json →
    Stops text →
    Scans ((prettyAt level json).toList ++ text) all →
    Yields depth json text all
| .null => by
    intro _ _ _ _ _ _ hScan
    rcases of_scans_null hScan with ⟨later, rfl, hLater⟩
    exact yields_scalar (Or.inl rfl) (by simp [Resembles])
      hLater
| .unreadable => by
    intro _ _ _ _ _ _ hScan
    rcases of_scans_null hScan with ⟨later, rfl, hLater⟩
    exact yields_scalar (Or.inl rfl) (by simp [Resembles])
      hLater
| .bool value => by
    intro _ _ _ _ _ _ hScan
    rcases of_scans_bool value hScan with
      ⟨later, rfl, hLater⟩
    exact ⟨.bool value, later, by simp [tokens],
      by simp [Resembles], by simp [FitsDepth], hLater⟩
| .integer value => by
    intro _ _ _ _ _ hStops hScan
    rcases of_scans_integer value hStops hScan with
      ⟨read, later, hScalar, rfl, hLater⟩
    exact yields_scalar hScalar
      (by simpa [Resembles] using hScalar) hLater
| .float value => by
    intro _ _ _ _ _ hStops hScan
    rcases of_scans_float value hStops hScan with
      ⟨read, later, hScalar, rfl, hLater⟩
    exact yields_scalar hScalar
      (by simpa [Resembles] using hScalar) hLater
| .string value => by
    intro _ _ _ _ _ _ hScan
    rcases of_scans_quoted value hScan with
      ⟨later, rfl, hLater⟩
    exact ⟨.string value, later, by simp [tokens],
      by simp [Resembles], by simp [FitsDepth], hLater⟩
| .array [] => by
    intro _ _ text all hFits _ hScan
    rcases hFits.of_array with ⟨depth, rfl, -⟩
    have hMarks : Scans ('[' :: ']' :: text) all := by
      simpa [prettyAt] using hScan
    rcases hMarks.of_token rfl rfl with ⟨closed, rfl, hClose⟩
    rcases hClose.of_token rfl rfl with ⟨later, rfl, hLater⟩
    exact ⟨.array [], later, by simp [tokens],
      by simp [Resembles, AllResemble],
      by simp [FitsDepth, AllFitDepth], hLater⟩
| .array (item :: rest) => by
    intro level _ text all hFits _ hScan
    rcases hFits.of_array with ⟨depth, rfl, hAllFit⟩
    simp only [AllFitDepth] at hAllFit
    have hMarks :
        Scans ('[' :: ((lineAt (level + 1)).toList ++
          ((prettyAt (level + 1) item).toList ++
            (laterItemsText (level + 1) rest ++
              ((lineAt level).toList ++
                ']' :: text))))) all := by
      simpa [prettyAt, toList_prettyItems] using hScan
    rcases hMarks.of_token rfl rfl with ⟨opened, rfl, hOpen⟩
    rcases yields_of_prettyAt item (level + 1) hAllFit.1
        (stops_laterItemsText _ rest (stops_lineAt level _))
        (of_scans_lineAt _ hOpen) with
      ⟨first, behind, rfl, hFirst, hFirstFits, hBehind⟩
    rcases yields_of_laterItems rest (level + 1) hAllFit.2
        (stops_lineAt level _) hBehind with
      ⟨others, close, rfl, hOthers, hOthersFit, hClose⟩
    rcases (of_scans_lineAt _ hClose).of_token rfl rfl with
      ⟨later, rfl, hLater⟩
    refine ⟨.array (first :: others), later,
      by simp [tokens], ?_, ?_, hLater⟩
    · simp only [Resembles, AllResemble]
      exact ⟨_, rfl, first, others, rfl, hFirst, hOthers⟩
    · simp [FitsDepth, AllFitDepth, hFirstFits, hOthersFit]
| .object [] => by
    intro _ _ text all hFits _ hScan
    rcases hFits.of_object with ⟨depth, rfl, -⟩
    have hMarks : Scans ('\x7b' :: '\x7d' :: text) all := by
      simpa [prettyAt] using hScan
    rcases hMarks.of_token rfl rfl with ⟨closed, rfl, hClose⟩
    rcases hClose.of_token rfl rfl with ⟨later, rfl, hLater⟩
    exact ⟨.object [], later, by simp [tokens],
      by simp [Resembles, MembersResemble],
      by simp [FitsDepth, MembersFitDepth], hLater⟩
| .object ((name, value) :: rest) => by
    intro level _ text all hFits _ hScan
    rcases hFits.of_object with ⟨depth, rfl, hAllFit⟩
    simp only [MembersFitDepth] at hAllFit
    have hMarks :
        Scans ('\x7b' :: ((lineAt (level + 1)).toList ++
          ((quoted name).toList ++ (':' :: ' ' ::
            ((prettyAt (level + 1) value).toList ++
              (laterMembersText (level + 1) rest ++
                ((lineAt level).toList ++
                  '\x7d' :: text))))))) all := by
      simpa [prettyAt, toList_prettyMembers] using hScan
    rcases hMarks.of_token rfl rfl with ⟨opened, rfl, hOpen⟩
    rcases of_scans_member name (of_scans_lineAt _ hOpen) with
      ⟨named, rfl, hNamed⟩
    rcases yields_of_prettyAt value (level + 1) hAllFit.1
        (stops_laterMembersText _ rest (stops_lineAt level _))
        hNamed with
      ⟨first, behind, rfl, hFirst, hFirstFits, hBehind⟩
    rcases yields_of_laterMembers rest (level + 1) hAllFit.2
        (stops_lineAt level _) hBehind with
      ⟨others, close, rfl, hOthers, hOthersFit, hClose⟩
    rcases (of_scans_lineAt _ hClose).of_token rfl rfl with
      ⟨later, rfl, hLater⟩
    refine ⟨.object ((name, first) :: others), later,
      by simp [tokens], ?_, ?_, hLater⟩
    · simp only [Resembles, MembersResemble]
      exact ⟨_, rfl, first, others, rfl, hFirst, hOthers⟩
    · simp [FitsDepth, MembersFitDepth, hFirstFits,
        hOthersFit]

theorem yields_of_laterItems :
    (items : List Json) →
    (level : Nat) →
    {depth : Nat} →
    {text : List Char} →
    {all : List Token} →
    AllFitDepth depth items →
    Stops text →
    Scans (laterItemsText level items ++ text) all →
    ∃ read later, all = laterItems read ++ later ∧
      AllResemble items read ∧ AllFitDepth depth read ∧
        Scans text later
| [], _, _, _, all, _, _, hScan =>
    ⟨[], all, by simp [laterItems], by simp [AllResemble],
      by simp [AllFitDepth], hScan⟩
| item :: rest, level, _, text, all, hFits, hStops,
    hScan => by
    simp only [AllFitDepth] at hFits
    have hMarks :
        Scans (',' :: ((lineAt level).toList ++
          ((prettyAt level item).toList ++
            (laterItemsText level rest ++ text)))) all := by
      simpa [laterItemsText] using hScan
    rcases hMarks.of_token rfl rfl with ⟨marked, rfl, hMark⟩
    rcases yields_of_prettyAt item level hFits.1
        (stops_laterItemsText level rest hStops)
        (of_scans_lineAt _ hMark) with
      ⟨first, behind, rfl, hFirst, hFirstFits, hBehind⟩
    rcases yields_of_laterItems rest level hFits.2 hStops
        hBehind with
      ⟨others, later, rfl, hOthers, hOthersFit, hLater⟩
    refine ⟨first :: others, later, by simp [laterItems],
      ?_, ?_, hLater⟩
    · simp only [AllResemble]
      exact ⟨first, others, rfl, hFirst, hOthers⟩
    · simp [AllFitDepth, hFirstFits, hOthersFit]

theorem yields_of_laterMembers :
    (members : List (String × Json)) →
    (level : Nat) →
    {depth : Nat} →
    {text : List Char} →
    {all : List Token} →
    MembersFitDepth depth members →
    Stops text →
    Scans (laterMembersText level members ++ text) all →
    ∃ read later, all = laterMembers read ++ later ∧
      MembersResemble members read ∧
        MembersFitDepth depth read ∧ Scans text later
| [], _, _, _, all, _, _, hScan =>
    ⟨[], all, by simp [laterMembers],
      by simp [MembersResemble], by simp [MembersFitDepth],
      hScan⟩
| (name, value) :: rest, level, _, text, all, hFits, hStops,
    hScan => by
    simp only [MembersFitDepth] at hFits
    have hMarks :
        Scans (',' :: ((lineAt level).toList ++
          ((quoted name).toList ++ (':' :: ' ' ::
            ((prettyAt level value).toList ++
              (laterMembersText level rest ++
                text)))))) all := by
      simpa [laterMembersText] using hScan
    rcases hMarks.of_token rfl rfl with ⟨marked, rfl, hMark⟩
    rcases of_scans_member name (of_scans_lineAt _ hMark) with
      ⟨named, rfl, hNamed⟩
    rcases yields_of_prettyAt value level hFits.1
        (stops_laterMembersText level rest hStops) hNamed with
      ⟨first, behind, rfl, hFirst, hFirstFits, hBehind⟩
    rcases yields_of_laterMembers rest level hFits.2 hStops
        hBehind with
      ⟨others, later, rfl, hOthers, hOthersFit, hLater⟩
    refine ⟨(name, first) :: others, later,
      by simp [laterMembers], ?_, ?_, hLater⟩
    · simp only [MembersResemble]
      exact ⟨first, others, rfl, hFirst, hOthers⟩
    · simp [MembersFitDepth, hFirstFits, hOthersFit]

end

------------------------------------------------------------
-- Texts
------------------------------------------------------------

open Reader (step? deliver? maxDepth)

/- A text that can be read is read as a resembling value. -/
theorem resembles_of_parse?_pretty
    {json read : Json}
    (hFits : json.FitsDepth maxDepth)
    (hParse : parse? json.pretty = some read) :
    Resembles json read := by
  rcases Option.bind_eq_some_iff.mp hParse with
    ⟨all, hScan, hTokens⟩
  have hText :
      Scans ((prettyAt 0 json).toList ++ []) all := by
    rw [List.append_nil]
    exact Token.scan_eq_some_iff.mp hScan
  rcases yields_of_prettyAt json 0 hFits Token.stops_nil hText
    with ⟨found, later, rfl, hResembles, hFound, hLater⟩
  have hEnd : later = [] := by
    rcases hLater with ⟨steps, hEnd⟩
    cases steps <;> simpa [Token.scanWithin, eq_comm] using hEnd
  have hReader :
      found.tokens.foldlM step? Reader.start =
        deliver? found [] :=
    foldlM_tokens found hFound (Nat.le_refl _)
  rw [hEnd, List.append_nil, ofTokens?, hReader] at hTokens
  have hSame : some found = some read := hTokens
  rw [← Option.some.inj hSame]
  exact hResembles

end Json

end TextAdventure
