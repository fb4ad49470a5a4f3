import TextAdventure.Json.Reader
import TextAdventure.Json.Record
import TextAdventure.Proofs.Dict
import TextAdventure.Proofs.Json.Numbers

/-
  The indented text of a JSON value is read as the value, but
  for doubles.

  This holds of values that are not too deep, have nothing
  unreadable in them and no integer out of range, and whose
  doubles can be read when they are written alone. Each of
  these doubles is then read as it is read alone. A text is
  first scanned to the tokens of what it is read as, and these
  are then read.

  Main declarations:
    * `Json.mapDoubles`
    * `Json.reading`
    * `Json.HasReading`
    * `Json.tokens`
    * `Json.scans_prettyAt`
    * `Json.foldlM_tokens`
    * `Json.parse?_pretty`
-/

namespace TextAdventure

namespace Json

open Token (Scans Stops FitsNumber IsNumber)

------------------------------------------------------------
-- Readings
------------------------------------------------------------

mutual

/- A value with others in the places of its doubles. -/
def mapDoubles (change : Float → Json) : Json → Json
| .null => .null
| .bool value => .bool value
| .integer value => .integer value
| .float value => change value
| .string value => .string value
| .array items => .array (mapItems change items)
| .object members => .object (mapMembers change members)
| .unreadable => .unreadable

def mapItems (change : Float → Json) : List Json → List Json
| [] => []
| item :: rest =>
    mapDoubles change item :: mapItems change rest

def mapMembers (change : Float → Json) :
    List (String × Json) → List (String × Json)
| [] => []
| (name, value) :: rest =>
    (name, mapDoubles change value) ::
      mapMembers change rest

end

/- What the text of a double is read as, or null. -/
def readDouble (value : Float) : Json :=
  (parse? (floatText value)).getD .null

/-
  What the text of a value is read as: each double as its own
  text is read, and all else as it is.
-/
def reading (json : Json) : Json := json.mapDoubles readDouble

mutual

/- A value of which each number can be read alone. -/
def HasReading : Json → Prop
| .null => True
| .bool _ => True
| .integer value => FitsNumber value
| .float value => ∃ read, parse? (floatText value) = some read
| .string _ => True
| .array items => AllHaveReadings items
| .object members => MembersHaveReadings members
| .unreadable => False

def AllHaveReadings : List Json → Prop
| [] => True
| item :: rest => HasReading item ∧ AllHaveReadings rest

def MembersHaveReadings : List (String × Json) → Prop
| [] => True
| (_, value) :: rest =>
    HasReading value ∧ MembersHaveReadings rest

end

mutual

/- A value with at most so many parts inside each other. -/
def FitsDepth : Nat → Json → Prop
| _, .null => True
| _, .bool _ => True
| _, .integer _ => True
| _, .float _ => True
| _, .string _ => True
| depth + 1, .array items => AllFitDepth depth items
| depth + 1, .object members => MembersFitDepth depth members
| 0, .array _ => False
| 0, .object _ => False
| _, .unreadable => True

def AllFitDepth (depth : Nat) : List Json → Prop
| [] => True
| item :: rest => FitsDepth depth item ∧ AllFitDepth depth rest

def MembersFitDepth (depth : Nat) :
    List (String × Json) → Prop
| [] => True
| (_, value) :: rest =>
    FitsDepth depth value ∧ MembersFitDepth depth rest

end

/- What has parts is inside of what may have one part more. -/
theorem FitsDepth.of_array
    {depth : Nat}
    {items : List Json}
    (hFits : FitsDepth depth (.array items)) :
    ∃ inner, depth = inner + 1 ∧ AllFitDepth inner items := by
  cases depth with
  | zero => simp [FitsDepth] at hFits
  | succ inner =>
      exact ⟨inner, rfl, by simpa [FitsDepth] using hFits⟩

theorem FitsDepth.of_object
    {depth : Nat}
    {members : List (String × Json)}
    (hFits : FitsDepth depth (.object members)) :
    ∃ inner, depth = inner + 1 ∧
      MembersFitDepth inner members := by
  cases depth with
  | zero => simp [FitsDepth] at hFits
  | succ inner =>
      exact ⟨inner, rfl, by simpa [FitsDepth] using hFits⟩

section Doubles

variable {change : Float → Json}

mutual

/- Doubles that become scalars make nothing deeper. -/
theorem FitsDepth.mapDoubles
    (hScalars :
      ∀ value depth, FitsDepth depth (change value)) :
    {depth : Nat} →
    (json : Json) →
    FitsDepth depth json →
    FitsDepth depth (json.mapDoubles change)
| _, .null, _ | _, .bool _, _ | _, .integer _, _
| _, .string _, _ | _, .unreadable, _ => by
    simp [Json.mapDoubles, FitsDepth]
| _, .float value, _ => by
    simp only [Json.mapDoubles]
    exact hScalars value _
| _, .array items, hFits => by
    rcases hFits.of_array with ⟨depth, rfl, hItems⟩
    simpa only [Json.mapDoubles, FitsDepth] using
      allFitDepth_mapItems hScalars items hItems
| _, .object members, hFits => by
    rcases hFits.of_object with ⟨depth, rfl, hMembers⟩
    simpa only [Json.mapDoubles, FitsDepth] using
      membersFitDepth_mapMembers hScalars members hMembers

theorem allFitDepth_mapItems
    (hScalars :
      ∀ value depth, FitsDepth depth (change value)) :
    {depth : Nat} →
    (items : List Json) →
    AllFitDepth depth items →
    AllFitDepth depth (mapItems change items)
| _, [], _ => by simp [mapItems, AllFitDepth]
| _, item :: rest, hFits => by
    simp only [AllFitDepth] at hFits
    simpa only [mapItems, AllFitDepth] using
      And.intro (FitsDepth.mapDoubles hScalars item hFits.1)
        (allFitDepth_mapItems hScalars rest hFits.2)

theorem membersFitDepth_mapMembers
    (hScalars :
      ∀ value depth, FitsDepth depth (change value)) :
    {depth : Nat} →
    (members : List (String × Json)) →
    MembersFitDepth depth members →
    MembersFitDepth depth (mapMembers change members)
| _, [], _ => by simp [mapMembers, MembersFitDepth]
| _, (name, value) :: rest, hFits => by
    simp only [MembersFitDepth] at hFits
    simpa only [mapMembers, MembersFitDepth] using
      And.intro (FitsDepth.mapDoubles hScalars value hFits.1)
        (membersFitDepth_mapMembers hScalars rest hFits.2)

end

end Doubles

section Data

variable {α : Type} {encode : α → Json}

theorem hasReading_ofStrings (texts : List String) :
    HasReading (ofStrings texts) := by
  unfold ofStrings ofList HasReading
  induction texts with
  | nil => trivial
  | cons text rest ih => exact ⟨trivial, ih⟩

theorem hasReading_ofOption
    (hEach : ∀ value, HasReading (encode value))
    (value : Option α) :
    HasReading (ofOption encode value) := by
  cases value with
  | none => trivial
  | some value => exact hEach value

theorem hasReading_ofDict
    {dict : Dict α}
    (hEach :
      dict.All (fun value => HasReading (encode value))) :
    HasReading (ofDict encode dict) := by
  unfold Dict.All at hEach
  unfold ofDict HasReading
  generalize dict.entries = entries at hEach
  induction entries with
  | nil => trivial
  | cons entry rest ih =>
      rcases List.forall_mem_cons.mp hEach with
        ⟨hFirst, hRest⟩
      exact ⟨hFirst, ih hRest⟩

/- Data without doubles is read as it was written. -/
theorem reading_ofStrings (texts : List String) :
    (ofStrings texts).reading = ofStrings texts := by
  unfold reading ofStrings ofList
  rw [mapDoubles]
  congr 1
  induction texts with
  | nil => rfl
  | cons text rest ih =>
      rw [List.map_cons, mapItems, ih, mapDoubles]

theorem reading_ofOption
    (hEach :
      ∀ value, (encode value).reading = encode value)
    (value : Option α) :
    (ofOption encode value).reading =
      ofOption encode value := by
  cases value with
  | none => rfl
  | some value => exact hEach value

/- The values of a dictionary are read one by one. -/
theorem reading_ofDict
    {change : α → α}
    {dict : Dict α}
    (hEach :
      dict.All (fun value =>
        (encode value).reading = encode (change value))) :
    (ofDict encode dict).reading =
      ofDict encode (dict.map change) := by
  unfold Dict.All reading at hEach
  unfold reading ofDict Dict.map
  rw [mapDoubles]
  congr 1
  dsimp only
  generalize dict.entries = entries at hEach
  induction entries with
  | nil => rfl
  | cons entry rest ih =>
      rcases List.forall_mem_cons.mp hEach with
        ⟨hFirst, hRest⟩
      simp only [List.map_cons, mapMembers, hFirst, ih hRest]

end Data

------------------------------------------------------------
-- Tokens Of Values
------------------------------------------------------------

mutual

/- The tokens of a value. -/
def tokens : Json → List Token
| .string text => [.string (some text)]
| .array [] => [.openArray, .closeArray]
| .array (item :: rest) =>
    .openArray :: (tokens item ++ laterItems rest) ++
      [.closeArray]
| .object [] => [.openObject, .closeObject]
| .object ((name, value) :: rest) =>
    .openObject :: .string (some name) :: .colon ::
      (tokens value ++ laterMembers rest) ++ [.closeObject]
| value => [.scalar value]

/- The tokens of items behind the first one. -/
def laterItems : List Json → List Token
| [] => []
| item :: rest => .comma :: (tokens item ++ laterItems rest)

/- The tokens of members behind the first one. -/
def laterMembers : List (String × Json) → List Token
| [] => []
| (name, value) :: rest =>
    .comma :: .string (some name) :: .colon ::
      (tokens value ++ laterMembers rest)

end

/- A value that is one token and no string. -/
def IsScalar (value : Json) : Prop :=
  value = .null ∨ IsNumber value

theorem IsScalar.tokens_eq
    {value : Json}
    (hScalar : IsScalar value) :
    tokens value = [.scalar value] := by
  rcases hScalar with rfl | ⟨_, rfl⟩ | ⟨_, rfl⟩ | rfl <;>
    simp [tokens]

theorem IsScalar.fitsDepth
    {value : Json}
    (hScalar : IsScalar value)
    (depth : Nat) : FitsDepth depth value := by
  rcases hScalar with rfl | ⟨_, rfl⟩ | ⟨_, rfl⟩ | rfl <;>
    simp [FitsDepth]

------------------------------------------------------------
-- Scanning
------------------------------------------------------------

theorem stops_cons
    {c : Char}
    (hStop :
      Token.isDigit c = false ∧ c ≠ '.' ∧ c ≠ 'e' ∧ c ≠ 'E')
    (text : List Char) :
    Stops (c :: text) := by
  intro other hOther
  cases hOther
  exact hStop

variable {text : List Char} {read : List Token}

/- A mark or a word in front of a text is one token. -/
theorem scans_word
    (c : Char)
    (word : List Char)
    {token : Token}
    (hGap : Token.isGap c = false)
    (hNext :
      Token.next? (c :: (word ++ text)) = some (token, text))
    (hRest : Scans text read) :
    Scans (c :: (word ++ text)) (token :: read) :=
  hRest.token hGap hNext

theorem next?_null (text : List Char) :
    Token.next? ('n' :: ("ull".toList ++ text)) =
      some (.scalar .null, text) := by
  simp [Token.next?, Text.stripStart?]

theorem next?_true (text : List Char) :
    Token.next? ('t' :: ("rue".toList ++ text)) =
      some (.scalar (.bool true), text) := by
  simp [Token.next?, Text.stripStart?]

theorem next?_false (text : List Char) :
    Token.next? ('f' :: ("alse".toList ++ text)) =
      some (.scalar (.bool false), text) := by
  simp [Token.next?, Text.stripStart?]

theorem scans_null (hRest : Scans text read) :
    Scans ("null".toList ++ text)
      (.scalar .null :: read) :=
  scans_word 'n' "ull".toList rfl (next?_null text) hRest

theorem scans_bool
    (value : Bool)
    (hRest : Scans text read) :
    Scans ((if value then "true" else "false").toList ++ text)
      (.scalar (.bool value) :: read) := by
  cases value with
  | true =>
      exact scans_word 't' "rue".toList rfl (next?_true text)
        hRest
  | false =>
      exact scans_word 'f' "alse".toList rfl (next?_false text)
        hRest

theorem scans_lineAt
    (depth : Nat)
    (hRest : Scans text read) :
    Scans ((lineAt depth).toList ++ text) read := by
  refine hRest.gap ?_
  intro c hMem
  simp only [lineAt, String.toList_ofList, List.mem_cons,
    List.mem_replicate] at hMem
  rcases hMem with rfl | ⟨-, rfl⟩ <;> rfl

theorem stops_lineAt (depth : Nat) (text : List Char) :
    Stops ((lineAt depth).toList ++ text) := by
  rw [lineAt, String.toList_ofList]
  exact stops_cons (by decide) _

/- A value that is one token is read as it. -/
theorem ofTokens?_scalar
    {value json : Json}
    {tokens : List Token}
    (hRead : ofTokens? (.scalar value :: tokens) = some json) :
    tokens = [] ∧ value = json := by
  cases tokens with
  | nil =>
      cases hRead
      exact ⟨rfl, rfl⟩
  | cons token rest => cases hRead

theorem of_scans_null
    {all : List Token}
    (hScan : Scans ("null".toList ++ text) all) :
    ∃ later, all = .scalar .null :: later ∧
      Scans text later :=
  hScan.of_token rfl (next?_null text)

/- Of a double some scalar is read, if anything. -/
theorem of_scans_float
    {all : List Token}
    (value : Float)
    (hStops : Stops text)
    (hScan : Scans ((floatText value).toList ++ text) all) :
    ∃ read later, IsScalar read ∧
      all = .scalar read :: later ∧ Scans text later := by
  unfold floatText at hScan
  split at hScan
  · rcases of_scans_null hScan with ⟨later, hAll, hLater⟩
    exact ⟨.null, later, Or.inl rfl, hAll, hLater⟩
  · rcases Token.exists_literal_pointed value with
      ⟨c, tail, hLiteral, hDigit, hWritten⟩
    rcases hScan.of_literal hLiteral hDigit hWritten hStops
      with ⟨read, later, hNumber, hAll, hLater⟩
    exact ⟨read, later, Or.inr hNumber, hAll, hLater⟩

/- Alone it is read as just that scalar. -/
theorem scalar_of_parse?_floatText
    {value : Float}
    {json : Json}
    (hReads : parse? (floatText value) = some json) :
    IsScalar json ∧
      Scans (floatText value).toList [.scalar json] := by
  rcases Option.bind_eq_some_iff.mp hReads with
    ⟨all, hScan, hTokens⟩
  rw [Token.scan_eq_some_iff] at hScan
  have hText : Scans ((floatText value).toList ++ []) all := by
    rw [List.append_nil]
    exact hScan
  rcases of_scans_float value Token.stops_nil hText with
    ⟨found, later, hScalar, rfl, -⟩
  rcases ofTokens?_scalar hTokens with ⟨rfl, rfl⟩
  exact ⟨hScalar, hScan⟩

theorem isScalar_readDouble (value : Float) :
    IsScalar (readDouble value) := by
  unfold readDouble
  cases hReads : parse? (floatText value) with
  | none => exact Or.inl rfl
  | some json => exact (scalar_of_parse?_floatText hReads).1

/- And as the same scalar it is read in any text. -/
theorem scans_float
    {value : Float}
    {json : Json}
    (hReads : parse? (floatText value) = some json)
    (hStops : Stops text)
    (hRest : Scans text read) :
    Scans ((floatText value).toList ++ text)
      (tokens json ++ read) := by
  rcases scalar_of_parse?_floatText hReads with
    ⟨hScalar, hScan⟩
  rw [hScalar.tokens_eq]
  by_cases hNone : (value.isNaN || value.isInf) = true
  · have hText : floatText value = "null" := if_pos hNone
    rw [hText] at hScan ⊢
    rw [← List.append_nil "null".toList] at hScan
    rcases of_scans_null hScan with ⟨later, hNull, -⟩
    cases hNull
    exact scans_null hRest
  · have hText : floatText value = Decimal.pointed value :=
      if_neg hNone
    rcases Token.exists_cons_pointed value with
      ⟨c, tail, hChars, hFirst⟩
    rw [hText, hChars] at hScan ⊢
    exact hRest.number hFirst hScan hStops

/- A value is scanned with the name of its member. -/
theorem scans_member
    (name : String)
    (hValue : Scans text read) :
    Scans ((quoted name).toList ++ (':' :: ' ' :: text))
      (.string (some name) :: .colon :: read) := by
  have hGap : Scans ([' '] ++ text) read :=
    hValue.gap (by simp; rfl)
  exact (scans_word ':' [] rfl rfl hGap).quoted name

theorem prettyItems_cons
    (level : Nat)
    (item next : Json)
    (rest : List Json) :
    prettyItems level (item :: next :: rest) =
      lineAt level ++ prettyAt level item ++ "," ++
        prettyItems level (next :: rest) := by
  rw [prettyItems]
  rintro ⟨⟩

theorem prettyMembers_cons
    (level : Nat)
    (name : String)
    (value : Json)
    (next : String × Json)
    (rest : List (String × Json)) :
    prettyMembers level ((name, value) :: next :: rest) =
      lineAt level ++ quoted name ++ ": " ++
        prettyAt level value ++ "," ++
          prettyMembers level (next :: rest) := by
  rw [prettyMembers]
  rintro ⟨⟩

/- The text of the items behind the first one. -/
def laterItemsText (level : Nat) : List Json → List Char
| [] => []
| item :: rest =>
    ',' :: ((lineAt level).toList ++
      ((prettyAt level item).toList ++
        laterItemsText level rest))

theorem toList_prettyItems
    (level : Nat)
    (item : Json)
    (rest : List Json) :
    (prettyItems level (item :: rest)).toList =
      (lineAt level).toList ++
        ((prettyAt level item).toList ++
          laterItemsText level rest) := by
  induction rest generalizing item with
  | nil => simp [prettyItems, laterItemsText]
  | cons next rest ih =>
      rw [prettyItems_cons, String.toList_append, ih]
      simp [laterItemsText]

/- The text of the members behind the first one. -/
def laterMembersText (level : Nat) :
    List (String × Json) → List Char
| [] => []
| (name, value) :: rest =>
    ',' :: ((lineAt level).toList ++
      ((quoted name).toList ++ (':' :: ' ' ::
        ((prettyAt level value).toList ++
          laterMembersText level rest))))

theorem toList_prettyMembers
    (level : Nat)
    (name : String)
    (value : Json)
    (rest : List (String × Json)) :
    (prettyMembers level ((name, value) :: rest)).toList =
      (lineAt level).toList ++
        ((quoted name).toList ++ (':' :: ' ' ::
          ((prettyAt level value).toList ++
            laterMembersText level rest))) := by
  induction rest generalizing name value with
  | nil => simp [prettyMembers, laterMembersText]
  | cons next rest ih =>
      rw [prettyMembers_cons, String.toList_append, ih]
      simp [laterMembersText]

theorem stops_laterItemsText
    (level : Nat)
    (items : List Json)
    (hStops : Stops text) :
    Stops (laterItemsText level items ++ text) := by
  cases items with
  | nil => exact hStops
  | cons item rest => exact stops_cons (by decide) _

theorem stops_laterMembersText
    (level : Nat)
    (members : List (String × Json))
    (hStops : Stops text) :
    Stops (laterMembersText level members ++ text) := by
  cases members with
  | nil => exact hStops
  | cons member rest => exact stops_cons (by decide) _

mutual

/-
  A written value is scanned to the tokens of what it is read
  as. What follows must not go on with a number, and inside
  arrays and objects it never does: a comma or a line break
  comes first.
-/
theorem scans_prettyAt :
    (json : Json) →
    (level : Nat) →
    {text : List Char} →
    {read : List Token} →
    HasReading json →
    Stops text →
    Scans text read →
    Scans ((prettyAt level json).toList ++ text)
      (tokens json.reading ++ read)
| .null, _, _, _, _, _, hRest => scans_null hRest
| .bool value, _, _, _, _, _, hRest =>
    scans_bool value hRest
| .integer _, _, _, _, hReading, hStops, hRest =>
    hRest.integer hReading hStops
| .float _, _, _, _, hReading, hStops, hRest => by
    rcases hReading with ⟨json, hReads⟩
    rw [reading, mapDoubles, readDouble, hReads]
    exact scans_float hReads hStops hRest
| .string value, _, _, _, _, _, hRest =>
    hRest.quoted value
| .array [], _, _, _, _, _, hRest => by
    have hClose :=
      scans_word ']' [] rfl rfl hRest
    have hOpen :=
      scans_word '[' [] rfl rfl hClose
    simpa [prettyAt, reading, mapDoubles, mapItems, tokens]
      using hOpen
| .array (item :: rest), level, _, _, hReading, _,
    hRest => by
    simp only [HasReading, AllHaveReadings] at hReading
    have hClose :=
      scans_lineAt level
        (scans_word ']' [] rfl rfl hRest)
    have hLater :=
      scans_laterItems rest (level + 1) hReading.2
        (stops_lineAt level _) hClose
    have hItem :=
      scans_prettyAt item (level + 1) hReading.1
        (stops_laterItemsText _ rest (stops_lineAt level _))
        hLater
    have hOpen :=
      scans_word '[' [] rfl rfl
        (scans_lineAt (level + 1) hItem)
    simpa [prettyAt, toList_prettyItems, reading, mapDoubles,
      mapItems, tokens] using hOpen
| .object [], _, _, _, _, _, hRest => by
    have hClose :=
      scans_word '\x7d' [] rfl rfl hRest
    have hOpen :=
      scans_word '\x7b' [] rfl rfl hClose
    simpa [prettyAt, reading, mapDoubles, mapMembers, tokens]
      using hOpen
| .object ((name, value) :: rest), level, _, _, hReading, _,
    hRest => by
    simp only [HasReading, MembersHaveReadings] at hReading
    have hClose :=
      scans_lineAt level
        (scans_word '\x7d' [] rfl rfl hRest)
    have hLater :=
      scans_laterMembers rest (level + 1) hReading.2
        (stops_lineAt level _) hClose
    have hValue :=
      scans_prettyAt value (level + 1) hReading.1
        (stops_laterMembersText _ rest (stops_lineAt level _))
        hLater
    have hMember := scans_member name hValue
    have hOpen :=
      scans_word '\x7b' [] rfl rfl
        (scans_lineAt (level + 1) hMember)
    simpa [prettyAt, toList_prettyMembers, reading,
      mapDoubles, mapMembers, tokens] using hOpen

theorem scans_laterItems :
    (items : List Json) →
    (level : Nat) →
    {text : List Char} →
    {read : List Token} →
    AllHaveReadings items →
    Stops text →
    Scans text read →
    Scans (laterItemsText level items ++ text)
      (laterItems (mapItems readDouble items) ++ read)
| [], _, _, _, _, _, hRest => hRest
| item :: rest, level, text, read, hReading, hStops,
    hRest => by
    simp only [AllHaveReadings] at hReading
    have hLater :=
      scans_laterItems rest level hReading.2 hStops
        hRest
    have hItem :=
      scans_prettyAt item level hReading.1
        (stops_laterItemsText level rest hStops) hLater
    have hComma :=
      scans_word ',' [] rfl rfl
        (scans_lineAt level hItem)
    simpa [laterItemsText, reading, mapItems, laterItems]
      using hComma

theorem scans_laterMembers :
    (members : List (String × Json)) →
    (level : Nat) →
    {text : List Char} →
    {read : List Token} →
    MembersHaveReadings members →
    Stops text →
    Scans text read →
    Scans (laterMembersText level members ++ text)
      (laterMembers (mapMembers readDouble members) ++ read)
| [], _, _, _, _, _, hRest => hRest
| (name, value) :: rest, level, text, read, hReading, hStops,
    hRest => by
    simp only [MembersHaveReadings] at hReading
    have hLater :=
      scans_laterMembers rest level hReading.2 hStops
        hRest
    have hValue :=
      scans_prettyAt value level hReading.1
        (stops_laterMembersText level rest hStops) hLater
    have hMember := scans_member name hValue
    have hComma :=
      scans_word ',' [] rfl rfl
        (scans_lineAt level hMember)
    simpa [laterMembersText, reading, mapMembers,
      laterMembers] using hComma

end

------------------------------------------------------------
-- Steps Of The Reader
------------------------------------------------------------

namespace Reader

variable {frames : List Frame}

@[simp] theorem step?_value (token : Token) :
    step? ⟨frames, .value⟩ token =
      beginValue? frames token := rfl

@[simp] theorem step?_firstItem :
    step? ⟨frames, .firstItem⟩ .closeArray =
      closeArray? frames := rfl

@[simp] theorem step?_firstKey :
    step? ⟨frames, .firstKey⟩ .closeObject =
      closeObject? frames := rfl

@[simp] theorem step?_firstKey_string (key : Option String) :
    step? ⟨frames, .firstKey⟩ (.string key) =
      beginMember? frames (.string key) := rfl

@[simp] theorem step?_key (token : Token) :
    step? ⟨frames, .key⟩ token =
      beginMember? frames token := rfl

@[simp] theorem step?_colon :
    step? ⟨frames, .colon⟩ .colon =
      some ⟨frames, .value⟩ := rfl

@[simp] theorem step?_comma_array (items : List Json) :
    step? ⟨.array items :: frames, .separator⟩ .comma =
      some ⟨.array items :: frames, .value⟩ := rfl

@[simp] theorem step?_comma_object
    (members : Option (List (String × Json))) :
    step? ⟨.object members :: frames, .separator⟩ .comma =
      some ⟨.object members :: frames, .key⟩ := rfl

@[simp] theorem step?_closeArray :
    step? ⟨frames, .separator⟩ .closeArray =
      closeArray? frames := rfl

@[simp] theorem step?_closeObject :
    step? ⟨frames, .separator⟩ .closeObject =
      closeObject? frames := rfl

/- An array or object that is not too deep is handed on. -/
theorem deliverWhole?_of_length
    (json : Json)
    (hDepth : frames.length < maxDepth) :
    deliverWhole? json frames = deliver? json frames := by
  have hDrop : frames.drop (maxDepth - 1) = [] :=
    List.drop_eq_nil_of_le (by omega)
  rw [deliverWhole?, hDrop]
  rfl

end Reader

------------------------------------------------------------
-- Reading
------------------------------------------------------------

open Reader (step? deliver? maxDepth beginValue? beginMember?
  closeArray? closeObject? deliverWhole?_of_length)

/- The first item of an array may stand where its end may. -/
theorem foldlM_tokens_firstItem
    (json : Json)
    (frames : List Frame) :
    (tokens json).foldlM step? ⟨frames, .firstItem⟩ =
      (tokens json).foldlM step? ⟨frames, .value⟩ := by
  cases json with
  | array items => cases items <;> rfl
  | object members => cases members <;> rfl
  | _ => rfl

mutual

/-
  The tokens of a value are read as the value. Every array
  or object trades one level of depth for one open frame, so
  that the two together stay within what can be read.
-/
theorem foldlM_tokens :
    (json : Json) →
    {depth : Nat} →
    {frames : List Frame} →
    FitsDepth depth json →
    frames.length + depth ≤ maxDepth →
    (tokens json).foldlM step? ⟨frames, .value⟩ =
      deliver? json frames
| .null, _, _, _, _ => by simp [tokens, beginValue?]
| .bool _, _, _, _, _ => by simp [tokens, beginValue?]
| .integer _, _, _, _, _ => by simp [tokens, beginValue?]
| .float _, _, _, _, _ => by simp [tokens, beginValue?]
| .string _, _, _, _, _ => by simp [tokens, beginValue?]
| .unreadable, _, _, _, _ => by simp [tokens, beginValue?]
| .array [], depth + 1, frames, _, hDepth => by
    rw [← deliverWhole?_of_length (.array []) (by omega)]
    simp [tokens, beginValue?, closeArray?]
| .array (item :: rest), depth + 1, frames, hFits,
    hDepth => by
    simp only [FitsDepth, AllFitDepth] at hFits
    have hInner :
        (Frame.array [] :: frames).length + depth ≤
          maxDepth := by
      simp only [List.length_cons]
      omega
    have hItem := foldlM_tokens item hFits.1 hInner
    have hLater :=
      foldlM_laterItems rest [item] hFits.2 hDepth
    rw [← deliverWhole?_of_length (.array (item :: rest))
      (by omega)]
    simp [tokens, beginValue?, foldlM_tokens_firstItem,
      hItem, deliver?, hLater, closeArray?]
| .object [], depth + 1, frames, _, hDepth => by
    rw [← deliverWhole?_of_length (.object []) (by omega)]
    simp [tokens, beginValue?, closeObject?]
| .object ((name, value) :: rest), depth + 1, frames, hFits,
    hDepth => by
    simp only [FitsDepth, MembersFitDepth] at hFits
    have hInner :
        (Frame.member (some []) (some name) ::
          frames).length + depth ≤ maxDepth := by
      simp only [List.length_cons]
      omega
    have hValue := foldlM_tokens value hFits.1 hInner
    have hLater :=
      foldlM_laterMembers rest [(name, value)] hFits.2
        hDepth
    rw [← deliverWhole?_of_length
      (.object ((name, value) :: rest)) (by omega)]
    simp [tokens, beginValue?, beginMember?, hValue,
      deliver?, hLater, closeObject?]

/- Later items are kept in front of those read before. -/
theorem foldlM_laterItems :
    (items : List Json) →
    (read : List Json) →
    {depth : Nat} →
    {frames : List Frame} →
    AllFitDepth depth items →
    frames.length + (depth + 1) ≤ maxDepth →
    (laterItems items).foldlM step?
        ⟨.array read :: frames, .separator⟩ =
      some ⟨.array (items.reverse ++ read) :: frames,
        .separator⟩
| [], read, _, _, _, _ => rfl
| item :: rest, read, depth, frames, hFits, hDepth => by
    simp only [AllFitDepth] at hFits
    have hInner :
        (Frame.array read :: frames).length + depth ≤
          maxDepth := by
      simp only [List.length_cons]
      omega
    have hItem := foldlM_tokens item hFits.1 hInner
    have hLater :=
      foldlM_laterItems rest (item :: read) hFits.2 hDepth
    simp [laterItems, hItem, deliver?, hLater]

/- Later members are kept in front of those read before. -/
theorem foldlM_laterMembers :
    (members : List (String × Json)) →
    (read : List (String × Json)) →
    {depth : Nat} →
    {frames : List Frame} →
    MembersFitDepth depth members →
    frames.length + (depth + 1) ≤ maxDepth →
    (laterMembers members).foldlM step?
        ⟨.object (some read) :: frames, .separator⟩ =
      some ⟨.object (some (members.reverse ++ read)) ::
        frames, .separator⟩
| [], read, _, _, _, _ => rfl
| (name, value) :: rest, read, depth, frames, hFits,
    hDepth => by
    simp only [MembersFitDepth] at hFits
    have hInner :
        (Frame.member (some read) (some name) ::
          frames).length + depth ≤ maxDepth := by
      simp only [List.length_cons]
      omega
    have hValue := foldlM_tokens value hFits.1 hInner
    have hLater :=
      foldlM_laterMembers rest ((name, value) :: read)
        hFits.2 hDepth
    simp [laterMembers, beginMember?, hValue, deliver?,
      hLater]

end

------------------------------------------------------------
-- Texts
------------------------------------------------------------

/- The text of a value with a reading is read as that. -/
theorem parse?_pretty
    {json : Json}
    (hFits : json.FitsDepth maxDepth)
    (hReading : json.HasReading) :
    parse? json.pretty = some json.reading := by
  have hScans :=
    scans_prettyAt json 0 hReading Token.stops_nil
      Token.scans_nil
  simp only [List.append_nil] at hScans
  have hScan :
      Token.scan json.pretty = some json.reading.tokens :=
    Token.scan_eq_some_iff.mpr hScans
  have hFitsToo : json.reading.FitsDepth maxDepth :=
    hFits.mapDoubles
      (fun value => (isScalar_readDouble value).fitsDepth)
  have hRead :
      json.reading.tokens.foldlM step? Reader.start =
        deliver? json.reading [] :=
    foldlM_tokens json.reading hFitsToo (Nat.le_refl _)
  rw [parse?, hScan, Option.bind_eq_bind, Option.bind_some,
    ofTokens?, hRead]
  rfl

end Json

end TextAdventure
