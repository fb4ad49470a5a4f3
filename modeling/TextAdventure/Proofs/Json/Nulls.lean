import TextAdventure.Proofs.Json.Rereading

/-
  Doubles that are written as null.

  There is no JSON number for an infinite or undefined double.
  A value with nulls in the place of such doubles has the
  same text, so where one of them was written, null is read.

  Main declarations:
    * `Json.nulled`
    * `Json.prettyAt_nulled`
    * `Json.resembles_nulled_of_parse?_pretty`
    * `Json.Resembles.of_nulled`
-/

namespace TextAdventure

namespace Json

------------------------------------------------------------
-- Nulls For Doubles
------------------------------------------------------------

/- A double, or null if there is no number for it. -/
def numberOrNull (value : Float) : Json :=
  if value.isNaN || value.isInf then .null
  else .float value

/- A value with null for each double that has no number. -/
def nulled (json : Json) : Json := json.mapDoubles numberOrNull

theorem fitsDepth_numberOrNull
    (value : Float)
    (depth : Nat) : FitsDepth depth (numberOrNull value) := by
  unfold numberOrNull
  split <;> simp [FitsDepth]

theorem prettyAt_numberOrNull (depth : Nat) (value : Float) :
    prettyAt depth (numberOrNull value) =
      prettyAt depth (.float value) := by
  simp only [numberOrNull, prettyAt, floatText]
  split <;> rename_i hFinite
  · rfl
  · rw [prettyAt, floatText, if_neg hFinite]

mutual

/- The text is the same. -/
theorem prettyAt_nulled :
    (depth : Nat) →
    (json : Json) →
    prettyAt depth json.nulled = prettyAt depth json
| _, .null | _, .bool _ | _, .integer _ | _, .string _
| _, .unreadable | _, .array [] | _, .object [] => rfl
| depth, .float value => prettyAt_numberOrNull depth value
| depth, .array (item :: rest) => by
    have hItems := prettyItems_nulled (depth + 1) (item :: rest)
    simp only [mapItems] at hItems
    simp only [nulled, mapDoubles, mapItems, prettyAt, hItems]
| depth, .object (entry :: rest) => by
    have hMembers :=
      prettyMembers_nulled (depth + 1) (entry :: rest)
    simp only [mapMembers] at hMembers
    simp only [nulled, mapDoubles, mapMembers, prettyAt,
      hMembers]

theorem prettyItems_nulled :
    (depth : Nat) →
    (items : List Json) →
    prettyItems depth (mapItems numberOrNull items) =
      prettyItems depth items
| _, [] => rfl
| depth, [item] => by
    have hItem := prettyAt_nulled depth item
    simp only [nulled] at hItem
    simp only [mapItems, prettyItems, hItem]
| depth, item :: next :: rest => by
    have hItem := prettyAt_nulled depth item
    have hRest := prettyItems_nulled depth (next :: rest)
    simp only [nulled] at hItem
    simp only [mapItems] at hRest
    simp only [mapItems, prettyItems, hItem, hRest]

theorem prettyMembers_nulled :
    (depth : Nat) →
    (members : List (String × Json)) →
    prettyMembers depth (mapMembers numberOrNull members) =
      prettyMembers depth members
| _, [] => rfl
| depth, [(name, value)] => by
    have hValue := prettyAt_nulled depth value
    simp only [nulled] at hValue
    simp only [mapMembers, prettyMembers, hValue]
| depth, (name, value) :: next :: rest => by
    have hValue := prettyAt_nulled depth value
    have hRest := prettyMembers_nulled depth (next :: rest)
    simp only [nulled] at hValue
    simp only [mapMembers] at hRest
    simp only [mapMembers, prettyMembers, hValue, hRest]

end

theorem pretty_nulled (json : Json) :
    json.nulled.pretty = json.pretty :=
  prettyAt_nulled 0 json

------------------------------------------------------------
-- What Is Read
------------------------------------------------------------

open Reader (maxDepth)

/- For a double without a number null is read. -/
theorem resembles_nulled_of_parse?_pretty
    {json read : Json}
    (hFits : json.FitsDepth maxDepth)
    (hParse : parse? json.pretty = some read) :
    Resembles json.nulled read := by
  rw [← pretty_nulled] at hParse
  exact resembles_of_parse?_pretty
    (hFits.mapDoubles fitsDepth_numberOrNull) hParse

mutual

/- What resembles a value with nulls resembles the value. -/
theorem Resembles.of_nulled :
    (json : Json) →
    {read : Json} →
    Resembles json.nulled read →
    Resembles json read
| .null, _, hRead | .bool _, _, hRead
| .integer _, _, hRead | .string _, _, hRead
| .unreadable, _, hRead => hRead
| .float value, read, hRead => by
    simp only [nulled, mapDoubles, numberOrNull] at hRead
    split at hRead
    · simp only [Resembles] at hRead ⊢
      exact Or.inl hRead
    · exact hRead
| .array items, read, hRead => by
    simp only [nulled, mapDoubles, Resembles] at hRead ⊢
    rcases hRead with ⟨others, rfl, hOthers⟩
    exact ⟨others, rfl, allResemble_of_nulled items hOthers⟩
| .object members, read, hRead => by
    simp only [nulled, mapDoubles, Resembles] at hRead ⊢
    rcases hRead with ⟨others, rfl, hOthers⟩
    exact ⟨others, rfl,
      membersResemble_of_nulled members hOthers⟩

theorem allResemble_of_nulled :
    (items : List Json) →
    {read : List Json} →
    AllResemble (mapItems numberOrNull items) read →
    AllResemble items read
| [], _, hRead => hRead
| item :: rest, read, hRead => by
    simp only [mapItems, AllResemble] at hRead ⊢
    rcases hRead with ⟨other, later, rfl, hFirst, hRest⟩
    exact ⟨other, later, rfl, Resembles.of_nulled item hFirst,
      allResemble_of_nulled rest hRest⟩

theorem membersResemble_of_nulled :
    (members : List (String × Json)) →
    {read : List (String × Json)} →
    MembersResemble (mapMembers numberOrNull members) read →
    MembersResemble members read
| [], _, hRead => hRead
| (name, value) :: rest, read, hRead => by
    simp only [mapMembers, MembersResemble] at hRead ⊢
    rcases hRead with ⟨other, later, rfl, hFirst, hRest⟩
    exact ⟨other, later, rfl, Resembles.of_nulled value hFirst,
      membersResemble_of_nulled rest hRest⟩

end

end Json

end TextAdventure
