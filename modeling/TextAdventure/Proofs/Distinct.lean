import Mathlib.Data.List.Nodup

/-
  Lists of texts that are gathered without repetition.

  Gathering appends every text that is not there yet. It
  keeps what is there and adds the first occurrences of what
  is not.

  Main declarations:
    * `gather`
    * `gather_eq_append`
    * `nodup_eraseDups`
    * `eraseDups_eq_self`
    * `foldl_gather_singleton`
-/

namespace TextAdventure

/- Texts appended in order, unless they are there already. -/
def gather (seen texts : List String) : List String :=
  texts.foldl
    (fun seen text =>
      if seen.contains text then seen else seen ++ [text])
    seen

/- What is gathered is what was there and what is new. -/
theorem gather_eq_append
    (seen texts : List String) :
    gather seen texts =
      seen ++ (texts.removeAll seen).eraseDups := by
  induction texts generalizing seen with
  | nil => simp [gather, List.removeAll]
  | cons text texts ih =>
      by_cases hSeen : text ∈ seen
      · have hStep :
            gather seen (text :: texts) = gather seen texts := by
          simp [gather, hSeen]
        rw [hStep, ih]
        simp [List.removeAll, hSeen]
      · have hStep :
            gather seen (text :: texts) =
              gather (seen ++ [text]) texts := by
          simp [gather, hSeen]
        have hRemove :
            texts.removeAll (seen ++ [text]) =
              (texts.removeAll seen).filter
                (fun other => !other == text) := by
          simp only [List.removeAll, List.filter_filter]
          apply List.filter_congr
          intro other _
          by_cases hSame : other = text <;> simp [hSame]
        have hCons :
            (text :: texts).removeAll seen =
              text :: texts.removeAll seen := by
          simp [List.removeAll, hSeen]
        rw [hStep, ih, hRemove, hCons, List.eraseDups_cons,
          List.append_assoc, List.singleton_append]

theorem mem_gather_iff
    (seen texts : List String)
    (text : String) :
    text ∈ gather seen texts ↔
      text ∈ seen ∨ text ∈ texts := by
  rw [gather_eq_append, List.mem_append, List.mem_eraseDups]
  by_cases hSeen : text ∈ seen <;>
    simp [List.removeAll, hSeen]

/- Without repetitions there is nothing to erase. -/
theorem eraseDups_eq_self
    {texts : List String}
    (hNodup : texts.Nodup) :
    texts.eraseDups = texts := by
  induction texts with
  | nil => rfl
  | cons text texts ih =>
      have hParts := List.nodup_cons.mp hNodup
      have hFilter :
          texts.filter (fun other => !other == text) =
            texts := by
        rw [List.filter_eq_self]
        intro other hOther
        have hNe : other ≠ text := by
          rintro rfl
          exact hParts.1 hOther
        simpa using hNe
      rw [List.eraseDups_cons, hFilter, ih hParts.2]

/- Erasing repetitions leaves none. -/
theorem nodup_eraseDups :
    ∀ texts : List String, texts.eraseDups.Nodup
| [] => List.nodup_nil
| text :: texts => by
    rw [List.eraseDups_cons]
    refine List.nodup_cons.mpr ⟨?_, nodup_eraseDups _⟩
    simp [List.mem_eraseDups]
termination_by texts => texts.length
decreasing_by
  have hLe :=
    List.length_filter_le (fun other => !other == text) texts
  simp only [List.length_cons]
  omega

theorem nodup_gather
    {seen : List String}
    (hSeen : seen.Nodup)
    (texts : List String) :
    (gather seen texts).Nodup := by
  rw [gather_eq_append]
  refine List.nodup_append.mpr
    ⟨hSeen, nodup_eraseDups _, ?_⟩
  intro old hOld new hNew hSame
  rw [List.mem_eraseDups] at hNew
  simp [List.removeAll, ← hSame, hOld] at hNew

/- A change that commutes with all of a fold goes first. -/
theorem foldl_comm
    {α : Type}
    (change : α → String → α)
    (other : α → α)
    (hComm : ∀ start text,
      other (change start text) = change (other start) text)
    (texts : List String)
    (start : α) :
    other (texts.foldl change start) =
      texts.foldl change (other start) := by
  induction texts generalizing start with
  | nil => rfl
  | cons text rest ih =>
      rw [List.foldl_cons, ih, List.foldl_cons, hComm]

/-
  Where the order and the number of changes do not matter,
  gathered texts change as much as all of them.
-/
theorem foldl_gather_singleton
    {α : Type}
    {change : α → String → α}
    (hComm : ∀ start first second,
      change (change start first) second =
        change (change start second) first)
    (hIdem : ∀ start text,
      change (change start text) text = change start text)
    (seen : List String)
    (text : String)
    (start : α) :
    (gather seen [text]).foldl change start =
      change (seen.foldl change start) text := by
  by_cases hSeen : text ∈ seen
  · have hGather : gather seen [text] = seen := by
      simp [gather, hSeen]
    have hAbsorb :
        change (seen.foldl change start) text =
          seen.foldl change start := by
      clear hGather
      induction seen generalizing start with
      | nil => simp at hSeen
      | cons first rest ih =>
          rw [List.foldl_cons]
          rcases List.mem_cons.mp hSeen with rfl | hRest
          · have hFirst :=
              foldl_comm change
                (fun start => change start text)
                (fun start other => hComm start other text)
                rest (change start text)
            rw [hFirst, hIdem]
          · exact ih _ hRest
    rw [hGather, hAbsorb]
  · have hGather :
        gather seen [text] = seen ++ [text] := by
      simp [gather, hSeen]
    rw [hGather, List.foldl_append]
    rfl

end TextAdventure
