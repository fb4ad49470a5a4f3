import TextAdventure.Proofs.Content.Layer

/-
  The outermost thing of a chain of containers.

  Where a thing is hangs on the thing around all that it lies
  in. In content that hangs together there is exactly one for
  every thing, and the bounded walk of the filter finds it.

  Main declarations:
    * `Content.Outermost`
    * `Content.Outermost.unique`
    * `Content.HangsTogether.exists_outermost`
    * `Content.HangsTogether.isKept_iff`
    * `Content.HangsTogether.outermost_filterLayer_iff`
-/

namespace TextAdventure

namespace Content

------------------------------------------------------------
-- The Relation
------------------------------------------------------------

/- The thing around all that a thing lies in, or itself. -/
inductive Outermost (things : List Thing) :
    Thing → Thing → Prop where
| self
    {thing : Thing}
    (hLoose : thing.placement.container? = none) :
    Outermost things thing thing
| inside
    {thing next last : Thing}
    {container : String}
    (hPlacement : thing.placement = .container container)
    (hFind : Catalog.find? container things = some next)
    (hNext : Outermost things next last) :
    Outermost things thing last

variable {things : List Thing}
variable {thing last : Thing}

namespace Outermost

/- The outermost thing lies in no other. -/
theorem container?_eq_none
    (hLast : Outermost things thing last) :
    last.placement.container? = none := by
  induction hLast with
  | self hLoose => exact hLoose
  | inside _ _ _ ih => exact ih

theorem mem
    (hLast : Outermost things thing last)
    (hMem : thing ∈ things) :
    last ∈ things := by
  induction hLast with
  | self => exact hMem
  | inside _ hFind _ ih =>
      exact ih (Catalog.find?_some hFind).1

/- A thing has at most one outermost thing. -/
theorem unique
    {other : Thing}
    (hLast : Outermost things thing last)
    (hOther : Outermost things thing other) :
    last = other := by
  induction hLast with
  | self hLoose =>
      cases hOther with
      | self => rfl
      | inside hPlacement =>
          simp [hPlacement, Placement.container?] at hLoose
  | inside hPlacement hFind _ ih =>
      cases hOther with
      | self hLoose =>
          simp [hPlacement, Placement.container?] at hLoose
      | inside hSame hFound hNext =>
          rw [hPlacement] at hSame
          cases hSame
          rw [hFind] at hFound
          cases hFound
          exact ih hNext

/- Chains stay what they are where each thing is found. -/
theorem mono
    {more : List Thing}
    (hLast : Outermost things thing last)
    (hFinds :
      ∀ {id next}, Catalog.find? id things = some next →
        Catalog.find? id more = some next) :
    Outermost more thing last := by
  induction hLast with
  | self hLoose => exact .self hLoose
  | inside hPlacement hFind _ ih =>
      exact .inside hPlacement (hFinds hFind) ih

/- Chains stay what they are where no container changes. -/
theorem map
    {change : Thing → Thing}
    (hIds : ∀ thing, (change thing).id = thing.id)
    (hContainers : ∀ thing,
      (change thing).placement.container? =
        thing.placement.container?)
    (hLast : Outermost things thing last) :
    Outermost (things.map change) (change thing)
      (change last) := by
  induction hLast with
  | self hLoose =>
      refine .self ?_
      rw [hContainers]
      exact hLoose
  | @inside thing next _ container hPlacement hFind _ ih =>
      refine @inside _ _ _ _ container ?_ ?_ ih
      · have hSame := hContainers thing
        rw [hPlacement] at hSame
        cases hNew : (change thing).placement <;>
          simp_all [Placement.container?]
      · rw [Catalog.find?_map hIds, hFind]
        rfl

end Outermost

------------------------------------------------------------
-- The Walk That Finds It
------------------------------------------------------------

/- The end of a chain whose outermost thing lies here. -/
def rootAt : Placement → Root
| .room room => .room room
| .carried => .player
| .nowhere => .player
| .container _ => .lost

/- A walk that comes to an end ends at the outermost thing. -/
theorem outermost_of_rootOf
    {steps : Nat}
    (hEnds : rootOf things steps thing ≠ .lost) :
    ∃ last, Outermost things thing last ∧
      rootOf things steps thing = rootAt last.placement := by
  induction steps generalizing thing with
  | zero => simp [rootOf] at hEnds
  | succ steps ih =>
      cases hPlacement : thing.placement with
      | room | carried | nowhere =>
          refine ⟨thing, .self ?_, ?_⟩
          · simp [hPlacement, Placement.container?]
          · simp [rootOf, rootAt, hPlacement]
      | container container =>
          simp only [rootOf, hPlacement] at hEnds ⊢
          cases hFind : Catalog.find? container things with
          | none => simp [hFind] at hEnds
          | some next =>
              simp only [hFind] at hEnds ⊢
              rcases ih hEnds with ⟨last, hLast, hRoot⟩
              exact ⟨last, .inside hPlacement hFind hLast,
                hRoot⟩

/- Where containers are known, only long walks are lost. -/
theorem isSome_holderAfter?_of_lost
    (hKnown : ∀ thing ∈ things, ∀ container,
      thing.placement = .container container →
        Catalog.has container things = true)
    (hIds : (Catalog.ids things).Nodup)
    (hMem : thing ∈ things)
    {steps : Nat}
    (hLost : rootOf things steps thing = .lost) :
    (holderAfter? things steps thing.id).isSome := by
  induction steps generalizing thing with
  | zero => rfl
  | succ steps ih =>
      have hSelf : Catalog.find? thing.id things = some thing :=
        (Catalog.find?_eq_some_iff hIds).mpr ⟨hMem, rfl⟩
      cases hPlacement : thing.placement with
      | room | carried | nowhere =>
          simp [rootOf, hPlacement] at hLost
      | container container =>
          have hHas := hKnown thing hMem container hPlacement
          rw [← Catalog.find?_isSome,
            Option.isSome_iff_exists] at hHas
          rcases hHas with ⟨next, hFind⟩
          rcases Catalog.find?_some hFind with ⟨hNext, rfl⟩
          simp only [rootOf, hPlacement, hFind] at hLost
          simpa [holderAfter?, holder?, hSelf, hPlacement,
            Placement.container?] using ih hNext hLost

variable {content : Content}

namespace HangsTogether

/- The bounded walk is long enough for every thing. -/
theorem rootOf_ne_lost
    (hTogether : content.HangsTogether)
    (hMem : thing ∈ content.things) :
    rootOf content.things (content.things.length + 1) thing ≠
      .lost := by
  intro hLost
  have hKnown :
      ∀ thing ∈ content.things, ∀ container,
        thing.placement = .container container →
          Catalog.has container content.things = true := by
    intro thing hMem container hPlacement
    simpa [placementFault?, hPlacement] using
      hTogether.placed thing hMem
  have hSome :=
    isSome_holderAfter?_of_lost hKnown hTogether.thingIds hMem
      hLost
  rw [hTogether.acyclic.holderAfter?_eq_none] at hSome
  simp at hSome

/- Every thing has an outermost thing. -/
theorem exists_outermost
    (hTogether : content.HangsTogether)
    (hMem : thing ∈ content.things) :
    ∃ last, Outermost content.things thing last := by
  rcases outermost_of_rootOf (hTogether.rootOf_ne_lost hMem)
    with ⟨last, hLast, -⟩
  exact ⟨last, hLast⟩

/- A thing stays unless it ends in a room that goes. -/
theorem isKept_iff
    (hTogether : content.HangsTogether)
    (hMem : thing ∈ content.things)
    (hLast : Outermost content.things thing last)
    (rooms : List Room) :
    isKept rooms content.things thing = true ↔
      ∀ room, last.placement = .room room →
        room ∈ Catalog.ids rooms := by
  rcases outermost_of_rootOf (hTogether.rootOf_ne_lost hMem)
    with ⟨found, hFound, hRoot⟩
  cases hFound.unique hLast
  have hLoose := hLast.container?_eq_none
  unfold isKept
  rw [hRoot]
  cases hPlacement : last.placement with
  | room room =>
      simp [rootAt, Catalog.has_eq_true_iff_mem_ids]
  | carried | nowhere => simp [rootAt]
  | container =>
      simp [hPlacement, Placement.container?] at hLoose

------------------------------------------------------------
-- Chains Up To A Layer
------------------------------------------------------------

variable {layer : UInt32}

/- What is found up to a layer was found before. -/
theorem find?_of_filterLayer
    (hTogether : content.HangsTogether)
    {id : String}
    (hFind :
      Catalog.find? id (content.filterLayer layer).things =
        some thing) :
    Catalog.find? id content.things = some thing := by
  rcases Catalog.find?_some hFind with ⟨hMem, hId⟩
  exact (Catalog.find?_eq_some_iff hTogether.thingIds).mpr
    ⟨(List.mem_filter.mp hMem).1, hId⟩

/- The chain of a thing that stays is the one it had. -/
theorem outermost_filterLayer_iff
    (hTogether : content.HangsTogether)
    (hMem : thing ∈ (content.filterLayer layer).things) :
    Outermost (content.filterLayer layer).things thing last ↔
      Outermost content.things thing last := by
  constructor
  · intro hLast
    exact hLast.mono hTogether.find?_of_filterLayer
  · intro hLast
    rcases (hTogether.filterLayer layer).exists_outermost hMem
      with ⟨found, hFound⟩
    have hOld := hFound.mono hTogether.find?_of_filterLayer
    cases hOld.unique hLast
    exact hFound

end HangsTogether

end Content

end TextAdventure
