import TextAdventure.Proofs.Content.Validity
import TextAdventure.Proofs.World.Addition

/-
  What a merge reports, and merging the same content again.

  Each incoming id of a room, thing or puzzle is either added
  or skipped. After a merge every part of the content is
  known, or it is a thing whose placement names nothing, and
  so a second merge is refused in all its parts.

  Main declarations:
    * `MergeReport.Accounts`
    * `World.accounts_merge`
    * `World.refuses_merge`
    * `World.offers_only_extend`
-/

namespace TextAdventure

------------------------------------------------------------
-- Kinds Of Entities
------------------------------------------------------------

/- The ids of the entities of one kind. -/
def World.idsOf (world : World) : EntityKind → List String
| .room => Catalog.ids world.rooms
| .thing => Catalog.ids world.things
| .puzzle => Catalog.ids world.puzzles

def Content.idsOf (content : Content) :
    EntityKind → List String
| .room => Catalog.ids content.rooms
| .thing => Catalog.ids content.things
| .puzzle => Catalog.ids content.puzzles

/- The ids of one kind that a merge has added. -/
def MergeReport.added (report : MergeReport) :
    EntityKind → List String
| .room => report.roomsAdded
| .thing => report.thingsAdded
| .puzzle => report.puzzlesAdded

/-
  A report on a merge: every incoming id is added or skipped
  once, and what is added is what the world has more.
-/
structure MergeReport.Accounts
    (report : MergeReport)
    (content : Content)
    (before after : World) : Prop where
  entries :
    ∃ skipped : EntityKind → List String,
      report.skipped =
          skipped .room ++ skipped .thing ++
            skipped .puzzle ∧
        ∀ kind, (report.added kind ++ skipped kind).Perm
          (content.idsOf kind)
  added :
    ∀ kind, after.idsOf kind =
      before.idsOf kind ++ report.added kind
  scripts :
    ∃ new, after.scripts = before.scripts ++ new ∧
      report.scriptsAdded = UInt64.ofNat new.length

/- Where nothing is new the report is empty. -/
theorem MergeReport.isEmpty_of_accounts
    {report : MergeReport}
    {content : Content}
    {world : World}
    (hAccounts : report.Accounts content world world) :
    report.isEmpty = true := by
  have hNone (kind : EntityKind) : report.added kind = [] :=
    List.self_eq_append_right.mp (hAccounts.added kind)
  rcases hAccounts.scripts with ⟨new, hScripts, hCount⟩
  have hNew : new = [] :=
    List.self_eq_append_right.mp hScripts
  have hRooms : report.roomsAdded = [] := hNone .room
  have hThings : report.thingsAdded = [] := hNone .thing
  have hPuzzles : report.puzzlesAdded = [] := hNone .puzzle
  simp [isEmpty, hRooms, hThings, hPuzzles, hCount, hNew]

------------------------------------------------------------
-- Sorting Ids
------------------------------------------------------------

/-
  Between two moments of a merge, ids of one kind are added
  or skipped, and the other kinds are left alone.
-/
structure Merge.Sorts
    (kind : EntityKind)
    (ids : List String)
    (before after : Merge) : Prop where
  entries :
    ∃ added skipped,
      after.report.added kind =
          before.report.added kind ++ added ∧
        after.world.idsOf kind =
          before.world.idsOf kind ++ added ∧
        after.report.skipped =
          before.report.skipped ++ skipped ∧
        (added ++ skipped).Perm ids
  others :
    ∀ other, other ≠ kind →
      after.report.added other = before.report.added other ∧
        after.world.idsOf other = before.world.idsOf other
  scripts : after.world.scripts = before.world.scripts
  scriptsAdded :
    after.report.scriptsAdded = before.report.scriptsAdded

namespace Merge

variable {kind : EntityKind}
variable {before after : Merge}

theorem Sorts.refl
    (kind : EntityKind)
    (merge : Merge) :
    Sorts kind [] merge merge where
  entries := ⟨[], [], by simp⟩
  others := fun _ _ => ⟨rfl, rfl⟩
  scripts := rfl
  scriptsAdded := rfl

theorem Sorts.trans
    {first second : List String}
    {middle : Merge}
    (hFirst : Sorts kind first before middle)
    (hSecond : Sorts kind second middle after) :
    Sorts kind (first ++ second) before after where
  entries := by
    rcases hFirst.entries with
      ⟨added, skipped, hAdded, hIds, hSkipped, hPerm⟩
    rcases hSecond.entries with
      ⟨more, left, hMore, hMoreIds, hLeft, hPermMore⟩
    refine ⟨added ++ more, skipped ++ left, ?_, ?_, ?_, ?_⟩
    · rw [hMore, hAdded, List.append_assoc]
    · rw [hMoreIds, hIds, List.append_assoc]
    · rw [hLeft, hSkipped, List.append_assoc]
    · have hSwap :
          (added ++ more ++ (skipped ++ left)).Perm
            (added ++ skipped ++ (more ++ left)) := by
        simp only [List.append_assoc]
        apply List.Perm.append_left
        simp only [← List.append_assoc]
        exact List.perm_append_comm.append_right left
      exact hSwap.trans (hPerm.append hPermMore)
  others := by
    intro other hOther
    rcases hFirst.others other hOther with ⟨hAdded, hIds⟩
    rcases hSecond.others other hOther with ⟨hMore, hMoreIds⟩
    exact ⟨hMore.trans hAdded, hMoreIds.trans hIds⟩
  scripts := hSecond.scripts.trans hFirst.scripts
  scriptsAdded :=
    hSecond.scriptsAdded.trans hFirst.scriptsAdded

theorem Sorts.perm
    {first second : List String}
    (hSorts : Sorts kind first before after)
    (hPerm : first.Perm second) :
    Sorts kind second before after where
  entries := by
    rcases hSorts.entries with
      ⟨added, skipped, hAdded, hIds, hSkipped, hOld⟩
    exact ⟨added, skipped, hAdded, hIds, hSkipped,
      hOld.trans hPerm⟩
  others := hSorts.others
  scripts := hSorts.scripts
  scriptsAdded := hSorts.scriptsAdded

/- Skipped ids leave the world alone. -/
theorem sorts_skipped
    (kind : EntityKind)
    (merge : Merge)
    (ids : List String) :
    Sorts kind ids merge
      { merge with
          report :=
            { merge.report with
                skipped := merge.report.skipped ++ ids } }
    where
  entries := by
    refine ⟨[], ids, ?_⟩
    cases kind <;> simp [MergeReport.added]
  others := fun other _ => by
    cases other <;> exact ⟨rfl, rfl⟩
  scripts := rfl
  scriptsAdded := rfl

theorem sorts_room (merge : Merge) (room : Room) :
    Sorts .room [room.id] merge (merge.room room) := by
  unfold Merge.room
  split
  · rename_i world hAdd
    rcases World.eq_of_addRoom?_eq_some hAdd with
      ⟨-, listing, -, rfl⟩
    exact
      { entries := by
          refine ⟨[room.id], [], ?_⟩
          simp [MergeReport.added, World.idsOf, Catalog.ids]
        others := by
          intro other hOther
          cases other with
          | room => exact absurd rfl hOther
          | thing => exact ⟨rfl, rfl⟩
          | puzzle => exact ⟨rfl, rfl⟩
        scripts := rfl
        scriptsAdded := rfl }
  · exact sorts_skipped .room merge [room.id]

theorem sorts_puzzle (merge : Merge) (puzzle : Puzzle) :
    Sorts .puzzle [puzzle.id] merge
      (merge.puzzle puzzle) := by
  unfold Merge.puzzle
  split
  · rename_i world hAdd
    rcases World.addPuzzle?_eq_some_iff.mp hAdd with
      ⟨-, rfl⟩
    exact
      { entries := by
          refine ⟨[puzzle.id], [], ?_⟩
          simp [MergeReport.added, World.idsOf, Catalog.ids]
        others := by
          intro other hOther
          cases other with
          | puzzle => exact absurd rfl hOther
          | room => exact ⟨rfl, rfl⟩
          | thing => exact ⟨rfl, rfl⟩
        scripts := rfl
        scriptsAdded := rfl }
  · exact sorts_skipped .puzzle merge [puzzle.id]

/- Entities merged one by one are sorted one by one. -/
theorem sorts_foldl
    {α : Type}
    [Identified α]
    {step : Merge → α → Merge}
    (hStep : ∀ merge entity,
      Sorts kind [Identified.idOf entity] merge
        (step merge entity))
    (entities : List α)
    (merge : Merge) :
    Sorts kind (Catalog.ids entities) merge
      (entities.foldl step merge) := by
  induction entities generalizing merge with
  | nil => exact Sorts.refl kind merge
  | cons entity rest ih =>
      exact (hStep merge entity).trans
        (ih (step merge entity))

/- A pass sorts what it does not put off. -/
theorem sorts_thingsOnce
    (things : List Thing)
    (merge : Merge) :
    ∃ settled,
      Sorts .thing settled merge
          (merge.thingsOnce things).1 ∧
        (settled ++
            Catalog.ids (merge.thingsOnce things).2).Perm
          (Catalog.ids things) := by
  induction things generalizing merge with
  | nil => exact ⟨[], Sorts.refl _ merge, .refl _⟩
  | cons thing rest ih =>
      unfold Merge.thingsOnce
      split
      · rename_i world hAdd
        rcases World.addThing_eq_ok_some_iff.mp hAdd with
          ⟨-, -, rfl⟩
        rcases ih _ with ⟨settled, hSorts, hPerm⟩
        refine ⟨[thing.id] ++ settled, Sorts.trans ?_ hSorts,
          hPerm.cons thing.id⟩
        exact
          { entries := by
              refine ⟨[thing.id], [], ?_⟩
              simp [MergeReport.added, World.idsOf,
                Catalog.ids]
            others := by
              intro other hOther
              cases other with
              | thing => exact absurd rfl hOther
              | room => exact ⟨rfl, World.ids_listNew _ _⟩
              | puzzle => exact ⟨rfl, rfl⟩
            scripts := rfl
            scriptsAdded := rfl }
      · rcases ih _ with ⟨settled, hSorts, hPerm⟩
        exact ⟨thing.id :: settled,
          Sorts.trans
            (sorts_skipped .thing merge [thing.id]) hSorts,
          hPerm.cons thing.id⟩
      · rcases ih merge with ⟨settled, hSorts, hPerm⟩
        exact ⟨settled, hSorts,
          List.perm_middle.trans (hPerm.cons thing.id)⟩

/- All passes sort every thing, the last by skipping. -/
theorem sorts_things
    (passes : Nat)
    (things : List Thing)
    (merge : Merge) :
    Sorts .thing (Catalog.ids things) merge
      (merge.things passes things).1 := by
  induction passes generalizing things merge with
  | zero => exact sorts_skipped .thing merge _
  | succ passes ih =>
      rcases sorts_thingsOnce things merge with
        ⟨settled, hSorts, hPerm⟩
      unfold Merge.things
      simp only
      split
      · exact (hSorts.trans
          (sorts_skipped .thing _ _)).perm hPerm
      · exact (hSorts.trans (ih _ _)).perm hPerm

/-
  Rooms, things and puzzles sorted one kind after the other
  are all sorted, since each phase leaves the other kinds
  alone.
-/
theorem sorts_all
    {ids : EntityKind → List String}
    {start rooms things puzzles : Merge}
    (hRooms : Sorts .room (ids .room) start rooms)
    (hThings : Sorts .thing (ids .thing) rooms things)
    (hPuzzles : Sorts .puzzle (ids .puzzle) things puzzles) :
    ∃ added skipped : EntityKind → List String,
      (∀ kind,
        puzzles.report.added kind =
            start.report.added kind ++ added kind ∧
          puzzles.world.idsOf kind =
            start.world.idsOf kind ++ added kind ∧
          (added kind ++ skipped kind).Perm (ids kind)) ∧
      puzzles.report.skipped =
        start.report.skipped ++ skipped .room ++
          skipped .thing ++ skipped .puzzle := by
  rcases hRooms.entries with
    ⟨roomsIn, roomsOut, hRoomsIn, hRoomIds, hRoomsOut,
      hRoomPerm⟩
  rcases hThings.entries with
    ⟨thingsIn, thingsOut, hThingsIn, hThingIds, hThingsOut,
      hThingPerm⟩
  rcases hPuzzles.entries with
    ⟨puzzlesIn, puzzlesOut, hPuzzlesIn, hPuzzleIds,
      hPuzzlesOut, hPuzzlePerm⟩
  let added : EntityKind → List String
    | .room => roomsIn
    | .thing => thingsIn
    | .puzzle => puzzlesIn
  let skipped : EntityKind → List String
    | .room => roomsOut
    | .thing => thingsOut
    | .puzzle => puzzlesOut
  refine ⟨added, skipped, ?_, ?_⟩
  · intro kind
    cases kind with
    | room =>
        have hLater := hThings.others .room nofun
        have hLast := hPuzzles.others .room nofun
        exact ⟨hLast.1.trans (hLater.1.trans hRoomsIn),
          hLast.2.trans (hLater.2.trans hRoomIds), hRoomPerm⟩
    | thing =>
        have hFirst := hRooms.others .thing nofun
        have hLast := hPuzzles.others .thing nofun
        refine ⟨hLast.1.trans ?_, hLast.2.trans ?_, hThingPerm⟩
        · rw [hThingsIn, hFirst.1]
        · rw [hThingIds, hFirst.2]
    | puzzle =>
        have hFirst := hRooms.others .puzzle nofun
        have hLater := hThings.others .puzzle nofun
        refine ⟨?_, ?_, hPuzzlePerm⟩
        · rw [hPuzzlesIn, hLater.1, hFirst.1]
        · rw [hPuzzleIds, hLater.2, hFirst.2]
  · rw [hPuzzlesOut, hThingsOut, hRoomsOut]

/- Scripts are counted and leave everything else alone. -/
theorem foldl_script
    (scripts : List Script)
    (merge : Merge) :
    let after := scripts.foldl Merge.script merge
    (∀ kind,
        after.report.added kind = merge.report.added kind ∧
          after.world.idsOf kind = merge.world.idsOf kind) ∧
      after.report.skipped = merge.report.skipped ∧
      ∃ new, after.world.scripts =
          merge.world.scripts ++ new ∧
        after.report.scriptsAdded =
          merge.report.scriptsAdded +
            UInt64.ofNat new.length := by
  induction scripts generalizing merge with
  | nil => exact ⟨fun _ => ⟨rfl, rfl⟩, rfl, [], by simp⟩
  | cons script rest ih =>
      rw [List.foldl_cons]
      cases hAdd : merge.world.addScript? script with
      | none =>
          have hStep : merge.script script = merge := by
            simp only [Merge.script, hAdd]
          rw [hStep]
          exact ih merge
      | some world =>
          have hStep : merge.script script =
              { world := world
                report :=
                  { merge.report with
                      scriptsAdded :=
                        merge.report.scriptsAdded + 1 } } := by
            simp only [Merge.script, hAdd]
          cases World.eq_of_addScript?_eq_some hAdd
          rw [hStep]
          rcases ih _ with
            ⟨hKinds, hSkipped, new, hScripts, hCount⟩
          refine ⟨?_, hSkipped, script :: new, ?_, ?_⟩
          · intro kind
            rw [(hKinds kind).1, (hKinds kind).2]
            cases kind <;> exact ⟨rfl, rfl⟩
          · rw [hScripts, List.append_assoc]
            rfl
          · rw [hCount, List.length_cons, UInt64.ofNat_add,
              UInt64.add_comm (UInt64.ofNat new.length),
              ← UInt64.add_assoc]
            rfl

end Merge

namespace World

variable {world before after : World}

theorem idsOf_placeListed
    (content : Content)
    (kind : EntityKind) :
    content.placeListed.idsOf kind = content.idsOf kind := by
  cases kind with
  | room => rfl
  | thing =>
      exact Catalog.ids_map
        (Content.placeWhereListed_id content.rooms)
        content.things
  | puzzle => rfl

/- The report of a merge accounts for every incoming id. -/
theorem accounts_merge
    (world : World)
    (content : Content) :
    (world.merge content).value.2.Accounts content world
      (world.merge content).value.1 := by
  let placed := content.placeListed
  let rooms : Merge :=
    placed.rooms.foldl Merge.room ⟨world, {}⟩
  let things : Merge :=
    (rooms.things (placed.things.length + 1) placed.things).1
  let puzzles : Merge :=
    placed.puzzles.foldl Merge.puzzle things
  have hRooms : Merge.Sorts .room (placed.idsOf .room)
      ⟨world, {}⟩ rooms :=
    Merge.sorts_foldl Merge.sorts_room placed.rooms _
  have hThings : Merge.Sorts .thing (placed.idsOf .thing)
      rooms things :=
    Merge.sorts_things _ placed.things rooms
  have hPuzzles : Merge.Sorts .puzzle (placed.idsOf .puzzle)
      things puzzles :=
    Merge.sorts_foldl Merge.sorts_puzzle placed.puzzles _
  rcases Merge.sorts_all hRooms hThings hPuzzles with
    ⟨added, skipped, hSorted, hOut⟩
  rcases Merge.foldl_script placed.scripts puzzles with
    ⟨hKinds, hSkipped, new, hScripts, hCount⟩
  have hAdded (kind : EntityKind) :
      (placed.scripts.foldl Merge.script puzzles).report.added
        kind = added kind := by
    rw [(hKinds kind).1, (hSorted kind).1]
    cases kind <;> rfl
  exact
    { entries := by
        refine ⟨skipped, hSkipped.trans hOut, ?_⟩
        intro kind
        rw [← idsOf_placeListed]
        exact (hAdded kind).symm ▸ (hSorted kind).2.2
      added := fun kind =>
        (hKinds kind).2.trans ((hSorted kind).2.1.trans
          (congrArg _ (hAdded kind).symm))
      scripts := by
        refine ⟨new, ?_, ?_⟩
        · rw [← hRooms.scripts, ← hThings.scripts,
            ← hPuzzles.scripts]
          exact hScripts
        · have hNone : puzzles.report.scriptsAdded = 0 := by
            rw [hPuzzles.scriptsAdded, hThings.scriptsAdded,
              hRooms.scriptsAdded]
          rw [hNone, UInt64.zero_add] at hCount
          exact hCount }

------------------------------------------------------------
-- Merging Again
------------------------------------------------------------

/- The id of an offered entity is taken. -/
def Knows (world : World) : Addition → Prop
| .room room => room.id ∈ Catalog.ids world.rooms
| .thing thing => thing.id ∈ Catalog.ids world.things
| .puzzle puzzle => puzzle.id ∈ Catalog.ids world.puzzles
| .script script =>
    ∃ old ∈ world.scripts,
      old.thing = script.thing ∧ old.verb = script.verb
| _ => False

theorem Knows.refuses
    {addition : Addition}
    (hKnows : world.Knows addition) :
    world.Refuses addition := by
  cases addition with
  | room => exact hKnows
  | thing => exact Or.inl hKnows
  | puzzle => exact hKnows
  | script => exact hKnows
  | exits => exact hKnows.elim
  | content => exact hKnows.elim

theorem Extends.ids_rooms_subset
    {offered : List (String × Exit)}
    {newcomers : List Thing}
    (hExtends : before.Extends offered newcomers after) :
    Catalog.ids before.rooms ⊆ Catalog.ids after.rooms := by
  rcases hExtends.rooms with ⟨old, new, hRooms, hOld⟩
  have hIds : Catalog.ids old = Catalog.ids before.rooms :=
    Catalog.map_eq_of_forall₂ (fun _ _ hRoom => hRoom.id_eq)
      hOld
  rw [hRooms]
  unfold Catalog.ids at hIds ⊢
  rw [List.map_append, hIds]
  exact List.subset_append_left _ _

/- What is known stays known in an extended world. -/
theorem Knows.extends
    {addition : Addition}
    {offered : List (String × Exit)}
    {newcomers : List Thing}
    (hKnows : before.Knows addition)
    (hExtends : before.Extends offered newcomers after) :
    after.Knows addition := by
  cases addition with
  | room room => exact hExtends.ids_rooms_subset hKnows
  | thing thing =>
      unfold Knows
      rw [hExtends.things]
      exact List.map_subset _
        (List.subset_append_left _ _) hKnows
  | puzzle puzzle =>
      exact List.map_subset _ hExtends.puzzles.subset hKnows
  | script script =>
      rcases hKnows with ⟨old, hOld, hSame⟩
      exact ⟨old, hExtends.scripts.subset hOld, hSame⟩
  | exits => exact hKnows.elim
  | content => exact hKnows.elim

theorem Knows.addAll
    {addition : Addition}
    (hKnows : world.Knows addition)
    (hCoherent : world.IsCoherent)
    (additions : List Addition) :
    (world.addAll additions).Knows addition := by
  rcases extends_addAll hCoherent additions with
    ⟨newcomers, hExtends⟩
  exact hKnows.extends hExtends

/- An offer that is never refused for its place. -/
def IsFree : Addition → Prop
| .room _ => True
| .puzzle _ => True
| .script _ => True
| _ => False

/- After such an offer its id is taken, one way or another. -/
theorem knows_add
    {addition : Addition}
    (hFree : IsFree addition) :
    (world.add addition).Knows addition := by
  cases hAdd : world.add? addition with
  | none =>
      have hRefuses :=
        (add?_eq_none_iff world addition).mp hAdd
      rw [add_of_refuses hRefuses]
      cases addition with
      | room => exact hRefuses
      | puzzle => exact hRefuses
      | script => exact hRefuses
      | thing => exact hFree.elim
      | exits => exact hFree.elim
      | content => exact hFree.elim
  | some after =>
      have hAfter : world.add addition = after := by
        rw [add, hAdd, Option.getD_some]
      rw [hAfter]
      cases addition with
      | room room =>
          rcases eq_of_addRoom?_eq_some hAdd with
            ⟨-, listing, -, rfl⟩
          simp [Knows, Catalog.ids]
      | puzzle puzzle =>
          rcases addPuzzle?_eq_some_iff.mp hAdd with ⟨-, rfl⟩
          simp [Knows, Catalog.ids]
      | script script =>
          cases eq_of_addScript?_eq_some hAdd
          exact ⟨script, by simp, rfl, rfl⟩
      | thing => exact hFree.elim
      | exits => exact hFree.elim
      | content => exact hFree.elim

/- What comes later does not make it unknown again. -/
theorem knows_addAll
    {additions : List Addition}
    (hFree : ∀ addition ∈ additions, IsFree addition)
    (hCoherent : world.IsCoherent) :
    ∀ addition ∈ additions,
      (world.addAll additions).Knows addition := by
  induction additions generalizing world with
  | nil => simp
  | cons first rest ih =>
      rcases List.forall_mem_cons.mp hFree with
        ⟨hFirst, hRest⟩
      rw [addAll_cons]
      refine List.forall_mem_cons.mpr
        ⟨?_, ih hRest (hCoherent.add first)⟩
      exact (knows_add hFirst).addAll (hCoherent.add first)
        rest

/- Each thing is known after a pass, or it is put off. -/
theorem knows_thingsOnce
    (things : List Thing)
    {merge : Merge}
    (hCoherent : merge.world.IsCoherent) :
    ∀ thing ∈ things,
      (merge.thingsOnce things).1.world.Knows (.thing thing) ∨
        thing ∈ (merge.thingsOnce things).2 := by
  induction things generalizing merge with
  | nil => simp
  | cons first rest ih =>
      unfold Merge.thingsOnce
      split
      · rename_i world hAdd
        have hWorld := hCoherent.addThing hAdd
        refine List.forall_mem_cons.mpr ⟨Or.inl ?_, ih hWorld⟩
        rw [thingsOnce_eq_addAll]
        refine Knows.addAll ?_ hWorld _
        rcases addThing_eq_ok_some_iff.mp hAdd with ⟨-, -, rfl⟩
        simp [Knows, Catalog.ids]
      · rename_i hAdd
        refine List.forall_mem_cons.mpr
          ⟨Or.inl ?_, ih hCoherent⟩
        rw [thingsOnce_eq_addAll]
        refine Knows.addAll ?_ hCoherent _
        exact addThing_eq_ok_none_iff.mp hAdd
      · refine List.forall_mem_cons.mpr
          ⟨Or.inr List.mem_cons_self, ?_⟩
        intro thing hThing
        rcases ih hCoherent thing hThing with hKnows | hLater
        · exact Or.inl hKnows
        · exact Or.inr (List.mem_cons_of_mem _ hLater)

/- A pass that settles nothing finds every thing refused. -/
theorem refuses_of_length_eq
    (things : List Thing)
    {merge : Merge}
    (hLength :
      (merge.thingsOnce things).2.length = things.length) :
    (merge.thingsOnce things).1 = merge ∧
      ∀ thing ∈ things,
        merge.world.Refuses (.thing thing) := by
  induction things with
  | nil => exact ⟨rfl, by simp⟩
  | cons first rest ih =>
      have hShort (other : Merge) :
          (other.thingsOnce rest).2.length ≠
            (first :: rest).length := by
        have hLe := (thingsOnce_sublist rest other).length_le
        rw [List.length_cons]
        omega
      cases hAdd : merge.world.addThing first with
      | ok after? =>
          cases after? <;>
            simp only [Merge.thingsOnce, hAdd] at hLength <;>
            exact absurd hLength (hShort _)
      | error fault =>
          simp only [Merge.thingsOnce, hAdd,
            List.length_cons] at hLength ⊢
          rcases ih (Nat.succ.inj hLength) with ⟨hSame, hRest⟩
          refine ⟨hSame, List.forall_mem_cons.mpr
            ⟨Or.inr ?_, hRest⟩⟩
          exact (exists_addThing_eq_error_iff.mp
            ⟨fault, hAdd⟩).2

/-
  With a pass for each thing and one more, the passes end
  when every thing is known or refused for its place.
-/
theorem refuses_things
    {passes : Nat}
    {things : List Thing}
    {merge : Merge}
    (hCoherent : merge.world.IsCoherent)
    (hPasses : things.length < passes) :
    ∀ thing ∈ things,
      (merge.things passes things).1.world.Refuses
        (.thing thing) := by
  induction passes generalizing things merge with
  | zero => omega
  | succ passes ih =>
      have hSettled := knows_thingsOnce things hCoherent
      have hLe := (thingsOnce_sublist things merge).length_le
      unfold Merge.things
      simp only
      split
      · rename_i hStop
        intro thing hThing
        rcases hSettled thing hThing with hKnows | hLater
        · exact hKnows.refuses
        · rcases hStop with hNone | hAll
          · rw [List.isEmpty_iff.mp hNone] at hLater
            exact absurd hLater List.not_mem_nil
          · rcases refuses_of_length_eq things hAll with
              ⟨hSame, hRefused⟩
            rw [hSame]
            exact hRefused thing hThing
      · rename_i hGoesOn
        have hWorld :
            (merge.thingsOnce things).1.world.IsCoherent := by
          rw [thingsOnce_eq_addAll]
          exact hCoherent.addAll _
        intro thing hThing
        rcases hSettled thing hThing with hKnows | hLater
        · rcases things_eq_addAll passes
            (merge.thingsOnce things).2
            (merge.thingsOnce things).1 with
            ⟨offered, -, hOffered⟩
          rw [hOffered]
          exact (hKnows.addAll hWorld _).refuses
        · refine ih hWorld ?_ thing hLater
          have hFewer :
              (merge.thingsOnce things).2.length ≠
                things.length :=
            fun hSame => hGoesOn (Or.inr hSame)
          omega

/- Puzzles and scripts leave rooms and things alone. -/
theorem addAll_of_rules
    (world : World)
    {additions : List Addition}
    (hRules : ∀ addition ∈ additions,
      (∃ puzzle, addition = .puzzle puzzle) ∨
        ∃ script, addition = .script script) :
    (world.addAll additions).rooms = world.rooms ∧
      (world.addAll additions).things = world.things := by
  induction additions generalizing world with
  | nil => exact ⟨rfl, rfl⟩
  | cons first rest ih =>
      rcases List.forall_mem_cons.mp hRules with
        ⟨hFirst, hRest⟩
      have hStep :
          (world.add first).rooms = world.rooms ∧
            (world.add first).things = world.things := by
        unfold add
        cases hAdd : world.add? first with
        | none => exact ⟨rfl, rfl⟩
        | some after =>
            rcases hFirst with ⟨puzzle, rfl⟩ | ⟨script, rfl⟩
            · rcases addPuzzle?_eq_some_iff.mp hAdd with
                ⟨-, rfl⟩
              exact ⟨rfl, rfl⟩
            · cases eq_of_addScript?_eq_some hAdd
              exact ⟨rfl, rfl⟩
      have hLater := ih (world.add first) hRest
      rw [addAll_cons, hLater.1, hLater.2]
      exact hStep

/- A refused thing stays refused as rules are added. -/
theorem refuses_thing_addAll_rules
    {thing : Thing}
    (hRefuses : world.Refuses (.thing thing))
    (puzzles : List Puzzle)
    (scripts : List Script) :
    (world.addAll (puzzles.map .puzzle ++
      scripts.map .script)).Refuses (.thing thing) := by
  have hRules :
      ∀ addition ∈
          puzzles.map Addition.puzzle ++
            scripts.map Addition.script,
        (∃ puzzle, addition = .puzzle puzzle) ∨
          ∃ script, addition = .script script := by
    intro addition hAddition
    rcases List.mem_append.mp hAddition with
      hPuzzle | hScript
    · rcases List.mem_map.mp hPuzzle with ⟨puzzle, -, rfl⟩
      exact Or.inl ⟨puzzle, rfl⟩
    · rcases List.mem_map.mp hScript with ⟨script, -, rfl⟩
      exact Or.inr ⟨script, rfl⟩
  have hSame := addAll_of_rules world hRules
  simp only [Refuses] at hRefuses ⊢
  rw [hSame.2, resolves_congr
    (congrArg Catalog.ids hSame.1)
    (congrArg Catalog.ids hSame.2)]
  exact hRefuses

/- After a merge the world refuses all parts of the content. -/
theorem refuses_merge
    (hCoherent : world.IsCoherent)
    (content : Content) :
    ∀ part ∈ content.placeListed.parts,
      (world.merge content).value.1.Refuses part := by
  let placed := content.placeListed
  let withRooms : Merge :=
    placed.rooms.foldl Merge.room ⟨world, {}⟩
  let withThings : Merge :=
    (withRooms.things (placed.things.length + 1)
      placed.things).1
  let rules : List Addition :=
    placed.puzzles.map .puzzle ++ placed.scripts.map .script
  have hRooms : withRooms.world =
      world.addAll (placed.rooms.map .room) :=
    foldl_eq_addAll room_eq_add placed.rooms ⟨world, {}⟩
  rcases things_eq_addAll (placed.things.length + 1)
    placed.things withRooms with ⟨offered, -, hThings⟩
  have hLast : (world.merge content).value.1 =
      withThings.world.addAll rules := by
    simp only [merge, rules, addAll_append,
      foldl_eq_addAll script_eq_add,
      foldl_eq_addAll puzzle_eq_add]
    rfl
  have hWithRooms : withRooms.world.IsCoherent :=
    hRooms ▸ hCoherent.addAll _
  have hWithThings : withThings.world.IsCoherent :=
    hThings ▸ hWithRooms.addAll _
  intro part hPart
  rw [hLast]
  simp only [Content.parts, List.mem_append, or_assoc]
    at hPart
  rcases hPart with hRoom | hThing | hRule
  · have hKnows : withRooms.world.Knows part := by
      rw [hRooms]
      refine knows_addAll ?_ hCoherent part hRoom
      simp [IsFree]
    have hLater : withThings.world.Knows part :=
      hThings ▸ hKnows.addAll hWithRooms _
    exact (hLater.addAll hWithThings rules).refuses
  · rcases List.mem_map.mp hThing with ⟨thing, hMem, rfl⟩
    have hRefuses : withThings.world.Refuses (.thing thing) :=
      refuses_things hWithRooms (Nat.lt_succ_self _) thing hMem
    exact refuses_thing_addAll_rules hRefuses _ _
  · refine (knows_addAll ?_ hWithThings part ?_).refuses
    · simp [rules, IsFree, or_imp, forall_and]
    · exact List.mem_append.mpr hRule

/- Merging the same content again changes nothing. -/
theorem merge_again
    (hCoherent : world.IsCoherent)
    (content : Content) :
    let once := (world.merge content).value.1
    (once.merge content).value.1 = once ∧
      (once.merge content).value.2.isEmpty = true := by
  intro once
  rcases merge_eq_addAll once content with
    ⟨parts, hParts, hWorld⟩
  have hSame : (once.merge content).value.1 = once := by
    rw [hWorld]
    apply addAll_of_refuses
    intro part hPart
    exact refuses_merge hCoherent content part (hParts hPart)
  have hAccounts := accounts_merge once content
  rw [hSame] at hAccounts
  exact ⟨hSame, MergeReport.isEmpty_of_accounts hAccounts⟩

------------------------------------------------------------
-- Connected Rooms
------------------------------------------------------------

/- A room has an exit in a direction. -/
def HasExit
    (world : World)
    (id : String)
    (direction : Direction) : Prop :=
  ∃ room, world.room? id = some room ∧
    (room.exit? direction).isSome = true

theorem hasExit_joinRoom
    {id : String}
    (hKnown : id ∈ Catalog.ids world.rooms)
    (direction : Direction)
    (destination : String) :
    (world.updateRoom id
      (joinRoom direction destination)).HasExit id
        direction := by
  rw [← Catalog.has_eq_true_iff_mem_ids] at hKnown
  rcases Catalog.exists_find?_of_has hKnown with
    ⟨room, hRoom⟩
  refine ⟨joinRoom direction destination room, ?_,
    Room.exit?_joinRoom direction destination room⟩
  unfold room? updateRoom
  rw [Catalog.find?_update_self (by simp), hRoom]
  rfl

/- Joining a room, or another one, removes no exit. -/
theorem HasExit.joinRoom
    {id : String}
    {direction : Direction}
    (hExit : world.HasExit id direction)
    (other : String)
    (way : Direction)
    (destination : String) :
    (world.updateRoom other
      (World.joinRoom way destination)).HasExit id
        direction := by
  rcases hExit with ⟨room, hRoom, hSome⟩
  unfold room? at hRoom
  unfold HasExit room? updateRoom
  by_cases hSame : id = other
  · subst hSame
    rw [Catalog.find?_update_self (by simp), hRoom]
    exact ⟨_, rfl,
      Room.exit?_joinRoom_of_isSome hSome way destination⟩
  · rw [Catalog.find?_update_of_ne (by simp) hSame, hRoom]
    exact ⟨room, rfl, hSome⟩

/- Connected rooms have exits to each other's side. -/
theorem hasExit_connect
    {source target : String}
    {direction : Direction}
    (hConnect : world.connect source direction target =
      .ok after) :
    after.HasExit source direction ∧
      after.HasExit target direction.opposite := by
  rcases connect_eq_ok_iff_mem.mp hConnect with
    ⟨hSource, hTarget, rfl⟩
  constructor
  · exact (hasExit_joinRoom hSource direction target).joinRoom
      target direction.opposite source
  · apply hasExit_joinRoom
    have hIds :
        Catalog.ids (world.updateRoom source
          (joinRoom direction target)).rooms =
            Catalog.ids world.rooms :=
      Catalog.ids_update (joinRoom_id direction target)
        world.rooms
    rw [hIds]
    exact hTarget

------------------------------------------------------------
-- Worlds Of Accepted Content
------------------------------------------------------------

/-
  Whatever is offered to the world of accepted content only
  extends it: old entities stay in their places, and a room
  gets exits and new things at most. What is refused changes
  nothing, connected rooms have exits both ways, and a merge
  accounts for all it was given, so that a second one of the
  same content finds nothing to add.
-/
theorem offers_only_extend
    {content : Content}
    (hValid : content.IsValid)
    (first more : List Addition) :
    let earlier := (ofContent content).addAll first
    let later := earlier.addAll more
    (∃ newcomers,
      earlier.Extends (more.flatMap Addition.joins)
        newcomers later) ∧
    (∀ addition,
      (later.add? addition = none ↔
        later.Refuses addition) ∧
      (later.add? addition = none →
        later.add addition = later)) ∧
    (∀ source direction target after,
      later.connect source direction target = .ok after →
        after.HasExit source direction ∧
          after.HasExit target direction.opposite) ∧
    ∀ added : Content,
      let once := (later.merge added).value
      let twice := (once.1.merge added).value
      once.2.Accounts added later once.1 ∧
        twice.1 = once.1 ∧ twice.2.isEmpty = true := by
  intro earlier later
  have hEarlier : earlier.IsCoherent :=
    (ofContent_isCoherent hValid).addAll first
  have hLater : later.IsCoherent := hEarlier.addAll more
  refine ⟨extends_addAll hEarlier more, ?_, ?_, ?_⟩
  · intro addition
    refine ⟨add?_eq_none_iff later addition, ?_⟩
    intro hNone
    exact add_of_refuses
      ((add?_eq_none_iff later addition).mp hNone)
  · intro source direction target after hConnect
    exact hasExit_connect hConnect
  · intro added
    exact ⟨accounts_merge later added,
      merge_again hLater added⟩

/- A hall with a table in it. -/
def furnishedHall : Content where
  rules := { startRoom := "hall" }
  rooms :=
    [{ id := "hall"
       name := "Hall"
       things := ["table"] }]
  things :=
    [{ id := "table"
       name := "table"
       placement := .room "hall" }]

/-
  A cellar with a lamp in a chest that comes after the lamp,
  another table, and a coin in a purse that is not there.
-/
def packedCellar : Content where
  rooms := [{ id := "cellar", name := "Cellar" }]
  things :=
    [{ id := "lamp"
       name := "lamp"
       placement := .container "chest" },
     { id := "coin"
       name := "coin"
       placement := .container "purse" },
     { id := "table"
       name := "other table"
       placement := .room "cellar" },
     { id := "chest"
       name := "chest"
       placement := .room "hall" }]

/-
  The cellar is merged twice into a hall, which is connected
  to it in between: the lamp waits for its chest, the table is
  known, the coin is lost, and the second merge adds nothing.
-/
theorem packedCellar_extends_furnishedHall :
    let hall := ofContent furnishedHall
    let merged := (hall.merge packedCellar).value
    let joined :=
      hall.addAll
        [.content packedCellar,
          .exits "hall" .down "cellar"]
    furnishedHall.IsValid ∧
      (∃ newcomers, hall.Extends
        [("hall",
            { direction := .down
              destination := "cellar" }),
          ("cellar",
            { direction := .up
              destination := "hall" })]
        newcomers joined) ∧
      merged.2 =
        { roomsAdded := ["cellar"]
          thingsAdded := ["chest", "lamp"]
          skipped := ["table", "coin"] } ∧
      (merged.1.merge packedCellar).value.1 = merged.1 := by
  intro hall merged joined
  have hValid : furnishedHall.IsValid := by rfl
  have hJoined := offers_only_extend hValid []
    [.content packedCellar, .exits "hall" .down "cellar"]
  have hMerged := offers_only_extend hValid [] []
  exact ⟨hValid, hJoined.1, by decide +kernel,
    (hMerged.2.2.2 packedCellar).2.1⟩

end World

end TextAdventure
