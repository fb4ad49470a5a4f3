import TextAdventure.Proofs.Game.Naming
import TextAdventure.Proofs.Game.Replay

/-
  The hints that a briefing offers.

  Whether a puzzle is solved is kept twice, on the puzzle and
  in the list of the session. The list is what puzzles depend
  on, and hints go by the puzzle. The two keep step, also over
  saving and adding: a puzzle counts as solved if it came as
  solved or is in the list. They part only where a puzzle is
  added that the list has named before it was there.

  Main declarations:
    * `Puzzle.adopt`
    * `World.puzzles_add`
    * `Scene.Presents`
    * `Game.Hosts`
    * `Game.Hosts.presents`
    * `Game.hints_are_of_unsolved_puzzles`
-/

namespace TextAdventure

------------------------------------------------------------
-- Puzzles That Are Offered
------------------------------------------------------------

/- Of offered puzzles those are taken whose ids are new. -/
def Puzzle.adopt (known offered : List Puzzle) : List Puzzle :=
  offered.foldl
    (fun known puzzle =>
      if Catalog.has puzzle.id known then known
      else known ++ [puzzle])
    known

namespace Puzzle

variable {known offered : List Puzzle}

theorem adopt_append (known first rest : List Puzzle) :
    adopt known (first ++ rest) =
      adopt (adopt known first) rest :=
  List.foldl_append

theorem nodup_adopt
    (hIds : (Catalog.ids known).Nodup)
    (offered : List Puzzle) :
    (Catalog.ids (adopt known offered)).Nodup := by
  induction offered generalizing known with
  | nil => exact hIds
  | cons puzzle rest ih =>
      have hGrown :
          (Catalog.ids
            (if Catalog.has puzzle.id known then known
              else known ++ [puzzle])).Nodup := by
        split
        · exact hIds
        · rename_i hNew
          exact Catalog.nodup_ids_append hIds
            (by simpa using hNew)
      exact ih hGrown

/- A change that leaves alone what is new can wait. -/
theorem adopt_map
    {change : Puzzle → Puzzle}
    (hId : ∀ puzzle, (change puzzle).id = puzzle.id)
    (hNew :
      ∀ puzzle ∈ offered,
        Catalog.has puzzle.id known = false →
          change puzzle = puzzle) :
    adopt (known.map change) offered =
      (adopt known offered).map change := by
  have hIds (known : List Puzzle) :
      Catalog.ids (known.map change) = Catalog.ids known := by
    simp only [Catalog.ids, List.map_map]
    exact List.map_congr_left (fun puzzle _ => hId puzzle)
  induction offered generalizing known with
  | nil => rfl
  | cons puzzle rest ih =>
      rcases List.forall_mem_cons.mp hNew with
        ⟨hFirst, hRest⟩
      have hHas :
          Catalog.has puzzle.id (known.map change) =
            Catalog.has puzzle.id known :=
        Catalog.has_congr (hIds known) puzzle.id
      unfold adopt at ih ⊢
      rw [List.foldl_cons, List.foldl_cons, hHas]
      cases hKnown : Catalog.has puzzle.id known with
      | true =>
          rw [if_pos rfl, if_pos rfl]
          exact ih hRest
      | false =>
          have hMapped :
              known.map change ++ [puzzle] =
                (known ++ [puzzle]).map change := by
            rw [List.map_append, List.map_singleton,
              hFirst hKnown]
          rw [if_neg Bool.false_ne_true,
            if_neg Bool.false_ne_true, hMapped]
          apply ih
          intro other hOther hUnknown
          apply hRest other hOther
          rw [Catalog.has_eq_false_iff] at hUnknown ⊢
          intro hMem
          apply hUnknown
          rw [Catalog.ids, List.map_append]
          exact List.mem_append_left _ hMem

/- Marking by a list of ids only changes what it names. -/
theorem foldl_solvedBy
    (puzzle : Puzzle)
    (ids : List String) :
    ids.foldl Puzzle.solvedBy puzzle =
      { puzzle with
          solved := puzzle.solved || ids.contains puzzle.id } := by
  induction ids generalizing puzzle with
  | nil => simp
  | cons id rest ih =>
      rw [List.foldl_cons, ih, List.contains_cons]
      simp [solvedBy, Bool.or_assoc]

end Puzzle

/- The puzzles that come with an offer. -/
def Addition.puzzles : Addition → List Puzzle
| .puzzle added => [added]
| .content added => added.puzzles
| _ => []

namespace World

variable {world : World}

/- What brings no puzzle leaves the puzzles alone. -/
theorem puzzles_add_of_kept
    {addition : Addition}
    (hKept :
      ∀ after, world.add? addition = some after →
        after.puzzles = world.puzzles) :
    (world.add addition).puzzles = world.puzzles := by
  unfold add
  cases hAdd : world.add? addition with
  | none => rfl
  | some after => exact hKept after hAdd

theorem puzzles_add_part
    {addition : Addition}
    (hPart : ∀ content, addition ≠ .content content)
    (world : World) :
    (world.add addition).puzzles =
      Puzzle.adopt world.puzzles addition.puzzles := by
  cases addition with
  | puzzle puzzle =>
      simp only [add, add?, addPuzzle?, Addition.puzzles,
        Puzzle.adopt, List.foldl_cons, List.foldl_nil]
      cases Catalog.has puzzle.id world.puzzles <;> rfl
  | room room =>
      apply puzzles_add_of_kept
      intro after hAdd
      rcases eq_of_addRoom?_eq_some hAdd with ⟨-, -, -, rfl⟩
      rfl
  | thing thing =>
      apply puzzles_add_of_kept
      intro after hAdd
      rcases addThing_eq_ok_some_iff.mp
        (add?_thing_iff.mp hAdd) with ⟨-, -, rfl⟩
      rfl
  | script script =>
      apply puzzles_add_of_kept
      intro after hAdd
      cases eq_of_addScript?_eq_some hAdd
      rfl
  | exits source direction target =>
      apply puzzles_add_of_kept
      intro after hAdd
      cases eq_of_connect_eq_ok (add?_exits_iff.mp hAdd)
      rfl
  | content content => exact absurd rfl (hPart content)

theorem puzzles_addAll
    {additions : List Addition}
    (hParts : ∀ addition ∈ additions,
      ∀ content, addition ≠ .content content)
    (world : World) :
    (world.addAll additions).puzzles =
      Puzzle.adopt world.puzzles
        (additions.flatMap Addition.puzzles) := by
  induction additions generalizing world with
  | nil => rfl
  | cons first rest ih =>
      rcases List.forall_mem_cons.mp hParts with
        ⟨hFirst, hRest⟩
      rw [addAll_cons, ih hRest, puzzles_add_part hFirst,
        List.flatMap_cons, Puzzle.adopt_append]

/- An offer brings the puzzles that come with it. -/
theorem puzzles_add
    (world : World)
    (addition : Addition) :
    (world.add addition).puzzles =
      Puzzle.adopt world.puzzles addition.puzzles := by
  by_cases hContent : ∃ content, addition = .content content
  · rcases hContent with ⟨content, rfl⟩
    rcases merge_eq_addAll_kinds world content with
      ⟨offered, -, hMerged⟩
    have hNone {α : Type} (entities : List α) :
        entities.flatMap (fun _ => ([] : List Puzzle)) = [] :=
      List.flatMap_eq_nil_iff.mpr (fun _ _ => rfl)
    refine (congrArg World.puzzles hMerged).trans ?_
    rw [puzzles_addAll]
    · simp [List.flatMap_map, Addition.puzzles, hNone,
        Content.placeListed]
    · intro part hPart other
      simp only [List.mem_append, List.mem_map] at hPart
      rcases hPart with
        ((⟨_, -, rfl⟩ | ⟨_, -, rfl⟩) | ⟨_, -, rfl⟩) |
          ⟨_, -, rfl⟩ <;> simp
  · exact puzzles_add_part
      (fun content hSame => hContent ⟨content, hSame⟩) world

/- Taking off what strays leaves the puzzles alone. -/
theorem puzzles_resumed
    (world : World)
    (session : Session) :
    (world.resumed session).puzzles =
      (world.overlaid session).puzzles := by
  have hTakeOff (ids : List String) (world : World) :
      (ids.foldl
          (fun world id =>
            world.updateThing id
              (fun thing => { thing with isWorn := false }))
          world).puzzles =
        world.puzzles := by
    induction ids generalizing world with
    | nil => rfl
    | cons id rest ih =>
        rw [List.foldl_cons, ih, updateThing_puzzles]
  exact hTakeOff _ _

end World

------------------------------------------------------------
-- Puzzles Marked As Solved
------------------------------------------------------------

namespace Scene

variable {scene after : Scene}
variable {offered : List Puzzle}

/-
  The puzzles of a scene are those that were offered, marked
  as solved if the session lists them.
-/
structure Presents
    (offered : List Puzzle)
    (scene : Scene) : Prop where
  distinct : (Catalog.ids offered).Nodup
  puzzles :
    scene.world.puzzles =
      offered.map (fun puzzle =>
        scene.session.solvedPuzzles.foldl Puzzle.solvedBy
          puzzle)

namespace Presents

theorem ids_eq
    (hPresents : scene.Presents offered) :
    Catalog.ids scene.world.puzzles = Catalog.ids offered := by
  rw [hPresents.puzzles]
  simp only [Catalog.ids, List.map_map]
  apply List.map_congr_left
  intro puzzle _
  rw [Function.comp_apply, Puzzle.foldl_solvedBy]
  rfl

/- What touches neither copy leaves them in step. -/
theorem of_ledger_eq
    (hPresents : scene.Presents offered)
    (hLedger : after.ledger = scene.ledger) :
    after.Presents offered where
  distinct := hPresents.distinct
  puzzles := by
    rw [puzzles_of_ledger_eq hLedger,
      solvedPuzzles_of_ledger_eq hLedger]
    exact hPresents.puzzles

/- A puzzle that is solved is marked and listed. -/
theorem solve
    (hPresents : scene.Presents offered)
    (puzzle : Puzzle) :
    (scene.solve puzzle).Presents offered where
  distinct := hPresents.distinct
  puzzles := by
    have hIds : (Catalog.ids scene.world.puzzles).Nodup :=
      hPresents.ids_eq ▸ hPresents.distinct
    rw [puzzles_solve, World.puzzles_markSolved hIds,
      solvedPuzzles_solve, hPresents.puzzles, List.map_map]
    apply List.map_congr_left
    intro entry _
    rw [List.foldl_append]
    rfl

theorem solves
    (hPresents : scene.Presents offered)
    {solved : List Puzzle}
    (hSolves : scene.Solves solved after) :
    after.Presents offered := by
  induction hSolves with
  | done scene => exact hPresents
  | @next scene after puzzle later hListed hReady hLater ih =>
      exact ih (hPresents.solve puzzle)

/- A puzzle that is added is not listed as solved yet. -/
theorem add
    (hPresents : scene.Presents offered)
    {addition : Addition}
    (hNew :
      ∀ puzzle ∈ addition.puzzles,
        scene.session.isSolved puzzle.id = true →
          Catalog.has puzzle.id offered = true) :
    Presents (Puzzle.adopt offered addition.puzzles)
      { scene with world := scene.world.add addition } where
  distinct :=
    Puzzle.nodup_adopt hPresents.distinct addition.puzzles
  puzzles := by
    rw [World.puzzles_add, hPresents.puzzles]
    apply Puzzle.adopt_map
    · intro puzzle
      rw [Puzzle.foldl_solvedBy]
    · intro puzzle hPuzzle hUnknown
      have hUnsolved :
          scene.session.isSolved puzzle.id = false := by
        cases hSolved : scene.session.isSolved puzzle.id with
        | false => rfl
        | true =>
            rw [hNew puzzle hPuzzle hSolved] at hUnknown
            cases hUnknown
      unfold Session.isSolved at hUnsolved
      rw [Puzzle.foldl_solvedBy, hUnsolved, Bool.or_false]

/- A puzzle counts as solved by its mark and by the list. -/
theorem openHints_eq
    (hPresents : scene.Presents offered) :
    Briefing.openHints scene.world =
      (offered.filter (fun puzzle =>
        !puzzle.solved &&
          !scene.session.isSolved puzzle.id)).filterMap
        Puzzle.hint := by
  unfold Briefing.openHints
  rw [hPresents.puzzles]
  simp only [Puzzle.foldl_solvedBy, List.filter_map,
    List.filterMap_map, Function.comp_def, Bool.not_or]
  rfl

/- With no puzzle solved from the start the list decides. -/
theorem openHints_of_unsolved
    (hPresents : scene.Presents offered)
    (hUnsolved :
      ∀ puzzle ∈ offered, puzzle.solved = false) :
    Briefing.openHints scene.world =
      (scene.world.puzzles.filter (fun puzzle =>
        !scene.session.isSolved puzzle.id)).filterMap
        Puzzle.hint := by
  have hCounts :
      ∀ puzzle ∈ offered,
        (!puzzle.solved &&
            !scene.session.isSolved puzzle.id) =
          !scene.session.isSolved puzzle.id := by
    intro puzzle hPuzzle
    rw [hUnsolved puzzle hPuzzle]
    rfl
  rw [hPresents.openHints_eq, List.filter_congr hCounts,
    hPresents.puzzles]
  simp only [Puzzle.foldl_solvedBy, List.filter_map,
    List.filterMap_map, Function.comp_def]

end Presents

end Scene

------------------------------------------------------------
-- Games
------------------------------------------------------------

namespace Game

variable {game : Game}
variable {offered : List Puzzle}

/-
  A game and the puzzles as they came, in content order. It
  was started, anew or with a session from before, and then
  played and added to. A puzzle that is added is not one that
  is already listed as solved.
-/
inductive Hosts : List Puzzle → Game → Prop where
| started
    {settings : Settings}
    {disk : Disk}
    {id : SessionId}
    {game : Game}
    (hStart : (start settings disk id).value = .ok game) :
    Hosts (settings.content disk).puzzles game
| resumed
    {settings : Settings}
    {disk : Disk}
    {session : Session}
    {game : Game}
    (hResume :
      (resume settings disk session).value = .ok game) :
    Hosts (settings.content disk).puzzles game
| execute
    {offered : List Puzzle}
    {game : Game}
    (hGame : Hosts offered game)
    (line : String) :
    Hosts offered (game.execute line).value.1
| add
    {offered : List Puzzle}
    {game : Game}
    (hGame : Hosts offered game)
    (addition : Addition)
    (hNew :
      ∀ puzzle ∈ addition.puzzles,
        game.session.isSolved puzzle.id = true →
          Catalog.has puzzle.id offered = true) :
    Hosts (Puzzle.adopt offered addition.puzzles)
      (game.add addition)

/- Playing a line solves puzzles and does nothing else. -/
theorem presents_execute
    (hPresents : game.scene.Presents offered)
    (line : String) :
    (game.execute line).value.1.scene.Presents offered := by
  rcases exists_solves_turn game line with ⟨more, hSolves, -⟩
  have hActed :=
    hPresents.of_ledger_eq (ledger_acted game line)
  exact (hActed.solves hSolves).of_ledger_eq
    (ledger_execute game line)

/- In all of them mark and list are in step. -/
theorem Hosts.presents
    (hHosts : Hosts offered game) :
    game.scene.Presents offered := by
  induction hHosts with
  | started hStart =>
      rcases start_eq_ok_iff.mp hStart with ⟨hValid, rfl⟩
      exact
        { distinct := hValid.puzzleIds
          puzzles := (List.map_id' _).symm }
  | resumed hResume =>
      rcases resume_eq_ok_iff.mp hResume with
        ⟨hValid, restored, hRestore, rfl⟩
      have hScene :=
        (Scene.restore_eq_ok_iff.mp ⟨_, hRestore⟩).2
      have hPuzzles :=
        World.puzzles_overlaid
          (World.ofContent_isCoherent hValid)
      refine { distinct := hValid.puzzleIds, puzzles := ?_ }
      dsimp only
      rw [hScene]
      exact (World.puzzles_resumed _ _).trans (hPuzzles _)
  | execute hGame line ih => exact presents_execute ih line
  | add hGame addition hNew ih =>
      rw [add_eq_withWorld]
      exact ih.add hNew

/- The hints of the puzzles that are not listed as solved. -/
def unlistedHints (game : Game) : List String :=
  (game.world.puzzles.filter (fun puzzle =>
    !game.session.isSolved puzzle.id)).filterMap Puzzle.hint

/-
  Hints are offered, in content order, for the puzzles that
  did not come as solved and are not listed as solved. If none
  came as solved these are all that are not listed.
-/
theorem hints_are_of_unsolved_puzzles
    (hHosts : Hosts offered game) :
    Catalog.ids game.world.puzzles = Catalog.ids offered ∧
      game.briefing.unsolvedHints =
        (offered.filter (fun puzzle =>
          !puzzle.solved &&
            !game.session.isSolved puzzle.id)).filterMap
          Puzzle.hint ∧
      ((∀ puzzle ∈ offered, puzzle.solved = false) →
        game.briefing.unsolvedHints = game.unlistedHints) := by
  have hPresents := hHosts.presents
  exact ⟨hPresents.ids_eq, hPresents.openHints_eq,
    hPresents.openHints_of_unsolved⟩

/- A puzzle that cannot be solved and a hint for it. -/
def riddle : Puzzle where
  id := "riddle"
  name := "Riddle"
  conditions := [{ kind := .flag, target := "answered" }]
  hint := some "The answer is a tree."

/- A game in which the lighter is found, with a riddle. -/
def riddleAfterLighter : Game :=
  ((fresh {} .embedded ⟨0⟩).execute
    "search leaves").value.1.add (.puzzle riddle)

/- Hints are offered for the riddle and what else is left. -/
theorem hints_in_riddleAfterLighter :
    ∃ offered,
      Hosts offered riddleAfterLighter ∧
        riddleAfterLighter.session.solvedPuzzles =
          ["find-lighter"] ∧
        "The answer is a tree." ∈
          riddleAfterLighter.briefing.unsolvedHints ∧
        riddleAfterLighter.briefing.unsolvedHints =
          riddleAfterLighter.unlistedHints := by
  have hPlayed :=
    (Hosts.started start_embedded).execute "search leaves"
  have hHosts :=
    hPlayed.add (.puzzle riddle) (by decide +kernel)
  have hSolved :
      riddleAfterLighter.session.solvedPuzzles =
          ["find-lighter"] ∧
        "The answer is a tree." ∈
          riddleAfterLighter.briefing.unsolvedHints := by
    decide +kernel
  have hFromContent :
      ∀ puzzle ∈
        Puzzle.adopt
          (Settings.content {} (fun _ => .nothing)).puzzles
          [riddle],
        puzzle.solved = false := by
    decide +kernel
  exact ⟨_, hHosts, hSolved.1, hSolved.2,
    (hints_are_of_unsolved_puzzles hHosts).2.2 hFromContent⟩

/- A game with a puzzle that was solved when it came. -/
def settledForest : Game :=
  (fresh {} .embedded ⟨0⟩).add
    (.puzzle { riddle with solved := true })

/- A session that lists a puzzle its content has not. -/
def riddledSession : Session :=
  { Session.starting ⟨0⟩ "forest" with
      solvedPuzzles := ["riddle"] }

/- A game with such a session, to which the puzzle came. -/
def riddledForest : Game :=
  ({ settings := {}
     scene :=
      Scene.resumed (World.ofContent .embedded)
        riddledSession } : Game).add (.puzzle riddle)

/-
  The puzzle that came as solved has no hint although it is
  not listed, and the one that was listed before it came has a
  hint although it is.
-/
theorem hints_part_from_list :
    settledForest.Arises ∧
      settledForest.briefing.unsolvedHints ≠
        settledForest.unlistedHints ∧
      riddledForest.Arises ∧
      riddledForest.briefing.unsolvedHints ≠
        riddledForest.unlistedHints := by
  have hValid : Content.embedded.IsValid := by rfl
  have hResume :
      (resume {} (fun _ => .nothing) riddledSession).value =
        .ok
          { settings := {}
            scene :=
              Scene.resumed (World.ofContent .embedded)
                riddledSession } :=
    resume_value hValid (by decide +kernel)
  refine ⟨(Arises.started start_embedded).add _, ?_,
    (Arises.resumed hResume).add _, ?_⟩
  all_goals decide +kernel

end Game

end TextAdventure
