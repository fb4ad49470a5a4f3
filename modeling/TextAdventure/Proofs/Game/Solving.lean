import TextAdventure.Proofs.Game.Run
import TextAdventure.Proofs.Scene.Solving

/-
  Puzzles over a whole run: each is solved at most once, and
  after all that it depends on.

  In a turn the verb and its scripts act first and solve
  nothing; then puzzles of the world are solved one by one,
  each when it is ready. A run is retold by the puzzles that
  were solved in it. They stay in the world, marked as solved,
  and what is added later takes other ids.

  Main declarations:
    * `Scene.acted`
    * `Scene.Recounts`
    * `Scene.Recounts.solves`
    * `Game.AnyStep`
    * `Game.Runs`
    * `Game.exists_runs_of_reaches`
    * `Game.solves_once_in_order`
-/

namespace TextAdventure

open Relation (ReflTransGen TransGen)

------------------------------------------------------------
-- Turns
------------------------------------------------------------

namespace Scene

/- The scene after a verb and its scripts, before puzzles. -/
def acted (scene : Scene) (command : Command) : Scene :=
  match Verb.ofName? command.verb with
  | none => scene
  | some verb =>
      if scene.session.playerState == .dead && !verb.isQuery then
        scene
      else
        match scene.handle verb command with
        | (after, .error _) => after
        | (after, .ok reply) =>
            (after.runScriptsFor verb reply).value.1

/- Verbs and scripts solve no puzzle. -/
theorem ledger_acted (scene : Scene) (command : Command) :
    (scene.acted command).ledger = scene.ledger := by
  unfold acted
  split
  · rfl
  · rename_i verb hVerb
    split
    · rfl
    · have hEdits :
          PlainEdits (fun _ => True) scene
            (scene.handle verb command).1 :=
        handle_edits (fun _ => trivial) scene verb command
      have hHandle := hEdits.ledger
      split
      · rename_i after refusal hDone
        rw [hDone] at hHandle
        exact hHandle
      · rename_i after reply hDone
        rw [hDone] at hHandle
        have hScripts :=
          (runScriptsFor_edits (World.grants_any after.world)
            verb reply).ledger
        exact hScripts.trans hHandle

/- After verb and scripts a command only solves puzzles. -/
theorem exists_solves_perform
    (scene : Scene)
    (limit : UInt64)
    (command : Command) :
    ∃ solved,
      (scene.acted command).Solves solved
          (scene.perform limit command).scene ∧
        (scene.perform limit command).outcome.solvedPuzzle =
          (solved.map Puzzle.id).head? := by
  have hRefused (scene : Scene) (refusal : Refusal) :
      ∃ solved,
        scene.Solves solved (Turn.refused scene refusal).scene ∧
          (Turn.refused scene refusal).outcome.solvedPuzzle =
            (solved.map Puzzle.id).head? :=
    ⟨[], .done scene, rfl⟩
  unfold perform acted
  cases Verb.ofName? command.verb with
  | none => exact hRefused scene _
  | some verb =>
      dsimp only
      split
      · exact hRefused scene _
      · rcases scene.handle verb command with
          ⟨after, refusal | reply⟩
        · exact hRefused after refusal
        · rcases exists_solves_evaluatePuzzles
              (after.runScriptsFor verb reply).value.1 limit with
            ⟨solved, hSolves, hIds⟩
          refine ⟨solved, hSolves, ?_⟩
          rw [← hIds]
          rfl

------------------------------------------------------------
-- Solved Puzzles
------------------------------------------------------------

/-
  A scene recounts the puzzles that were solved: it lists them
  in order, each once and after all that it depends on, and
  its world has them, marked as solved.
-/
structure Recounts
    (solved : List Puzzle)
    (scene : Scene) : Prop where
  distinct : (Catalog.ids scene.world.puzzles).Nodup
  listed :
    scene.session.solvedPuzzles = solved.map Puzzle.id
  nodup : (solved.map Puzzle.id).Nodup
  marked :
    ∀ puzzle ∈ solved,
      { puzzle with solved := true } ∈ scene.world.puzzles
  ordered :
    ∀ earlier puzzle later,
      solved = earlier ++ puzzle :: later →
        puzzle.dependsOn ⊆ earlier.map Puzzle.id

namespace Recounts

variable {scene after : Scene}
variable {puzzle : Puzzle}
variable {solved : List Puzzle}

/- What solves nothing does not change the account. -/
theorem of_ledger_eq
    (hRecounts : scene.Recounts solved)
    (hLedger : after.ledger = scene.ledger) :
    after.Recounts solved := by
  have hPuzzles := puzzles_of_ledger_eq hLedger
  have hSolved := solvedPuzzles_of_ledger_eq hLedger
  exact
    { distinct := hPuzzles ▸ hRecounts.distinct
      listed := hSolved.trans hRecounts.listed
      nodup := hRecounts.nodup
      marked := hPuzzles ▸ hRecounts.marked
      ordered := hRecounts.ordered }

/- Puzzles that are added leave the solved ones in place. -/
theorem grow
    {may : Thing → Prop}
    {world : World}
    (hRecounts : scene.Recounts solved)
    (hGrows : World.Grows may scene.world world) :
    Recounts solved { scene with world } := by
  rcases World.puzzles_of_grow hGrows with
    hSame | ⟨puzzle, hNew, hMore⟩
  · exact hRecounts.of_ledger_eq (by simp [ledger, hSame])
  · exact
      { distinct := by
          rw [hMore]
          exact Catalog.nodup_ids_append hRecounts.distinct
            hNew
        listed := hRecounts.listed
        nodup := hRecounts.nodup
        marked := by
          intro other hOther
          rw [hMore]
          exact List.mem_append_left _
            (hRecounts.marked other hOther)
        ordered := hRecounts.ordered }

theorem grows
    {may : Thing → Prop}
    {world : World}
    (hRecounts : scene.Recounts solved)
    (hGrows : ReflTransGen (World.Grows may) scene.world world) :
    Recounts solved { scene with world } := by
  induction hGrows with
  | refl => exact hRecounts
  | tail _ hLast ih => exact ih.grow hLast

/- A ready puzzle is solved after all that it depends on. -/
theorem solve
    (hRecounts : scene.Recounts solved)
    (hListed : puzzle ∈ scene.world.puzzles)
    (hReady : scene.isReady puzzle = true) :
    Recounts (solved ++ [puzzle]) (scene.solve puzzle) := by
  have hIds :
      Catalog.ids (scene.world.markSolved puzzle.id).puzzles =
        Catalog.ids scene.world.puzzles :=
    Catalog.ids_update (by simp) scene.world.puzzles
  simp only [isReady, Session.isSolved, hRecounts.listed,
    Bool.and_eq_true, Bool.not_eq_true', List.all_eq_true,
    List.contains_iff_mem] at hReady
  rcases hReady with ⟨⟨⟨-, hNew⟩, hDepends⟩, -⟩
  have hNotMem : puzzle.id ∉ solved.map Puzzle.id := by
    simpa using hNew
  exact
    { distinct := by
        rw [puzzles_solve, hIds]
        exact hRecounts.distinct
      listed := by
        rw [solvedPuzzles_solve, hRecounts.listed]
        simp
      nodup := by
        rw [List.map_append]
        exact List.nodup_append.mpr
          ⟨hRecounts.nodup, List.nodup_singleton _, by
            intro id hId other hOther hEq
            have hOther : other = puzzle.id := by
              simpa using hOther
            exact hNotMem (hOther ▸ hEq ▸ hId)⟩
      marked := by
        intro other hOther
        rw [puzzles_solve]
        refine (Catalog.mem_update_iff
          hRecounts.distinct).mpr ?_
        rcases List.mem_append.mp hOther with hOld | hLast
        · refine Or.inr ⟨hRecounts.marked other hOld, ?_⟩
          intro hSame
          exact hNotMem
            (List.mem_map.mpr ⟨other, hOld, hSame⟩)
        · rw [List.mem_singleton] at hLast
          subst hLast
          exact Or.inl ⟨other, hListed, rfl, rfl⟩
      ordered := by
        intro earlier other later hSplit
        rcases List.eq_nil_or_concat later with
          rfl | ⟨between, last, rfl⟩
        · rcases List.append_inj' hSplit rfl with
            ⟨rfl, hLast⟩
          cases hLast
          exact hDepends
        · rw [List.concat_eq_append, ← List.cons_append,
            ← List.append_assoc] at hSplit
          exact hRecounts.ordered earlier other between
            (List.append_inj' hSplit rfl).1 }

theorem solves
    {more : List Puzzle}
    (hRecounts : scene.Recounts solved)
    (hSolves : scene.Solves more after) :
    after.Recounts (solved ++ more) := by
  induction hSolves generalizing solved with
  | done scene => simpa using hRecounts
  | next hListed hReady _ ih =>
      have hRest := ih (hRecounts.solve hListed hReady)
      simpa using hRest

end Recounts

end Scene

------------------------------------------------------------
-- Dependencies
------------------------------------------------------------

/- The puzzle of an id depends on another id. -/
def World.Requires
    (world : World)
    (dependency id : String) : Prop :=
  ∃ puzzle ∈ world.puzzles,
    puzzle.id = id ∧ dependency ∈ puzzle.dependsOn

namespace Scene.Recounts

variable {scene : Scene}
variable {solved : List Puzzle}

/- An id in the list is that of a puzzle of the world. -/
theorem exists_puzzle
    (hRecounts : scene.Recounts solved)
    {position : Nat}
    {id : String}
    (hAt :
      scene.session.solvedPuzzles[position]? = some id) :
    ∃ puzzle,
      scene.world.puzzle? id = some puzzle ∧
        puzzle.dependsOn ⊆
          scene.session.solvedPuzzles.take position := by
  rw [hRecounts.listed] at hAt ⊢
  rw [List.getElem?_map, Option.map_eq_some_iff] at hAt
  rcases hAt with ⟨puzzle, hPuzzle, rfl⟩
  have hBelow := (List.getElem?_eq_some_iff.mp hPuzzle).1
  have hSame := (List.getElem?_eq_some_iff.mp hPuzzle).2
  refine ⟨{ puzzle with solved := true }, ?_, ?_⟩
  · exact (Catalog.find?_eq_some_iff hRecounts.distinct).mpr
      ⟨hRecounts.marked puzzle
        (List.mem_of_getElem? hPuzzle), rfl⟩
  · rw [← List.map_take]
    apply hRecounts.ordered _ puzzle
      (solved.drop (position + 1))
    rw [← hSame, ← List.drop_eq_getElem_cons hBelow,
      List.take_append_drop]

/- What a solved puzzle requires was solved before it. -/
theorem idxOf_lt
    (hRecounts : scene.Recounts solved)
    {dependency id : String}
    (hRequires : scene.world.Requires dependency id)
    (hSolved : id ∈ scene.session.solvedPuzzles) :
    dependency ∈ scene.session.solvedPuzzles ∧
      scene.session.solvedPuzzles.idxOf dependency <
        scene.session.solvedPuzzles.idxOf id := by
  rcases hRequires with ⟨puzzle, hMem, rfl, hDepends⟩
  have hAt :
      scene.session.solvedPuzzles[
        scene.session.solvedPuzzles.idxOf puzzle.id]? =
          some puzzle.id :=
    List.getElem?_idxOf hSolved
  rcases hRecounts.exists_puzzle hAt with
    ⟨found, hFound, hEarlier⟩
  have hSame : found = puzzle :=
    Option.some.inj (hFound.symm.trans
      ((Catalog.find?_eq_some_iff hRecounts.distinct).mpr
        ⟨hMem, rfl⟩))
  subst hSame
  have hTaken := hEarlier hDepends
  have hDone := List.mem_of_mem_take hTaken
  exact ⟨hDone, (List.mem_take_iff_idxOf_lt hDone).mp hTaken⟩

/- A puzzle on a cycle of dependencies is never solved. -/
theorem not_mem_of_cycle
    (hRecounts : scene.Recounts solved)
    {id : String}
    (hCycle : TransGen scene.world.Requires id id) :
    id ∉ scene.session.solvedPuzzles := by
  intro hSolved
  have hBefore :
      ∀ first, TransGen scene.world.Requires first id →
        first ∈ scene.session.solvedPuzzles ∧
          scene.session.solvedPuzzles.idxOf first <
            scene.session.solvedPuzzles.idxOf id := by
    intro first hChain
    induction hChain using TransGen.head_induction_on with
    | single hRequires =>
        exact hRecounts.idxOf_lt hRequires hSolved
    | head hRequires _ ih =>
        have hFirst := hRecounts.idxOf_lt hRequires ih.1
        exact ⟨hFirst.1, hFirst.2.trans ih.2⟩
  exact Nat.lt_irrefl _ (hBefore id hCycle).2

/- One that depends on an unknown puzzle is not solved. -/
theorem not_mem_of_unknown
    (hRecounts : scene.Recounts solved)
    {puzzle : Puzzle}
    {dependency : String}
    (hMem : puzzle ∈ scene.world.puzzles)
    (hDepends : dependency ∈ puzzle.dependsOn)
    (hUnknown :
      dependency ∉ Catalog.ids scene.world.puzzles) :
    puzzle.id ∉ scene.session.solvedPuzzles := by
  intro hSolved
  have hEarlier :=
    (hRecounts.idxOf_lt ⟨puzzle, hMem, rfl, hDepends⟩
      hSolved).1
  rw [hRecounts.listed] at hEarlier
  rcases List.mem_map.mp hEarlier with ⟨other, hOther, rfl⟩
  exact hUnknown ((Catalog.mem_ids_iff _ _).mpr
    ⟨_, hRecounts.marked other hOther, rfl⟩)

end Scene.Recounts

------------------------------------------------------------
-- Runs
------------------------------------------------------------

namespace Game

variable {content : Content}
variable {before after last : Game}

/-
  What can happen to a game, whatever is added: a new thing
  may also be carried or worn.
-/
inductive AnyStep : Game → Game → Prop where
| execute
    (game : Game)
    (line : String) :
    AnyStep game (game.execute line).value.1
| merge
    (game : Game)
    (content : Content) :
    AnyStep game (game.merge content).value.1
| addRoom
    {game after : Game}
    (room : Room)
    (hAdd : game.addRoom? room = some after) :
    AnyStep game after
| addThing
    {game after : Game}
    (thing : Thing)
    (hAdd : game.addThing thing = .ok (some after)) :
    AnyStep game after
| addPuzzle
    {game after : Game}
    (puzzle : Puzzle)
    (hAdd : game.addPuzzle? puzzle = some after) :
    AnyStep game after
| addScript
    {game after : Game}
    (script : Script)
    (hAdd : game.addScript? script = some after) :
    AnyStep game after
| connect
    {game after : Game}
    (source target : String)
    (direction : Direction)
    (hAdd : game.connect source direction target =
      .ok after) :
    AnyStep game after

/- The scene of a line after verb and scripts. -/
def acted (game : Game) (line : String) : Scene :=
  (nextTurn game.scene).acted (Command.ofLine line)

/-
  A run, retold by the puzzles solved in it: in each line the
  verb and its scripts act, and then puzzles are solved, each
  with its effects. Additions solve nothing.
-/
inductive Runs (first : Game) : List Puzzle → Game → Prop where
| begin :
    Runs first [] first
| play
    {last : Game}
    {solved more : List Puzzle}
    (hRuns : Runs first solved last)
    (line : String)
    (hSolves :
      (last.acted line).Solves more (last.turn line).scene) :
    Runs first (solved ++ more) (last.execute line).value.1
| add
    {last : Game}
    {solved : List Puzzle}
    (hRuns : Runs first solved last)
    (may : Thing → Prop)
    {world : World}
    (hGrows : ReflTransGen (World.Grows may) last.world world) :
    Runs first solved (last.withWorld world)

/- A step is a line or lets the world grow. -/
theorem AnyStep.execute_or_grows
    (hStep : AnyStep before after) :
    (∃ line, after = (before.execute line).value.1) ∨
      ∃ may world,
        ReflTransGen (World.Grows may) before.world world ∧
          after = before.withWorld world := by
  have hGrow {world : World}
      (hGrows :
        World.Grows (fun _ => True) before.world world) :
      ∃ may grown,
        ReflTransGen (World.Grows may) before.world grown ∧
          before.withWorld world = before.withWorld grown :=
    ⟨_, world, ReflTransGen.single hGrows, rfl⟩
  cases hStep with
  | execute line => exact Or.inl ⟨line, rfl⟩
  | merge content =>
      exact Or.inr
        ⟨_, _, World.merge_grows before.world content, rfl⟩
  | addRoom room hAdd =>
      rcases Option.map_eq_some_iff.mp hAdd with
        ⟨world, hWorld, rfl⟩
      exact Or.inr (hGrow (.room room hWorld))
  | addThing thing hAdd =>
      rcases addThing_eq_ok_some_iff.mp hAdd with
        ⟨world, hWorld, rfl⟩
      exact Or.inr (hGrow (.thing thing trivial hWorld))
  | addPuzzle puzzle hAdd =>
      rcases Option.map_eq_some_iff.mp hAdd with
        ⟨world, hWorld, rfl⟩
      exact Or.inr (hGrow (.puzzle puzzle hWorld))
  | addScript script hAdd =>
      rcases Option.map_eq_some_iff.mp hAdd with
        ⟨world, hWorld, rfl⟩
      exact Or.inr (hGrow (.script script hWorld))
  | connect source target direction hAdd =>
      rcases connect_eq_ok_iff.mp hAdd with
        ⟨world, hWorld, rfl⟩
      exact Or.inr (hGrow (.exits source target direction hWorld))

/- Every line is retold by the puzzles it solves. -/
theorem exists_solves_turn
    (game : Game)
    (line : String) :
    ∃ more,
      (game.acted line).Solves more (game.turn line).scene ∧
        (game.turn line).outcome.solvedPuzzle =
          (more.map Puzzle.id).head? := by
  unfold acted turn
  exact Scene.exists_solves_perform (nextTurn game.scene)
    game.settings.maxPasses (Command.ofLine line)

/- Every game that is reached can be retold. -/
theorem exists_runs_of_reaches
    (hReaches : ReflTransGen AnyStep before after) :
    ∃ solved, Runs before solved after := by
  induction hReaches with
  | refl => exact ⟨[], .begin⟩
  | tail _ hStep ih =>
      rcases ih with ⟨solved, hRuns⟩
      rcases hStep.execute_or_grows with
        ⟨line, rfl⟩ | ⟨may, world, hGrows, rfl⟩
      · rcases exists_solves_turn _ line with
          ⟨more, hSolves, -⟩
        exact ⟨_, hRuns.play line hSolves⟩
      · exact ⟨solved, hRuns.add may hGrows⟩

/- Counting, the verb and its scripts solve nothing. -/
theorem ledger_acted (game : Game) (line : String) :
    (game.acted line).ledger = game.scene.ledger :=
  Scene.ledger_acted (nextTurn game.scene)
    (Command.ofLine line)

theorem ledger_recordChanges (scene : Scene) :
    (recordChanges scene).ledger = scene.ledger := by
  rw [recordChanges_eq]
  rfl

theorem ledger_execute (game : Game) (line : String) :
    (game.execute line).value.1.scene.ledger =
      (game.turn line).scene.ledger := by
  rw [execute_value]
  exact ledger_recordChanges (game.turn line).scene

/- The list of solved puzzles grows by what a line solves. -/
theorem solvedPuzzles_execute
    {game : Game}
    {line : String}
    {more : List Puzzle}
    (hSolves :
      (game.acted line).Solves more (game.turn line).scene) :
    (game.execute line).value.1.session.solvedPuzzles =
      game.session.solvedPuzzles ++ more.map Puzzle.id := by
  have hAfter :=
    Scene.solvedPuzzles_of_ledger_eq (ledger_execute game line)
  have hActed :=
    Scene.solvedPuzzles_of_ledger_eq (ledger_acted game line)
  unfold session
  rw [hAfter, hSolves.solvedPuzzles, hActed]

/- A run that begins with nothing solved is recounted. -/
theorem Runs.recounts
    {solved : List Puzzle}
    (hRuns : Runs before solved last)
    (hBefore : before.scene.Recounts []) :
    last.scene.Recounts solved := by
  induction hRuns with
  | begin => exact hBefore
  | play _ line hSolves ih =>
      exact ((ih.of_ledger_eq (ledger_acted _ line)).solves
        hSolves).of_ledger_eq (ledger_execute _ line)
  | add _ may hGrows ih => exact ih.grows hGrows

/- At the beginning nothing is solved. -/
theorem recounts_fresh
    (hValid : content.IsValid)
    (settings : Settings)
    (id : SessionId) :
    (fresh settings content id).scene.Recounts [] where
  distinct := hValid.puzzleIds
  listed := rfl
  nodup := List.nodup_nil
  marked := by simp
  ordered := by simp

/-
  Whatever is played and added, the puzzles that were solved
  are listed once each, in the order in which they were solved
  with their effects, and after all that they depend on. One
  that depends on an unknown puzzle or on itself, in however
  many steps, is not among them. A line only adds to the list
  and names the first puzzle it has added.
-/
theorem solves_once_in_order
    (hValid : content.IsValid)
    {settings : Settings}
    {id : SessionId}
    (hReaches :
      ReflTransGen AnyStep (fresh settings content id) last) :
    (∃ solved,
        Runs (fresh settings content id) solved last ∧
          last.session.solvedPuzzles =
            solved.map Puzzle.id) ∧
      last.session.solvedPuzzles.Nodup ∧
      (∀ (position : Nat) (id : String),
        last.session.solvedPuzzles[position]? = some id →
          ∃ puzzle,
            last.world.puzzle? id = some puzzle ∧
              puzzle.dependsOn ⊆
                last.session.solvedPuzzles.take position) ∧
      (∀ puzzle ∈ last.world.puzzles,
        (∃ dependency ∈ puzzle.dependsOn,
            dependency ∉ Catalog.ids last.world.puzzles) ∨
          TransGen last.world.Requires puzzle.id puzzle.id →
        puzzle.id ∉ last.session.solvedPuzzles) ∧
      ∀ line, ∃ more,
        (last.acted line).ledger = last.scene.ledger ∧
          (last.acted line).Solves more
            (last.turn line).scene ∧
          (last.execute line).value.1.session.solvedPuzzles =
            last.session.solvedPuzzles ++
              more.map Puzzle.id ∧
          (last.execute line).value.2.solvedPuzzle =
            (more.map Puzzle.id).head? := by
  rcases exists_runs_of_reaches hReaches with
    ⟨solved, hRuns⟩
  have hRecounts :=
    hRuns.recounts (recounts_fresh hValid settings id)
  refine ⟨⟨solved, hRuns, hRecounts.listed⟩, ?_, ?_, ?_, ?_⟩
  · rw [session, hRecounts.listed]
    exact hRecounts.nodup
  · intro position id hAt
    exact hRecounts.exists_puzzle hAt
  · rintro puzzle hMem (⟨dependency, hDepends, hUnknown⟩ |
      hCycle)
    · exact hRecounts.not_mem_of_unknown hMem hDepends
        hUnknown
    · exact hRecounts.not_mem_of_cycle hCycle
  · intro line
    rcases exists_solves_turn last line with
      ⟨more, hSolves, hFirst⟩
    refine ⟨more, ledger_acted last line, hSolves, ?_, ?_⟩
    · exact solvedPuzzles_execute hSolves
    · rw [outcome_execute]
      exact hFirst

/-
  A door that needs its key, an egg and a hen that need each
  other, and a moon that needs stars, which are unknown.
-/
def knottedPuzzles : Content where
  rules := { startRoom := "hall" }
  rooms := [{ id := "hall", name := "Hall" }]
  puzzles :=
    [{ id := "door", name := "Door", dependsOn := ["key"] },
      { id := "key"
        name := "Key"
        effects := [.setFlag "turned" (.boolean true)] },
      { id := "egg", name := "Egg", dependsOn := ["hen"] },
      { id := "hen", name := "Hen", dependsOn := ["egg"] },
      { id := "moon", name := "Moon", dependsOn := ["stars"] }]

/- A gate behind the door. -/
def gateBehindDoor : Content where
  puzzles :=
    [{ id := "gate", name := "Gate", dependsOn := ["door"] }]

/- A game in which the gate is added between two turns. -/
def knottedGame : Game :=
  ((((fresh {} knottedPuzzles default).execute
    "wait").value.1.merge gateBehindDoor).value.1.execute
      "wait").value.1

theorem solves_once_in_order_of_knottedPuzzles :
    knottedPuzzles.IsValid ∧
      ReflTransGen AnyStep (fresh {} knottedPuzzles default)
        knottedGame ∧
      knottedGame.session.solvedPuzzles =
        ["key", "door", "gate"] ∧
      knottedGame.session.solvedPuzzles.Nodup ∧
      "egg" ∉ knottedGame.session.solvedPuzzles ∧
      "moon" ∉ knottedGame.session.solvedPuzzles ∧
      ∃ solved,
        Runs (fresh {} knottedPuzzles default) solved
            knottedGame ∧
          knottedGame.session.solvedPuzzles =
            solved.map Puzzle.id := by
  have hValid : knottedPuzzles.IsValid := by rfl
  have hReaches :
      ReflTransGen AnyStep (fresh {} knottedPuzzles default)
        knottedGame :=
    ((ReflTransGen.refl.tail (.execute _ _)).tail
      (.merge _ gateBehindDoor)).tail (.execute _ _)
  have hListed :
      ∀ puzzle ∈ knottedPuzzles.puzzles,
        puzzle.id ∈ ["egg", "hen", "moon"] →
          puzzle ∈ knottedGame.world.puzzles := by
    decide +kernel
  have hRequires (dependency id : String)
      (hMem :
        ∃ puzzle ∈ knottedPuzzles.puzzles,
          puzzle.id ∈ ["egg", "hen", "moon"] ∧
            puzzle.id = id ∧
              dependency ∈ puzzle.dependsOn) :
      knottedGame.world.Requires dependency id := by
    rcases hMem with ⟨puzzle, hMem, hNamed, hRest⟩
    exact ⟨puzzle, hListed puzzle hMem hNamed, hRest⟩
  have hCycle :
      TransGen knottedGame.world.Requires "egg" "egg" :=
    (TransGen.single (hRequires "egg" "hen" (by decide))).tail
      (hRequires "hen" "egg" (by decide))
  rcases solves_once_in_order hValid hReaches with
    ⟨hRuns, hNodup, -, hNever, -⟩
  refine ⟨hValid, hReaches, by decide +kernel, hNodup, ?_, ?_,
    hRuns⟩
  · exact hNever
      { id := "egg", name := "Egg", dependsOn := ["hen"] }
      (hListed _ (by decide) (by decide)) (Or.inr hCycle)
  · exact hNever
      { id := "moon", name := "Moon", dependsOn := ["stars"] }
      (hListed _ (by decide) (by decide))
      (Or.inl ⟨"stars", by decide, by decide +kernel⟩)

end Game

end TextAdventure
