import TextAdventure.Proofs.Game.Run
import TextAdventure.Proofs.Play.Refusal

/-
  What a line that fails does to a game.

  Between turns no thing is remembered as changed, so a turn
  that leaves the scene as it is records nothing. Then a line
  that fails counts as a turn and does no more, unless it
  wakes a player who has nowhere to wake.

  Main declarations:
    * `Game.Strands`
    * `Game.changed_executeAll`
    * `Game.execute_of_failure`
    * `Game.failed_execute_eq_nextTurn_iff`
-/

namespace TextAdventure

namespace Game

variable {game : Game}

------------------------------------------------------------
-- Between Turns
------------------------------------------------------------

/- After any number of turns no change is left to record. -/
theorem changed_executeAll
    (hNone : game.world.changed = [])
    (lines : List String) :
    (game.executeAll lines).value.1.world.changed = [] :=
  executeAll_keeps (fun game => game.world.changed = [])
    (fun game line _ => changed_execute game line) hNone lines

/- Without changes there is nothing to record. -/
theorem recordChanges_eq_self
    {scene : Scene}
    (hNone : scene.world.changed = []) :
    recordChanges scene = scene := by
  have hWorld : scene.world.forgetChanges = scene.world := by
    rw [World.forgetChanges, ← hNone]
  rw [recordChanges_eq, hWorld, recordedStates, hNone]
  rfl

theorem recordChanges_playerState (scene : Scene) :
    (recordChanges scene).session.playerState =
      scene.session.playerState := by
  rw [recordChanges_eq]

------------------------------------------------------------
-- Failing Lines
------------------------------------------------------------

/- A line wakes a player who dreams and has nowhere to wake. -/
def Strands (game : Game) (line : String) : Prop :=
  Verb.ofName? (Command.ofLine line).verb = some .wake ∧
    game.scene.IsStranded

/- A line that fails solves nothing, and it only counts. -/
theorem execute_of_failure
    (hNone : game.world.changed = [])
    {line : String}
    (hFailed :
      (game.execute line).value.2.success = false) :
    (game.execute line).value.2.solvedPuzzle = none ∧
      ((game.execute line).value.1 =
            { game with scene := nextTurn game.scene } ∧
          ¬ game.Strands line ∨
        (game.execute
            line).value.1.session.playerState = .normal ∧
          game.Strands line) := by
  rw [execute_value] at hFailed ⊢
  dsimp only at hFailed ⊢
  unfold turn at hFailed ⊢
  rcases Scene.perform_failure (nextTurn game.scene)
      game.settings.maxPasses (Command.ofLine line) hFailed with
    ⟨hSolved, ⟨hScene, hSafe⟩ | ⟨hAwake, hStrands⟩⟩
  · refine ⟨hSolved, Or.inl ⟨?_, hSafe⟩⟩
    have hRecorded :
        recordChanges (nextTurn game.scene) =
          nextTurn game.scene :=
      recordChanges_eq_self hNone
    rw [hScene, hRecorded]
  · refine ⟨hSolved, Or.inr ⟨?_, hStrands⟩⟩
    dsimp only [session]
    rw [recordChanges_playerState]
    exact hAwake

/-
  In every game that was begun anew and played line by line,
  a line that fails solves no puzzle and leaves world and
  session as they were, but for the count of turns, exactly
  if it does not wake a player who has nowhere to wake.
-/
theorem failed_execute_eq_nextTurn_iff
    (settings : Settings)
    (content : Content)
    (id : SessionId)
    (lines : List String)
    (hGame :
      ((fresh settings content id).executeAll lines).value.1 =
        game)
    {line : String}
    (hFailed :
      (game.execute line).value.2.success = false) :
    (game.execute line).value.2.solvedPuzzle = none ∧
      ((game.execute line).value.1 =
          { game with scene := nextTurn game.scene } ↔
        ¬ game.Strands line) := by
  have hNone : game.world.changed = [] := by
    rw [← hGame]
    exact changed_executeAll rfl lines
  rcases execute_of_failure hNone hFailed with
    ⟨hSolved, ⟨hSame, hSafe⟩ | ⟨hAwake, hStrands⟩⟩
  · exact ⟨hSolved, iff_of_true hSame hSafe⟩
  · refine ⟨hSolved, iff_of_false ?_ (not_not_intro hStrands)⟩
    intro hSame
    rw [hSame] at hAwake
    have hDreaming := hStrands.2.1
    change game.scene.session.playerState = .normal at hAwake
    simp [hAwake] at hDreaming

/- An orb that sends to sleep in a hall without a bedroom. -/
def orbOfSleep : Content where
  rules :=
    { startRoom := "hall"
      dream :=
        some
          { wakingRoom := "bedroom"
            dreamingRoom := "hall" } }
  rooms := [{ id := "hall", name := "Hall" }]
  things :=
    [{ id := "orb", name := "orb", placement := .room "hall" }]
  scripts :=
    [{ thing := "orb"
       verb := .focus
       effects := [.setPlayerState .dreaming] }]

/- Waking from the orb's sleep fails, and it is no dream. -/
theorem failed_wake_from_orb :
    let game :=
      ((fresh {} orbOfSleep default).executeAll
        ["focus on orb"]).value.1
    orbOfSleep.IsValid ∧
      (game.execute "wake").value.2.success = false ∧
      game.Strands "wake" ∧
      (game.execute "wake").value.1 ≠
        { game with scene := nextTurn game.scene } := by
  intro game
  have hValid : orbOfSleep.IsValid := by rfl
  have hFailed :
      (game.execute "wake").value.2.success = false := by
    decide +kernel
  have hStrands : game.Strands "wake" := by
    refine ⟨by decide +kernel, by decide +kernel,
      { wakingRoom := "bedroom", dreamingRoom := "hall" },
      by decide +kernel, by decide +kernel⟩
  have hIff :=
    (failed_execute_eq_nextTurn_iff {} orbOfSleep default
      ["focus on orb"] rfl hFailed).2
  exact ⟨hValid, hFailed, hStrands,
    fun hSame => hIff.mp hSame hStrands⟩

end Game

end TextAdventure
