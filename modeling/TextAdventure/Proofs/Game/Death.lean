import TextAdventure.Proofs.Game.Moving
import TextAdventure.Proofs.Game.Reach
import TextAdventure.Proofs.Game.Refusal
import TextAdventure.Proofs.Game.Void

/-
  Death is final, where effects set no other condition.

  The dead may only look around, and looking around changes
  nothing. What follows a look is scripts and puzzles, and no
  effect of theirs has the player move or live again: only
  the void has a condition to return to.

  Main declarations:
    * `Effect.OnlyKills`
    * `Scene.handle_of_isQuery`
    * `Scene.worked_of_dead`
    * `Scene.dead_undergoAll`
    * `Game.Rests`
    * `Game.death_is_final`
-/

namespace TextAdventure

------------------------------------------------------------
-- Deadly Effects
------------------------------------------------------------

/- If an effect sets the player's condition, it kills. -/
def Effect.OnlyKills : Effect → Prop
| .setPlayerState state => state = .dead
| _ => True

instance : DecidablePred Effect.OnlyKills
| .unlockExit _ => isTrue trivial
| .revealThing _ => isTrue trivial
| .setFlag _ _ => isTrue trivial
| .moveThing _ _ => isTrue trivial
| .triggerEvent _ => isTrue trivial
| .setProperty _ _ _ => isTrue trivial
| .setPlayerState state =>
    inferInstanceAs (Decidable (state = .dead))

namespace Scene

variable {scene : Scene}
variable {command : Command}

/- An effect that only kills leaves the dead as they are. -/
theorem dead_applyEffect
    (hDead : scene.session.playerState = .dead)
    {effect : Effect}
    (hKills : effect.OnlyKills) :
    (scene.applyEffect effect).value.session.playerState =
      .dead := by
  by_cases hCalm : effect.IsCalm
  · cases (applyEffect_touches scene effect).drifts hCalm with
    | stays hSteady => exact hSteady.playerState.trans hDead
    | returns hVoid => simp [hDead] at hVoid
  · cases effect with
    | setPlayerState state => exact hKills
    | _ => exact absurd trivial hCalm

theorem dead_undergoAll
    (hDead : scene.session.playerState = .dead)
    {deeds : List Deed}
    (hKills : ∀ effect, Deed.effect effect ∈ deeds →
      effect.OnlyKills) :
    (scene.undergoAll deeds).session.playerState = .dead := by
  induction deeds generalizing scene with
  | nil => exact hDead
  | cons deed rest ih =>
      have hFirst :
          (scene.undergo deed).session.playerState =
            .dead := by
        cases deed with
        | effect effect =>
            exact dead_applyEffect hDead
              (hKills effect List.mem_cons_self)
        | fire flag => exact hDead
        | solve puzzle => exact hDead
      exact ih hFirst (fun effect hMem =>
        hKills effect (List.mem_cons_of_mem _ hMem))

------------------------------------------------------------
-- What The Dead Do
------------------------------------------------------------

/- A verb that only looks around leaves the scene alone. -/
theorem handle_of_isQuery
    (scene : Scene)
    {verb : Verb}
    (hQuery : verb.isQuery = true)
    (command : Command) :
    (scene.handle verb command).1 = scene := by
  have hSettled {handled : Handled}
      (hOk : ∀ after reply, handled = .ok (after, reply) →
        after = scene) :
      (scene.settle handled).1 = scene := by
    cases handled with
    | error refusal => rfl
    | ok result => exact hOk result.1 result.2 rfl
  cases verb with
  | look => exact hSettled (fun _ _ => eq_of_look)
  | examine => exact hSettled (fun _ _ => eq_of_examine)
  | read => exact hSettled (fun _ _ => eq_of_read)
  | inventory => rfl
  | wait => rfl
  | help => rfl
  | _ => simp [Verb.isQuery] at hQuery

/- The dead carry out verbs that only look around. -/
theorem isQuery_of_dead
    (hDead : scene.session.playerState = .dead)
    {verb : Verb}
    (hVerb : scene.verb? command = some verb) :
    verb.isQuery = true := by
  have hAllowed := (Option.filter_eq_some_iff.mp hVerb).2
  simpa [hDead] using hAllowed

/- So the work of the dead is none. -/
theorem worked_of_dead
    (hDead : scene.session.playerState = .dead)
    (command : Command) :
    scene.worked command = scene := by
  unfold worked
  cases hVerb : scene.verb? command with
  | none => rfl
  | some verb =>
      exact handle_of_isQuery scene
        (isQuery_of_dead hDead hVerb) command

/- Whatever else the dead try is refused. -/
theorem perform_of_dead
    (hDead : scene.session.playerState = .dead)
    (limit : UInt64)
    (hOther : ∀ verb, Verb.ofName? command.verb = some verb →
      verb.isQuery = false) :
    ∃ refusal,
      scene.perform limit command = .refused scene refusal := by
  unfold perform
  cases hVerb : Verb.ofName? command.verb with
  | none => exact ⟨_, rfl⟩
  | some verb =>
      simp only [hDead, hOther verb hVerb, beq_self_eq_true,
        Bool.not_false, Bool.and_self, if_true]
      exact ⟨_, rfl⟩

end Scene

------------------------------------------------------------
-- Resting Games
------------------------------------------------------------

namespace Game

variable {first game : Game}

/-
  The player is dead and is where they were when they died,
  and no effect can help it.
-/
structure Rests (first game : Game) : Prop where
  dead : game.session.playerState = .dead
  whereabouts :
    game.scene.whereabouts = first.scene.whereabouts
  kills :
    ∀ effect ∈ game.world.effects, effect.OnlyKills
  changed : game.world.changed = []

/- That a turn is counted moves nobody. -/
theorem whereabouts_nextTurn (scene : Scene) :
    (nextTurn scene).whereabouts = scene.whereabouts := by
  simp only [Scene.whereabouts, nextTurn]

/- What follows a line of the dead follows the turn's count. -/
theorem worked_of_dead
    (hDead : game.session.playerState = .dead)
    (line : String) :
    game.worked line = nextTurn game.scene := by
  have hNext :
      (nextTurn game.scene).session.playerState = .dead :=
    hDead
  exact Scene.worked_of_dead hNext _

/- A line leaves the dead where they rest. -/
theorem Rests.execute
    (hRests : Rests first game)
    (line : String) :
    Rests first (game.execute line).value.1 where
  dead := by
    have hNext :
        (nextTurn game.scene).session.playerState = .dead :=
      hRests.dead
    rcases Scene.exists_ensues (nextTurn game.scene)
        game.settings.maxPasses (Command.ofLine line) with
      ⟨deeds, hEnsues⟩
    have hTurn : (game.turn line).scene.session.playerState =
        .dead := by
      rw [turn, hEnsues.scene_eq, Scene.worked_of_dead hNext]
      apply Scene.dead_undergoAll hNext
      intro effect hMem
      exact hRests.kills effect (hEnsues.mem_effects hMem)
    have hLast :=
      Session.playerState_eq (condition_execute game line)
    unfold session
    rw [hLast]
    exact hTurn
  whereabouts := by
    rw [whereabouts_execute, worked_of_dead hRests.dead,
      whereabouts_nextTurn]
    exact hRests.whereabouts
  kills := by
    rw [effects_execute]
    exact hRests.kills
  changed := changed_execute game line

theorem Rests.after
    (hRests : Rests first game)
    (lines : List String) :
    Rests first (game.after lines) :=
  executeAll_keeps (Rests first)
    (fun _ line hRests => hRests.execute line) hRests lines

/- Whatever else the dead try fails and is only counted. -/
theorem Rests.execute_of_refused
    (hRests : Rests first game)
    {line : String}
    (hOther : ∀ verb,
      Verb.ofName? (Command.ofLine line).verb = some verb →
        verb.isQuery = false) :
    (game.execute line).value.2.success = false ∧
      (game.execute line).value.1 =
        { game with scene := nextTurn game.scene } := by
  have hNext :
      (nextTurn game.scene).session.playerState = .dead :=
    hRests.dead
  rcases Scene.perform_of_dead hNext game.settings.maxPasses
    hOther with ⟨refusal, hRefused⟩
  have hRecorded :
      recordChanges (nextTurn game.scene) =
        nextTurn game.scene :=
    recordChanges_eq_self hRests.changed
  rw [execute_value, turn, hRefused]
  refine ⟨rfl, ?_⟩
  simp only [Turn.refused, hRecorded]

/-
  Where effects set no condition but death, the dead stay
  dead, in the room they are in and with no room visited any
  more. All they try fails and is only counted, unless it is
  one of six verbs that look around. These change nothing by
  themselves: what follows are the deeds of scripts and
  puzzles alone.
-/
theorem death_is_final
    (hReachable : Reachable Effect.OnlyKills game)
    (hDead : game.session.playerState = .dead)
    (lines : List String) :
    let queries : List Verb :=
      [.look, .examine, .inventory, .help, .wait, .read]
    let last := game.after lines
    last.session.playerState = .dead ∧
    last.session.currentRoom = game.session.currentRoom ∧
    last.session.previousRoom = game.session.previousRoom ∧
    last.session.visitedRooms = game.session.visitedRooms ∧
    (∀ line,
      (∀ verb ∈ queries,
        Verb.ofName? (Command.ofLine line).verb ≠
          some verb) →
      (last.execute line).value.2.success = false ∧
        (last.execute line).value.1 =
          { last with scene := nextTurn last.scene }) ∧
    (∀ verb ∈ queries, ∀ scene : Scene, ∀ command,
      (scene.handle verb command).1 = scene) ∧
    ∀ line, ∃ deeds,
      (nextTurn last.scene).Ensues last.settings.maxPasses
          (Command.ofLine line) deeds ∧
        (last.execute line).value.1.scene =
          recordChanges
            ((nextTurn last.scene).undergoAll deeds) := by
  intro queries last
  have hFirst : Rests game game :=
    { dead := hDead
      whereabouts := rfl
      kills := hReachable.effects
      changed := hReachable.changed }
  have hRests : Rests game last := hFirst.after lines
  have hQueries (verb : Verb) :
      verb ∈ queries ↔ verb.isQuery = true := by
    cases verb <;> decide
  refine ⟨hRests.dead,
    Scene.currentRoom_of_whereabouts_eq hRests.whereabouts,
    Scene.previousRoom_of_whereabouts_eq hRests.whereabouts,
    congrArg (fun view => view.2.2.1) hRests.whereabouts,
    ?_, ?_, ?_⟩
  · intro line hOther
    apply hRests.execute_of_refused
    intro verb hVerb
    rw [← Bool.not_eq_true, ← hQueries]
    exact fun hQuery => hOther verb hQuery hVerb
  · intro verb hQuery scene command
    exact Scene.handle_of_isQuery scene
      ((hQueries verb).mp hQuery) command
  · intro line
    rcases exists_ensues_execute last line with
      ⟨deeds, hEnsues, hScene⟩
    rw [worked_of_dead hRests.dead] at hScene
    exact ⟨deeds, hEnsues, hScene⟩

/- A vial whose label kills whoever reads it. -/
def labelledVial : Content where
  rules := { startRoom := "hall" }
  rooms := [{ id := "hall", name := "Hall" }]
  things :=
    [{ id := "vial"
       name := "vial"
       text := some "Do not read."
       placement := .room "hall" }]
  scripts :=
    [{ thing := "vial"
       verb := .read
       effects := [.setPlayerState .dead] }]

/- The label is read, and the reader dies. -/
def deadReader : Game :=
  ((fresh {} labelledVial default).execute "read vial").value.1

/-
  After that the reader stays dead in the hall, and the vial
  cannot be taken.
-/
theorem death_by_labelledVial :
    Reachable Effect.OnlyKills deadReader ∧
    deadReader.session.playerState = .dead ∧
    (deadReader.after
      ["look", "read vial"]).session.playerState = .dead ∧
    (deadReader.after
      ["look", "read vial"]).session.currentRoom = "hall" ∧
    ((deadReader.after ["look", "read vial"]).execute
      "take vial").value.2.success = false := by
  have hFresh :
      Reachable Effect.OnlyKills
        (fresh {} labelledVial default) :=
    .fresh {} default (by decide)
  have hReachable : Reachable Effect.OnlyKills deadReader :=
    hFresh.execute "read vial"
  have hDead : deadReader.session.playerState = .dead := by
    decide +kernel
  have hHere : deadReader.session.currentRoom = "hall" := by
    decide +kernel
  have hTake : ∀ verb ∈
      [.look, .examine, .inventory, .help, .wait, .read],
      Verb.ofName? (Command.ofLine "take vial").verb ≠
        some verb := by
    decide +kernel
  rcases death_is_final hReachable hDead
      ["look", "read vial"] with
    ⟨hStill, hRoom, -, -, hFails, -, -⟩
  exact ⟨hReachable, hDead, hStill, hRoom.trans hHere,
    (hFails "take vial" hTake).1⟩

end Game

end TextAdventure
