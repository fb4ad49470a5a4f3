import TextAdventure.Proofs.Game.Deeds
import TextAdventure.Proofs.Game.Overlay
import TextAdventure.Proofs.World.Addition

/-
  Games that are reached with effects of one kind only.

  A game begins anew or with a session from before, and then
  lines are played and content is added. If the effects of
  the content and of all that is added pass a test, so do the
  effects of the world at any time, since nothing that play
  does touches them.

  Main declarations:
    * `Game.add`
    * `Game.add_eq_withWorld`
    * `World.mem_effects_add`
    * `Game.Reachable`
    * `Game.Reachable.effects`
    * `Game.Reachable.changed`
-/

namespace TextAdventure

open Relation (ReflTransGen)

------------------------------------------------------------
-- Offered Effects
------------------------------------------------------------

/- The effects that puzzles and scripts of content have. -/
def Content.effects (content : Content) : List Effect :=
  content.puzzles.flatMap Puzzle.effects ++
    content.scripts.flatMap Script.effects

theorem World.effects_ofContent (content : Content) :
    (World.ofContent content).effects = content.effects := rfl

/- The effects that come with an offer. -/
def Addition.effects : Addition → List Effect
| .puzzle added => added.effects
| .script added => added.effects
| .content added => added.effects
| _ => []

theorem Content.effects_of_mem_parts
    {content : Content}
    {part : Addition}
    (hPart : part ∈ content.parts) :
    part.effects ⊆ content.effects := by
  simp only [parts, List.mem_append, List.mem_map] at hPart
  intro effect hEffect
  rcases hPart with
    ((⟨_, -, rfl⟩ | ⟨_, -, rfl⟩) | ⟨puzzle, hMem, rfl⟩) |
      ⟨script, hMem, rfl⟩
  · exact absurd hEffect List.not_mem_nil
  · exact absurd hEffect List.not_mem_nil
  · exact List.mem_append_left _
      (List.mem_flatMap_of_mem hMem hEffect)
  · exact List.mem_append_right _
      (List.mem_flatMap_of_mem hMem hEffect)

namespace World

variable {world : World}

/- What one offer of a single entity brings into a world. -/
theorem mem_effects_add_part
    {addition : Addition}
    (hPart : ∀ content, addition ≠ .content content)
    {effect : Effect}
    (hMem : effect ∈ (world.add addition).effects) :
    effect ∈ world.effects ∨ effect ∈ addition.effects := by
  unfold add at hMem
  cases hAdd : world.add? addition with
  | none =>
      rw [hAdd] at hMem
      exact Or.inl hMem
  | some after =>
      rw [hAdd, Option.getD_some] at hMem
      cases addition with
      | room room =>
          rcases eq_of_addRoom?_eq_some hAdd with
            ⟨-, listing, -, rfl⟩
          exact Or.inl hMem
      | thing thing =>
          rcases addThing_eq_ok_some_iff.mp
              (add?_thing_iff.mp hAdd) with ⟨-, -, rfl⟩
          exact Or.inl hMem
      | puzzle puzzle =>
          rcases addPuzzle?_eq_some_iff.mp hAdd with ⟨-, rfl⟩
          simpa [effects, Addition.effects, or_right_comm,
            or_assoc] using hMem
      | script script =>
          cases eq_of_addScript?_eq_some hAdd
          simpa [effects, Addition.effects, or_assoc]
            using hMem
      | exits source direction target =>
          cases eq_of_connect_eq_ok (add?_exits_iff.mp hAdd)
          exact Or.inl hMem
      | content content => exact absurd rfl (hPart content)

theorem mem_effects_addAll
    {additions : List Addition}
    (hParts : ∀ addition ∈ additions,
      ∀ content, addition ≠ .content content)
    {effect : Effect}
    (hMem : effect ∈ (world.addAll additions).effects) :
    effect ∈ world.effects ∨
      ∃ addition ∈ additions, effect ∈ addition.effects := by
  induction additions generalizing world with
  | nil => exact Or.inl hMem
  | cons first rest ih =>
      rcases List.forall_mem_cons.mp hParts with
        ⟨hFirst, hRest⟩
      rcases ih hRest hMem with
        hBefore | ⟨addition, hLater, hEffect⟩
      · rcases mem_effects_add_part hFirst hBefore with
          hOld | hNew
        · exact Or.inl hOld
        · exact Or.inr ⟨first, List.mem_cons_self, hNew⟩
      · exact Or.inr ⟨addition,
          List.mem_cons_of_mem _ hLater, hEffect⟩

/- An offer brings no effects but its own into a world. -/
theorem mem_effects_add
    {addition : Addition}
    {effect : Effect}
    (hMem : effect ∈ (world.add addition).effects) :
    effect ∈ world.effects ∨ effect ∈ addition.effects := by
  by_cases hContent : ∃ content, addition = .content content
  · rcases hContent with ⟨content, rfl⟩
    rcases merge_eq_addAll world content with
      ⟨parts, hParts, hWorld⟩
    have hMerged :
        effect ∈ (world.addAll parts).effects := by
      rw [← hWorld]
      exact hMem
    rcases mem_effects_addAll
        (fun part hPart => Content.ne_of_mem_parts
          (hParts hPart)) hMerged with
      hOld | ⟨part, hPart, hEffect⟩
    · exact Or.inl hOld
    · have hPlaced :=
        Content.effects_of_mem_parts (hParts hPart) hEffect
      exact Or.inr hPlaced
  · exact mem_effects_add_part
      (fun content hSame => hContent ⟨content, hSame⟩) hMem

/- Additions mark nothing as changed. -/
theorem changed_of_grow
    {may : Thing → Prop}
    {before after : World}
    (hGrows : Grows may before after) :
    after.changed = before.changed := by
  cases hGrows with
  | room room hAdd =>
      rcases eq_of_addRoom?_eq_some hAdd with ⟨-, -, -, rfl⟩
      rfl
  | thing thing hMay hAdd =>
      rcases addThing_eq_ok_some_iff.mp hAdd with ⟨-, -, rfl⟩
      rfl
  | puzzle puzzle hAdd =>
      rcases addPuzzle?_eq_some_iff.mp hAdd with ⟨-, rfl⟩
      rfl
  | script script hAdd =>
      cases eq_of_addScript?_eq_some hAdd
      rfl
  | exits source target direction hAdd =>
      cases eq_of_connect_eq_ok hAdd
      rfl

theorem changed_of_grows
    {may : Thing → Prop}
    {before after : World}
    (hGrows : ReflTransGen (Grows may) before after) :
    after.changed = before.changed := by
  induction hGrows with
  | refl => rfl
  | tail _ hLast ih => exact (changed_of_grow hLast).trans ih

theorem changed_add
    (world : World)
    (addition : Addition) :
    (world.add addition).changed = world.changed :=
  changed_of_grows (world.add_grows addition)

end World

------------------------------------------------------------
-- Reachable Games
------------------------------------------------------------

namespace Game

/- The game after an offer, accepted or not. -/
def add (game : Game) : Addition → Game
| .room room => (game.addRoom? room).getD game
| .thing thing =>
    match game.addThing thing with
    | .ok after? => after?.getD game
    | .error _ => game
| .puzzle puzzle => (game.addPuzzle? puzzle).getD game
| .script script => (game.addScript? script).getD game
| .exits source direction target =>
    match game.connect source direction target with
    | .ok after => after
    | .error _ => game
| .content content => (game.merge content).value.1

/- What is offered to a game is offered to its world. -/
theorem add_eq_withWorld
    (game : Game)
    (addition : Addition) :
    game.add addition =
      game.withWorld (game.world.add addition) := by
  have hMap (after? : Option World) :
      (after?.map game.withWorld).getD game =
        game.withWorld (after?.getD game.world) := by
    cases after? <;> rfl
  cases addition with
  | room room => exact hMap _
  | puzzle puzzle => exact hMap _
  | script script => exact hMap _
  | content content => rfl
  | thing thing =>
      simp only [add, addThing, World.add, World.add?]
      cases game.world.addThing thing with
      | ok after? => exact hMap after?
      | error fault => rfl
  | exits source direction target =>
      simp only [add, connect, World.add, World.add?]
      cases game.world.connect source direction target <;> rfl

/-
  A game that has begun, was played and was added to, where
  the effects of all the content pass a test.
-/
inductive Reachable (may : Effect → Prop) : Game → Prop where
| fresh
    (settings : Settings)
    {content : Content}
    (id : SessionId)
    (hMay : ∀ effect ∈ content.effects, may effect) :
    Reachable may (fresh settings content id)
| resume
    (settings : Settings)
    {content : Content}
    (session : Session)
    {restored : Logged Scene}
    (hMay : ∀ effect ∈ content.effects, may effect)
    (hRestore :
      Scene.restore (World.ofContent content) session =
        .ok restored) :
    Reachable may
      { settings := settings, scene := restored.value }
| execute
    {game : Game}
    (hGame : Reachable may game)
    (line : String) :
    Reachable may (game.execute line).value.1
| add
    {game : Game}
    (hGame : Reachable may game)
    (addition : Addition)
    (hMay : ∀ effect ∈ addition.effects, may effect) :
    Reachable may (game.add addition)

variable {game : Game}

theorem effects_execute (game : Game) (line : String) :
    (game.execute line).value.1.world.effects =
      game.world.effects :=
  World.effects_of_plot_eq (plot_execute game line)

/- Then the effects of the world pass the test. -/
theorem Reachable.effects
    {may : Effect → Prop}
    (hReachable : Reachable may game) :
    ∀ effect ∈ game.world.effects, may effect := by
  induction hReachable with
  | fresh settings id hMay => exact hMay
  | resume settings session hMay hRestore =>
      have hScene :=
        (Scene.restore_eq_ok_iff.mp ⟨_, hRestore⟩).2
      intro effect hMem
      apply hMay
      rw [← World.effects_ofContent,
        ← World.effects_of_plot_eq
          (World.plot_resumed _ session)]
      rw [hScene] at hMem
      exact hMem
  | execute hGame line ih =>
      rw [effects_execute]
      exact ih
  | add hGame addition hMay ih =>
      rw [add_eq_withWorld]
      intro effect hMem
      rcases World.mem_effects_add hMem with hOld | hNew
      · exact ih effect hOld
      · exact hMay effect hNew

/- Between lines no change is left to record. -/
theorem Reachable.changed
    {may : Effect → Prop}
    (hReachable : Reachable may game) :
    game.world.changed = [] := by
  induction hReachable with
  | fresh settings id hMay => rfl
  | resume settings session hMay hRestore =>
      have hScene :=
        (Scene.restore_eq_ok_iff.mp ⟨_, hRestore⟩).2
      unfold world
      rw [hScene]
      rfl
  | execute hGame line ih => exact changed_execute _ line
  | add hGame addition hMay ih =>
      rw [add_eq_withWorld]
      exact (World.changed_add _ addition).trans ih

end Game

end TextAdventure
