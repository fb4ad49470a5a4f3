import Mathlib.Logic.Relation
import TextAdventure.Proofs.Thing.Property
import TextAdventure.Proofs.World.Relocation
import TextAdventure.Scene.Puzzles
import TextAdventure.Scene.Scripts

/-
  The edits that all changes of a scene are made of.

  Verbs, effects, scripts and puzzles change a scene by a few
  kinds of edit only. What every edit keeps is kept by every
  turn, so invariants are shown edit by edit. Only solving
  puzzles needs an edit that is not plain.

  The values that edits write are truth values and those that
  the effects of puzzles and scripts name.

  Main declarations:
    * `Scene.Edit`
    * `Scene.Edits`
    * `Scene.PlainEdit`
    * `Scene.PlainEdits`
    * `Scene.applyEffect_touches`
    * `Scene.applyEffects_edits`
    * `Scene.runScripts_edits`
    * `Scene.evaluatePuzzles_edits`
-/

namespace TextAdventure

open Relation (ReflTransGen)

------------------------------------------------------------
-- Edits
------------------------------------------------------------

/- A thing with a field written, if one is told. -/
def Thing.written
    (field? : Option Field)
    (value : Value)
    (thing : Thing) : Thing :=
  match field? with
  | some field => thing.write field value
  | none => thing

theorem Thing.isSameThing_written
    (field? : Option Field)
    (value : Value)
    (thing : Thing) :
    thing.IsSameThing (thing.written field? value) := by
  cases field? with
  | some field => exact isSameThing_write field value thing
  | none => exact ⟨rfl, rfl, rfl, rfl, rfl, rfl, rfl⟩

namespace Scene

/-
  One change of a scene, in which all values pass a test. A
  thing is put on only while it is carried.
-/
inductive Edit (may : Value → Prop) :
    Scene → Scene → Prop where
| place
    {before after : Scene}
    (id : String)
    (target : Placement)
    (hPlace : before.place id target = .ok after) :
    Edit may before after
| putOn
    (before : Scene)
    (id : String)
    (hCarried : before.world.isCarried id = true) :
    Edit may before (before.setWorn id true)
| takeOff
    (before : Scene)
    (id : String) :
    Edit may before (before.setWorn id false)
| write
    (before : Scene)
    (id : String)
    (field? : Option Field)
    (value : Value)
    (hMay : may value) :
    Edit may before
      (before.updateThing id (Thing.written field? value))
| unlock
    {before : Scene}
    {world : World}
    {blocked : Bool}
    (exit : String)
    (hUnblock :
      before.world.unblockExit exit = .ok (world, blocked)) :
    Edit may before
      { world := world
        session := before.session.recordOpened exit }
| enter
    (before : Scene)
    (room : String) :
    Edit may before (before.enterRoom room)
| flag
    (before : Scene)
    (flag : String)
    (value : Value)
    (hMay : may value) :
    Edit may before (before.setFlag flag value)
| condition
    (before : Scene)
    (state : PlayerState)
    (suspended : Option PlayerState) :
    Edit may before
      { before with
          session :=
            { before.session with
                playerState := state
                suspendedState := suspended } }
| solve
    (before : Scene)
    (puzzle : String) :
    Edit may before (before.markSolved puzzle)

/- Any number of edits, one after the other. -/
abbrev Edits (may : Value → Prop) : Scene → Scene → Prop :=
  ReflTransGen (Edit may)

end Scene

------------------------------------------------------------
-- What Edits Leave Alone
------------------------------------------------------------

/-
  What play never changes: the rules, the puzzles but for
  being solved, and the scripts.
-/
def World.plot (world : World) :
    StoryRules × List Puzzle × List Script :=
  (world.rules,
    world.puzzles.map (fun puzzle =>
      { puzzle with solved := false }),
    world.scripts)

namespace World

@[simp] theorem plot_updateThing
    (world : World)
    (id : String)
    (change : Thing → Thing) :
    (world.updateThing id change).plot = world.plot := by
  simp [plot]

theorem plot_markSolved (world : World) (puzzle : String) :
    (world.markSolved puzzle).plot = world.plot := by
  have hPuzzles :
      (world.markSolved puzzle).puzzles.map (fun puzzle =>
          { puzzle with solved := false }) =
        world.puzzles.map (fun puzzle =>
          { puzzle with solved := false }) :=
    Catalog.map_update (by simp) world.puzzles
  unfold plot
  rw [hPuzzles]
  rfl

theorem plot_relocate
    {world moved : World}
    {id : String}
    {target old : Placement}
    (hOk : world.relocate id target = .ok (moved, old)) :
    moved.plot = world.plot := by
  rcases relocate_eq_ok_iff.mp hOk with ⟨thing, -, -, -, rfl⟩
  simp [plot]

theorem plot_unblockExit
    {world after : World}
    {text : String}
    {blocked : Bool}
    (hOk : world.unblockExit text = .ok (after, blocked)) :
    after.plot = world.plot := by
  rcases (unblockExit_eq_ok_iff world).mp hOk with
    ⟨key, -, -, -, -, -, -, rfl⟩
  rfl

end World

namespace Scene

variable {may : Value → Prop}
variable {before after : Scene}

@[simp] theorem afterUnworn_world
    (scene : Scene)
    (thing : String) :
    (scene.afterUnworn thing).world = scene.world := by
  unfold afterUnworn
  split <;> rfl

@[simp] theorem setWorn_world
    (scene : Scene)
    (thing : String)
    (worn : Bool) :
    (scene.setWorn thing worn).world =
      scene.world.updateThing thing
        (fun thing => { thing with isWorn := worn }) := by
  cases worn <;> simp [setWorn, updateThing]

/- A move that is accepted relocates the thing. -/
theorem relocate_of_place
    {id : String}
    {target : Placement}
    (hPlace : before.place id target = .ok after) :
    ∃ old, before.world.relocate id target =
      .ok (after.world, old) := by
  unfold place at hPlace
  split at hPlace
  · simp at hPlace
  · rename_i world old hRelocate
    refine ⟨old, ?_⟩
    split at hPlace
    · cases hPlace
      exact hRelocate
    · split at hPlace
      · cases hPlace
        rw [hRelocate, afterUnworn_world]
      · cases hPlace
        exact hRelocate

theorem Edit.plot
    (hEdit : Edit may before after) :
    after.world.plot = before.world.plot := by
  cases hEdit with
  | place id target hPlace =>
      rcases relocate_of_place hPlace with ⟨old, hRelocate⟩
      exact World.plot_relocate hRelocate
  | putOn id hCarried => simp
  | takeOff id => simp
  | write id field? value hMay => simp [updateThing]
  | unlock exit hUnblock =>
      exact World.plot_unblockExit hUnblock
  | enter room => rfl
  | flag flag value hMay => rfl
  | condition state suspended => rfl
  | solve puzzle => exact World.plot_markSolved _ puzzle

theorem Edits.plot
    (hEdits : Edits may before after) :
    after.world.plot = before.world.plot := by
  induction hEdits with
  | refl => rfl
  | tail _ hLast ih => rw [hLast.plot, ih]

end Scene

/- A thing with its id and texts, and nothing else. -/
def Thing.words (thing : Thing) : Thing where
  id := thing.id
  name := thing.name
  aliases := thing.aliases
  description := thing.description
  text := thing.text

theorem Thing.words_written
    (field? : Option Field)
    (value : Value)
    (thing : Thing) :
    (thing.written field? value).words = thing.words := by
  have hSame := thing.isSameThing_written field? value
  simp only [words, hSame.id, hSame.name, hSame.aliases,
    hSame.description, hSame.text]

namespace Scene

variable {may : Value → Prop}
variable {before after : Scene}

theorem Edit.words
    (hEdit : Edit may before after) :
    after.world.things.map Thing.words =
      before.world.things.map Thing.words := by
  cases hEdit with
  | place id target hPlace =>
      rcases relocate_of_place hPlace with ⟨old, hRelocate⟩
      exact World.map_things_relocate (fun _ _ => rfl)
        hRelocate
  | putOn id hCarried =>
      rw [setWorn_world]
      apply World.map_things_updateThing
      intro thing
      rfl
  | takeOff id =>
      rw [setWorn_world]
      apply World.map_things_updateThing
      intro thing
      rfl
  | write id field? value hMay =>
      exact World.map_things_updateThing _
        (Thing.words_written field? value) id
  | unlock exit hUnblock =>
      rcases (World.unblockExit_eq_ok_iff _).mp hUnblock with
        ⟨key, -, -, -, -, -, -, rfl⟩
      rfl
  | enter room => rfl
  | flag flag value hMay => rfl
  | condition state suspended => rfl
  | solve puzzle => rfl

end Scene

------------------------------------------------------------
-- Granted Values
------------------------------------------------------------

/- The value that an effect writes, if any, passes a test. -/
def Effect.Grants (may : Value → Prop) : Effect → Prop
| .setFlag _ value => may value
| .setProperty _ _ value => may value
| _ => True

instance
    (may : Value → Prop)
    [DecidablePred may] : DecidablePred (Effect.Grants may)
| .unlockExit _ => isTrue trivial
| .revealThing _ => isTrue trivial
| .setFlag _ value => inferInstanceAs (Decidable (may value))
| .moveThing _ _ => isTrue trivial
| .triggerEvent _ => isTrue trivial
| .setProperty _ _ value =>
    inferInstanceAs (Decidable (may value))
| .setPlayerState _ => isTrue trivial

/- All values that play can write pass a test. -/
structure World.Grants
    (may : Value → Prop)
    (world : World) : Prop where
  boolean : ∀ value, may (.boolean value)
  puzzles :
    ∀ puzzle ∈ world.puzzles,
      ∀ effect ∈ puzzle.effects, effect.Grants may
  scripts :
    ∀ script ∈ world.scripts,
      ∀ effect ∈ script.effects, effect.Grants may

/- A test that all values pass excludes nothing. -/
theorem Effect.grants_any (effect : Effect) :
    effect.Grants (fun _ => True) := by
  cases effect <;> trivial

theorem World.grants_any (world : World) :
    world.Grants (fun _ => True) where
  boolean := fun _ => trivial
  puzzles := fun _ _ effect _ => effect.grants_any
  scripts := fun _ _ effect _ => effect.grants_any

/- What can be written hangs on the plot only. -/
theorem World.Grants.of_plot_eq
    {may : Value → Prop}
    {before after : World}
    (hGrants : before.Grants may)
    (hPlot : after.plot = before.plot) :
    after.Grants may where
  boolean := hGrants.boolean
  puzzles := by
    intro puzzle hMem
    have hPuzzles :
        after.puzzles.map (fun puzzle =>
            { puzzle with solved := false }) =
          before.puzzles.map (fun puzzle =>
            { puzzle with solved := false }) :=
      congrArg (fun plot => plot.2.1) hPlot
    have hTemplate :=
      List.mem_map_of_mem
        (f := fun puzzle : Puzzle =>
          { puzzle with solved := false }) hMem
    rw [hPuzzles] at hTemplate
    rcases List.mem_map.mp hTemplate with ⟨old, hOld, hSame⟩
    have hEffects := congrArg Puzzle.effects hSame
    rw [← show old.effects = puzzle.effects from hEffects]
    exact hGrants.puzzles old hOld
  scripts := by
    have hScripts : after.scripts = before.scripts :=
      congrArg (fun plot => plot.2.2) hPlot
    rw [hScripts]
    exact hGrants.scripts

------------------------------------------------------------
-- Edits That Solve Nothing
------------------------------------------------------------

namespace Scene

variable {may : Value → Prop}
variable {before after : Scene}

/- The puzzles there are and the list of solved ones. -/
def ledger (scene : Scene) : List Puzzle × List String :=
  (scene.world.puzzles, scene.session.solvedPuzzles)

theorem puzzles_of_ledger_eq
    (hLedger : after.ledger = before.ledger) :
    after.world.puzzles = before.world.puzzles :=
  congrArg Prod.fst hLedger

theorem solvedPuzzles_of_ledger_eq
    (hLedger : after.ledger = before.ledger) :
    after.session.solvedPuzzles =
      before.session.solvedPuzzles :=
  congrArg Prod.snd hLedger

@[simp] theorem ledger_updateThing
    (scene : Scene)
    (id : String)
    (change : Thing → Thing) :
    (scene.updateThing id change).ledger = scene.ledger := by
  simp [ledger, updateThing]

@[simp] theorem ledger_afterUnworn
    (scene : Scene)
    (thing : String) :
    (scene.afterUnworn thing).ledger = scene.ledger := by
  unfold afterUnworn
  split <;> rfl

@[simp] theorem ledger_setWorn
    (scene : Scene)
    (thing : String)
    (worn : Bool) :
    (scene.setWorn thing worn).ledger = scene.ledger := by
  have hPutOn (session : Session) :
      (session.putOn thing).solvedPuzzles =
        session.solvedPuzzles := by
    unfold Session.putOn
    split <;> rfl
  cases worn with
  | true => simp [setWorn, ledger, updateThing, hPutOn]
  | false =>
      rw [setWorn, if_neg Bool.false_ne_true,
        ledger_afterUnworn]
      exact ledger_updateThing scene thing _

theorem ledger_of_place
    {id : String}
    {target : Placement}
    (hPlace : before.place id target = .ok after) :
    after.ledger = before.ledger := by
  have hPuzzles :
      after.world.puzzles = before.world.puzzles := by
    rcases relocate_of_place hPlace with ⟨old, hRelocate⟩
    rcases World.relocate_eq_ok_iff.mp hRelocate with
      ⟨thing, -, -, -, hMoved⟩
    rw [hMoved, World.moveTo_puzzles]
  have hAddItem :
      (before.session.addItem id).solvedPuzzles =
        before.session.solvedPuzzles := by
    unfold Session.addItem
    split <;> rfl
  have hSolved :
      after.session.solvedPuzzles =
        before.session.solvedPuzzles := by
    unfold place at hPlace
    split at hPlace
    · simp at hPlace
    · split at hPlace
      · cases hPlace
        exact hAddItem
      · dsimp only at hPlace
        split at hPlace
        · cases hPlace
          exact congrArg Prod.snd (ledger_afterUnworn _ id)
        · cases hPlace
          rfl
  rw [ledger, hPuzzles, hSolved, ledger]

@[simp] theorem ledger_enterRoom
    (scene : Scene)
    (room : String) :
    (scene.enterRoom room).ledger = scene.ledger := by
  simp only [ledger, enterRoom, Session.recordVisit]
  split <;> rfl

theorem ledger_unlock
    {world : World}
    {blocked : Bool}
    {exit : String}
    (hUnblock :
      before.world.unblockExit exit = .ok (world, blocked)) :
    ({ world := world
       session := before.session.recordOpened exit }
      : Scene).ledger = before.ledger := by
  rcases (World.unblockExit_eq_ok_iff _).mp hUnblock with
    ⟨key, -, -, -, -, -, -, rfl⟩
  simp only [ledger, Session.recordOpened]
  split <;> rfl

/- An edit that solves no puzzle. -/
structure PlainEdit
    (may : Value → Prop)
    (before after : Scene) : Prop where
  edit : Edit may before after
  ledger : after.ledger = before.ledger

namespace PlainEdit

theorem place
    (id : String)
    (target : Placement)
    (hPlace : before.place id target = .ok after) :
    PlainEdit may before after :=
  ⟨.place id target hPlace, ledger_of_place hPlace⟩

theorem putOn
    (before : Scene)
    (id : String)
    (hCarried : before.world.isCarried id = true) :
    PlainEdit may before (before.setWorn id true) :=
  ⟨.putOn before id hCarried, ledger_setWorn before id true⟩

theorem takeOff
    (before : Scene)
    (id : String) :
    PlainEdit may before (before.setWorn id false) :=
  ⟨.takeOff before id, ledger_setWorn before id false⟩

theorem write
    (before : Scene)
    (id : String)
    (field? : Option Field)
    (value : Value)
    (hMay : may value) :
    PlainEdit may before
      (before.updateThing id (Thing.written field? value)) :=
  ⟨.write before id field? value hMay,
    ledger_updateThing before id _⟩

theorem unlock
    {world : World}
    {blocked : Bool}
    (exit : String)
    (hUnblock :
      before.world.unblockExit exit = .ok (world, blocked)) :
    PlainEdit may before
      { world := world
        session := before.session.recordOpened exit } :=
  ⟨.unlock exit hUnblock, ledger_unlock hUnblock⟩

theorem enter
    (before : Scene)
    (room : String) :
    PlainEdit may before (before.enterRoom room) :=
  ⟨.enter before room, ledger_enterRoom before room⟩

theorem flag
    (before : Scene)
    (flag : String)
    (value : Value)
    (hMay : may value) :
    PlainEdit may before (before.setFlag flag value) :=
  ⟨.flag before flag value hMay, rfl⟩

theorem condition
    (before : Scene)
    (state : PlayerState)
    (suspended : Option PlayerState) :
    PlainEdit may before
      { before with
          session :=
            { before.session with
                playerState := state
                suspendedState := suspended } } :=
  ⟨.condition before state suspended, rfl⟩

end PlainEdit

/- Any number of edits that solve no puzzle. -/
abbrev PlainEdits
    (may : Value → Prop) : Scene → Scene → Prop :=
  ReflTransGen (PlainEdit may)

theorem PlainEdits.edits
    (hEdits : PlainEdits may before after) :
    Edits may before after :=
  ReflTransGen.mono (fun _ _ hEdit => hEdit.edit) _ _ hEdits

theorem PlainEdits.plot
    (hEdits : PlainEdits may before after) :
    after.world.plot = before.world.plot :=
  hEdits.edits.plot

theorem PlainEdits.ledger
    (hEdits : PlainEdits may before after) :
    after.ledger = before.ledger := by
  induction hEdits with
  | refl => rfl
  | tail _ hLast ih => rw [hLast.ledger, ih]

------------------------------------------------------------
-- Effects
------------------------------------------------------------

/- Writing at a path writes the field that it stands for. -/
theorem writeProperty_eq_written
    (path : String)
    (value : Value) :
    writeProperty path value =
      Thing.written (Field.ofPath? path) value := by
  funext thing
  unfold writeProperty Thing.setProperty? Thing.written
  cases Field.ofPath? path <;> rfl

/- An effect writes that field, with a warning or without. -/
theorem setProperty_value
    (scene : Scene)
    (id path : String)
    (value : Value) :
    (scene.setProperty id path value).value =
      scene.updateThing id
        (Thing.written (Field.ofPath? path) value) := by
  rw [← writeProperty_eq_written]
  unfold setProperty
  simp only
  split <;> rfl

/-
  What an effect may do to a scene. One that cannot be
  applied does nothing.
-/
inductive Touches (scene : Scene) : Effect → Scene → Prop where
| idle
    (effect : Effect) :
    Touches scene effect scene
| unlock
    {exit : String}
    {world : World}
    {blocked : Bool}
    (hUnblock :
      scene.world.unblockExit exit = .ok (world, blocked)) :
    Touches scene (.unlockExit exit)
      { world := world
        session := scene.session.recordOpened exit }
| reveal
    (thing : String) :
    Touches scene (.revealThing thing)
      (scene.updateThing thing
        (Thing.written (some (.flag .hidden))
          (.boolean false)))
| flag
    (flag : String)
    (value : Value) :
    Touches scene (.setFlag flag value)
      (scene.setFlag flag value)
| place
    {thing room : String}
    {moved : Scene}
    (hPlace : scene.place thing (.room room) = .ok moved) :
    Touches scene (.moveThing thing room) moved
| event
    (event : String) :
    Touches scene (.triggerEvent event)
      (scene.setFlag (eventFlag event) (.boolean true))
| write
    (thing path : String)
    (value : Value) :
    Touches scene (.setProperty thing path value)
      (scene.updateThing thing
        (Thing.written (Field.ofPath? path) value))
| putOn
    {thing : String}
    (path : String)
    (value : Value)
    (hCarried : scene.world.isCarried thing = true) :
    Touches scene (.setProperty thing path value)
      (scene.setWorn thing true)
| takeOff
    (thing path : String)
    (value : Value) :
    Touches scene (.setProperty thing path value)
      (scene.setWorn thing false)
| condition
    (state : PlayerState) :
    Touches scene (.setPlayerState state)
      (scene.setPlayerState state)

theorem setProperty_touches
    (scene : Scene)
    (id path : String)
    (value : Value) :
    Touches scene (.setProperty id path value)
      (scene.setProperty id path value).value := by
  rw [setProperty_value]
  exact .write id path value

theorem setWornIfCarried_touches
    (scene : Scene)
    (id path : String)
    (value : Value)
    (worn : Bool) :
    Touches scene (.setProperty id path value)
      (scene.setWornIfCarried id worn).value := by
  unfold setWornIfCarried
  split
  · exact .idle _
  · rename_i thing hThing
    split
    · exact .idle _
    · rename_i hHeld
      split
      · exact .idle _
      · cases worn with
        | false => exact .takeOff id path value
        | true =>
            refine .putOn path value ?_
            simpa [World.isCarried, hThing] using hHeld

/- There is nothing else that an effect does. -/
theorem applyEffect_touches
    (scene : Scene)
    (effect : Effect) :
    Touches scene effect (scene.applyEffect effect).value := by
  cases effect with
  | unlockExit exit =>
      simp only [applyEffect, unlockExit]
      split
      · rename_i world blocked hUnblock
        exact .unlock hUnblock
      · exact .idle _
  | revealThing thing =>
      simp only [applyEffect, Scene.reveal]
      split
      · exact .reveal thing
      · exact .idle _
  | setFlag flag value => exact .flag flag value
  | moveThing thing room =>
      simp only [applyEffect, moveThing]
      split
      · rename_i moved hPlace
        exact .place hPlace
      · exact .idle _
  | triggerEvent event => exact .event event
  | setProperty thing path value =>
      simp only [applyEffect]
      split
      · exact setWornIfCarried_touches scene thing path value _
      · exact setProperty_touches scene thing path value
  | setPlayerState state => exact .condition state

/- An effect is at most one edit. -/
theorem Touches.edits
    {effect : Effect}
    (hTouches : Touches before effect after)
    (hBoolean : ∀ value, may (.boolean value))
    (hGrants : effect.Grants may) :
    PlainEdits may before after := by
  cases hTouches with
  | idle => exact ReflTransGen.refl
  | unlock hUnblock =>
      exact ReflTransGen.single (.unlock _ hUnblock)
  | reveal thing =>
      exact ReflTransGen.single
        (.write before thing (some (.flag .hidden))
          (.boolean false) (hBoolean false))
  | flag flag value =>
      exact ReflTransGen.single
        (.flag before flag value hGrants)
  | place hPlace =>
      exact ReflTransGen.single (.place _ _ hPlace)
  | event event =>
      exact ReflTransGen.single
        (.flag before (eventFlag event) (.boolean true)
          (hBoolean true))
  | write thing path value =>
      exact ReflTransGen.single
        (.write before thing (Field.ofPath? path) value
          hGrants)
  | putOn path value hCarried =>
      exact ReflTransGen.single (.putOn before _ hCarried)
  | takeOff thing path value =>
      exact ReflTransGen.single (.takeOff before thing)
  | condition state =>
      exact ReflTransGen.single
        (.condition before state before.session.suspendedState)

theorem applyEffect_edits
    (hBoolean : ∀ value, may (.boolean value))
    (scene : Scene)
    {effect : Effect}
    (hGrants : effect.Grants may) :
    PlainEdits may scene (scene.applyEffect effect).value :=
  (applyEffect_touches scene effect).edits hBoolean hGrants

theorem applyEffects_edits
    (hBoolean : ∀ value, may (.boolean value))
    (scene : Scene)
    {effects : List Effect}
    (hGrants : ∀ effect ∈ effects, effect.Grants may) :
    PlainEdits may scene (scene.applyEffects effects).value := by
  induction effects generalizing scene with
  | nil => exact ReflTransGen.refl
  | cons effect rest ih =>
      rcases List.forall_mem_cons.mp hGrants with
        ⟨hFirst, hRest⟩
      exact (applyEffect_edits hBoolean scene hFirst).trans
        (ih (scene.applyEffect effect).value hRest)

------------------------------------------------------------
-- Scripts
------------------------------------------------------------

theorem runScript_edits
    (hBoolean : ∀ value, may (.boolean value))
    (scene : Scene)
    {script : Script}
    (hGrants : ∀ effect ∈ script.effects, effect.Grants may) :
    PlainEdits may scene (scene.runScript script).value := by
  have hEffects := applyEffects_edits hBoolean scene hGrants
  unfold runScript Logged.map
  simp only
  split
  · exact hEffects.tail
      (.flag _ script.firedFlag (.boolean true)
        (hBoolean true))
  · exact hEffects

theorem runEach_edits
    (hBoolean : ∀ value, may (.boolean value))
    (scene : Scene)
    {scripts : List Script}
    (hGrants :
      ∀ script ∈ scripts,
        ∀ effect ∈ script.effects, effect.Grants may) :
    PlainEdits may scene (scene.runEach scripts).value := by
  induction scripts generalizing scene with
  | nil => exact ReflTransGen.refl
  | cons script rest ih =>
      rcases List.forall_mem_cons.mp hGrants with
        ⟨hFirst, hRest⟩
      exact (runScript_edits hBoolean scene hFirst).trans
        (ih (scene.runScript script).value hRest)

theorem runScripts_edits
    {scene : Scene}
    (hGrants : scene.world.Grants may)
    (thing : String)
    (verb : Verb) :
    PlainEdits may scene
      (scene.runScripts thing verb).value.1 := by
  apply runEach_edits hGrants.boolean
  intro script hMem
  have hOfVerb := (List.mem_filter.mp hMem).1
  exact hGrants.scripts script (List.mem_filter.mp hOfVerb).1

------------------------------------------------------------
-- Puzzles
------------------------------------------------------------

theorem consider_edits
    (hBoolean : ∀ value, may (.boolean value))
    (evaluation : Evaluation)
    {puzzle : Puzzle}
    (hGrants : ∀ effect ∈ puzzle.effects, effect.Grants may) :
    Edits may evaluation.scene
      (evaluation.consider puzzle).scene := by
  unfold Evaluation.consider
  split
  · exact ReflTransGen.head
      (.solve evaluation.scene puzzle.id)
      (applyEffects_edits hBoolean _ hGrants).edits
  · exact ReflTransGen.refl

theorem pass_edits
    {evaluation : Evaluation}
    (hGrants : evaluation.scene.world.Grants may) :
    Edits may evaluation.scene evaluation.pass.scene := by
  have hFold :
      ∀ (puzzles : List Puzzle) (evaluation : Evaluation),
        (∀ puzzle ∈ puzzles,
          ∀ effect ∈ puzzle.effects, effect.Grants may) →
        Edits may evaluation.scene
          (puzzles.foldl Evaluation.consider
            evaluation).scene := by
    intro puzzles
    induction puzzles with
    | nil => exact fun _ _ => ReflTransGen.refl
    | cons puzzle rest ih =>
        intro evaluation hAll
        rcases List.forall_mem_cons.mp hAll with
          ⟨hFirst, hRest⟩
        exact (consider_edits hGrants.boolean evaluation
          hFirst).trans (ih _ hRest)
  exact hFold _ evaluation hGrants.puzzles

theorem passes_edits
    (limit : Nat)
    (evaluation : Evaluation)
    (hGrants : evaluation.scene.world.Grants may) :
    Edits may evaluation.scene
      (Evaluation.passes limit evaluation).scene := by
  induction limit generalizing evaluation with
  | zero => exact ReflTransGen.refl
  | succ limit ih =>
      have hPass := pass_edits hGrants
      unfold Evaluation.passes
      simp only
      split
      · exact hPass
      · exact hPass.trans
          (ih evaluation.pass (hGrants.of_plot_eq hPass.plot))

theorem evaluatePuzzles_edits
    {scene : Scene}
    (hGrants : scene.world.Grants may)
    (limit : UInt64) :
    Edits may scene (scene.evaluatePuzzles limit).scene := by
  have hPasses :
      Edits may scene
        (Evaluation.passes limit.toNat { scene }).scene :=
    passes_edits limit.toNat { scene } hGrants
  unfold evaluatePuzzles
  simp only
  split <;> exact hPasses

end Scene

end TextAdventure
