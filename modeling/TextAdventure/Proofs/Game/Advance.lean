import TextAdventure.Proofs.Game.Deeds
import TextAdventure.Proofs.Scene.Advance

/-
  Lines only advance a game.

  A line is a run of edits, so it only advances the scene, and
  a puzzle is solved only if it is not in the list of solved
  ones. The flags of a thing are the one part of it that play
  may write either way: verbs write whether it is open and
  switched on, and all else an effect has to ask for.

  Main declarations:
    * `Deed.Writes`
    * `Scene.ChangesFlags`
    * `Scene.Works.changesFlags`
    * `Scene.changesFlags_undergo`
    * `Game.only_advances`
    * `Game.advances_executeAll`
-/

namespace TextAdventure

------------------------------------------------------------
-- Written Flags
------------------------------------------------------------

/- An effect asks for a flag of a thing to be written. -/
def Effect.Writes
    (id : String)
    (flag : Flag) : Effect → Prop
| .revealThing thing => thing = id ∧ flag = .hidden
| .setProperty thing path _ =>
    thing = id ∧
      (Field.ofPath? path = some (.flag flag) ∨
        Field.ofPath? path = some .visible ∧
          flag = .hidden)
| _ => False

/- Of all deeds only effects ask for that. -/
def Deed.Writes (id : String) (flag : Flag) : Deed → Prop
| .effect asked => asked.Writes id flag
| .fire _ => False
| .solve _ => False

/- A thing whose flags differ only where they may. -/
structure Thing.ChangesFlags
    (may : String → Flag → Prop)
    (before after : Thing) : Prop where
  id : after.id = before.id
  flags :
    ∀ flag, flag.get after ≠ flag.get before →
      may before.id flag

/- Writing a field writes at most the flag it stands for. -/
theorem Thing.flag_of_write
    {field : Field}
    {value : Value}
    {thing : Thing}
    {flag : Flag}
    (hDiffers :
      flag.get (thing.write field value) ≠ flag.get thing) :
    field = .flag flag ∨ field = .visible ∧ flag = .hidden := by
  cases field with
  | flag other =>
      by_cases hSame : flag = other
      · exact Or.inl (hSame ▸ rfl)
      · exact absurd
          (Flag.get_set_of_ne hSame value.isTruthy thing)
          hDiffers
  | visible =>
      cases flag with
      | hidden => exact Or.inr ⟨rfl, rfl⟩
      | _ => exact absurd rfl hDiffers
  | custom key => cases flag <;> exact absurd rfl hDiffers

namespace Scene

/- A scene in which flags of things differ where they may. -/
def ChangesFlags
    (may : String → Flag → Prop)
    (before after : Scene) : Prop :=
  List.Forall₂ (Thing.ChangesFlags may)
    before.world.things after.world.things

variable {may : String → Flag → Prop}
variable {before after scene : Scene}

theorem ChangesFlags.of_things_eq
    (hThings : after.world.things = before.world.things) :
    ChangesFlags may before after := by
  unfold ChangesFlags
  rw [hThings, List.forall₂_same]
  exact fun _ _ => ⟨rfl, fun _ hNe => absurd rfl hNe⟩

theorem ChangesFlags.trans
    {middle : Scene}
    (hFirst : ChangesFlags may before middle)
    (hSecond : ChangesFlags may middle after) :
    ChangesFlags may before after := by
  refine Catalog.forall₂_trans ?_ hFirst hSecond
  rintro one two three ⟨hId, hFlags⟩ ⟨hNextId, hNextFlags⟩
  refine ⟨hNextId.trans hId, ?_⟩
  intro flag hDiffers
  by_cases hSame : flag.get two = flag.get one
  · rw [← hSame] at hDiffers
    exact hId ▸ hNextFlags flag hDiffers
  · exact hFlags flag hSame

/- A change of one thing, which writes what it may. -/
theorem changesFlags_updateThing
    (scene : Scene)
    (id : String)
    {change : Thing → Thing}
    (hId : ∀ thing, (change thing).id = thing.id)
    (hMay : ∀ thing flag,
      flag.get (change thing) ≠ flag.get thing →
        may id flag) :
    ChangesFlags may scene (scene.updateThing id change) := by
  unfold ChangesFlags updateThing
  rw [World.updateThing_things]
  apply Catalog.forall₂_update
  · exact fun _ _ => ⟨rfl, fun _ hNe => absurd rfl hNe⟩
  · rintro thing - rfl
    exact ⟨hId thing, hMay thing⟩

theorem changesFlags_setWorn
    (scene : Scene)
    (id : String)
    (worn : Bool) :
    ChangesFlags may scene (scene.setWorn id worn) := by
  have hMarked :
      ChangesFlags may scene
        (scene.updateThing id
          (fun thing => { thing with isWorn := worn })) := by
    apply changesFlags_updateThing scene id
    · exact fun _ => rfl
    · intro thing flag hDiffers
      cases flag <;> exact absurd rfl hDiffers
  unfold ChangesFlags at hMarked ⊢
  rw [setWorn_world]
  exact hMarked

/- Moving a thing leaves its flags alone. -/
theorem changesFlags_place
    {id : String}
    {target : Placement}
    (hPlace : before.place id target = .ok after) :
    ChangesFlags may before after := by
  rcases relocate_of_place hPlace with ⟨old, hRelocate⟩
  rcases World.relocate_eq_ok_iff.mp hRelocate with
    ⟨thing, -, -, -, hWorld⟩
  unfold ChangesFlags
  rw [hWorld, World.moveTo_things]
  apply Catalog.forall₂_update
  · exact fun _ _ => ⟨rfl, fun _ hNe => absurd rfl hNe⟩
  · intro moved _ _
    refine ⟨World.placeThing_id target moved, ?_⟩
    intro flag hDiffers
    cases flag <;> exact absurd rfl hDiffers

------------------------------------------------------------
-- Work
------------------------------------------------------------

/- The flags that verbs write by themselves. -/
def MayWork (_ : String) (flag : Flag) : Prop :=
  flag = .open ∨ flag = .switchedOn

theorem changesFlags_write
    (scene : Scene)
    (id : String)
    {field : Field}
    (hOfVerbs : OfVerbs field)
    (value : Value) :
    ChangesFlags MayWork scene
      (scene.updateThing id (Thing.write field value)) := by
  apply changesFlags_updateThing scene id
  · exact Thing.written_id (some field) value
  · intro thing flag hDiffers
    rcases Thing.flag_of_write hDiffers with
      rfl | ⟨rfl, -⟩
    · cases flag with
      | «open» => exact Or.inl rfl
      | switchedOn => exact Or.inr rfl
      | _ => exact hOfVerbs.elim
    · exact hOfVerbs.elim

/- Verbs write no other flags. -/
theorem Works.changesFlags
    {verb : Verb}
    {command : Command}
    (hWorks : Works scene command verb after) :
    ChangesFlags MayWork scene after := by
  cases hWorks with
  | idle => exact .of_things_eq rfl
  | move thing target hPlace => exact changesFlags_place hPlace
  | write _ thing field value hOfVerbs =>
      exact changesFlags_write scene thing hOfVerbs _
  | takeOff thing => exact changesFlags_setWorn scene thing _
  | @putOn _ thing held _ _ _ hInHand =>
      have hHeld : ChangesFlags MayWork scene held := by
        cases hInHand with
        | already => exact .of_things_eq rfl
        | taken hPlace => exact changesFlags_place hPlace
      refine hHeld.trans ?_
      unfold worn
      split
      · exact changesFlags_setWorn held thing.id true
      · exact changesFlags_setWorn held thing.id true
  | @go _ _ exit opened _ _ _ _ hDoor =>
      have hOfVerbs : OfVerbs (.flag .open) := trivial
      have hOpened : ChangesFlags MayWork scene opened := by
        rcases eq_or_opened_of_openDoor hDoor with
          rfl | ⟨door, rfl⟩
        · exact .of_things_eq rfl
        · exact changesFlags_write scene door hOfVerbs _
      exact hOpened.trans (.of_things_eq rfl)
  | fallAsleep => exact .of_things_eq rfl
  | wakeUp => exact .of_things_eq rfl

theorem changesFlags_worked
    (scene : Scene)
    (command : Command) :
    ChangesFlags MayWork scene (scene.worked command) := by
  rcases worked_eq_or_works scene command with
    hSame | ⟨verb, -, hWorks⟩
  · rw [hSame]
    exact .of_things_eq rfl
  · exact hWorks.changesFlags

------------------------------------------------------------
-- Deeds
------------------------------------------------------------

/- An effect writes the flag that its path stands for. -/
theorem changesFlags_setProperty
    (scene : Scene)
    (id path : String)
    (value : Value) :
    ChangesFlags
      (fun other flag =>
        (Effect.setProperty id path value).Writes other flag)
      scene (scene.setProperty id path value).value := by
  rw [setProperty_value]
  apply changesFlags_updateThing scene id
  · exact Thing.written_id (Field.ofPath? path) value
  · intro thing flag hDiffers
    cases hField : Field.ofPath? path with
    | none =>
        rw [hField] at hDiffers
        exact absurd rfl hDiffers
    | some field =>
        rw [hField] at hDiffers
        rcases Thing.flag_of_write hDiffers with
          rfl | ⟨rfl, hHidden⟩
        · exact ⟨rfl, Or.inl hField⟩
        · exact ⟨rfl, Or.inr ⟨hField, hHidden⟩⟩

/- A deed writes no flag but the one that it asks for. -/
theorem changesFlags_undergo
    (scene : Scene)
    (deed : Deed) :
    ChangesFlags (fun id flag => deed.Writes id flag) scene
      (scene.undergo deed) := by
  cases deed with
  | fire flag => exact .of_things_eq rfl
  | solve puzzle => exact .of_things_eq rfl
  | effect effect =>
      cases effect with
      | unlockExit exit =>
          simp only [undergo, applyEffect, unlockExit]
          split
          · rename_i world blocked hUnblock
            rcases (World.unblockExit_eq_ok_iff _).mp
                hUnblock with ⟨key, -, -, -, -, -, -, rfl⟩
            exact .of_things_eq rfl
          · exact .of_things_eq rfl
      | revealThing thing =>
          simp only [undergo, applyEffect, reveal]
          split
          · apply changesFlags_updateThing scene thing
            · exact fun _ => rfl
            · intro found flag hDiffers
              cases flag with
              | hidden => exact ⟨rfl, rfl⟩
              | _ => exact absurd rfl hDiffers
          · exact .of_things_eq rfl
      | setFlag flag value => exact .of_things_eq rfl
      | moveThing thing room =>
          simp only [undergo, applyEffect, moveThing]
          split
          · rename_i moved hPlace
            exact changesFlags_place hPlace
          · exact .of_things_eq rfl
      | triggerEvent event => exact .of_things_eq rfl
      | setPlayerState state => exact .of_things_eq rfl
      | setProperty thing path value =>
          simp only [undergo, applyEffect]
          split
          · unfold setWornIfCarried
            split
            · exact .of_things_eq rfl
            · split
              · exact .of_things_eq rfl
              · split
                · exact .of_things_eq rfl
                · exact changesFlags_setWorn scene thing _
          · exact changesFlags_setProperty scene thing path
              value

------------------------------------------------------------
-- Solved Puzzles
------------------------------------------------------------

/- What is solved was not in the list of solved puzzles. -/
theorem Solves.nodup_solvedPuzzles
    {solved : List Puzzle}
    (hSolves : scene.Solves solved after)
    (hNodup : scene.session.solvedPuzzles.Nodup) :
    after.session.solvedPuzzles.Nodup := by
  rw [hSolves.solvedPuzzles]
  refine List.nodup_append.mpr
    ⟨hNodup, hSolves.nodup_ids, ?_⟩
  intro old hOld id hId hSame
  rcases List.mem_map.mp hId with ⟨puzzle, hPuzzle, rfl⟩
  have hNot :=
    (mem_unsolved_iff.mp
      (hSolves.subset_unsolved hPuzzle)).2.2
  simp [Session.isSolved, ← hSame, hOld] at hNot

end Scene

------------------------------------------------------------
-- Lines
------------------------------------------------------------

namespace Game

/- Recording the changed things forgets no other thing. -/
theorem isSome_get?_recordedStates
    (world : World)
    {states : Dict ThingState}
    {key : String}
    (hKey : (states.get? key).isSome) :
    ((recordedStates world states).get? key).isSome := by
  unfold recordedStates
  generalize world.changed = ids
  induction ids generalizing states with
  | nil => exact hKey
  | cons id rest ih =>
      rw [List.foldl_cons]
      apply ih
      unfold recordedState
      split
      · exact Dict.isSome_get?_insert hKey id _
      · exact hKey

theorem advances_recordChanges (scene : Scene) :
    scene.Advances (recordChanges scene) := by
  rw [recordChanges_eq]
  exact
    { world := .of_rooms ⟨rfl, rfl, rfl⟩ rfl
        (List.forall₂_same.mpr
          (fun room _ => Room.Unfolds.refl room))
      session :=
        { Session.Recalls.refl scene.session with
          states := fun _ hKey =>
            isSome_get?_recordedStates scene.world hKey } }

theorem advances_execute (game : Game) (line : String) :
    game.scene.Advances (game.execute line).value.1.scene := by
  have hNext : game.scene.Advances (nextTurn game.scene) :=
    ⟨.refl game.world, Session.recalls_of_memory_eq rfl⟩
  rw [execute_value]
  exact (hNext.trans
    (turn_edits (World.grants_any game.world)
      line).advances).trans (advances_recordChanges _)

/- So does a run of lines. -/
theorem advances_executeAll
    (game : Game)
    (lines : List String) :
    game.scene.Advances
      (game.executeAll lines).value.1.scene :=
  executeAll_keeps
    (fun last => game.scene.Advances last.scene)
    (fun last line hLast =>
      hLast.trans (advances_execute last line))
    (.refl game.scene) lines

theorem nodup_solvedPuzzles_execute
    {game : Game}
    (hNodup : game.session.solvedPuzzles.Nodup)
    (line : String) :
    (game.execute line).value.1.session.solvedPuzzles.Nodup :=
  by
  rcases exists_solves_turn game line with ⟨solved, hSolves, -⟩
  have hActed :=
    Scene.solvedPuzzles_of_ledger_eq (ledger_acted game line)
  have hLast :=
    Scene.solvedPuzzles_of_ledger_eq (ledger_execute game line)
  unfold session at hNodup ⊢
  rw [hLast]
  rw [← hActed] at hNodup
  exact hSolves.nodup_solvedPuzzles hNodup

/- Recording leaves the things as the turn has made them. -/
theorem things_recordChanges (scene : Scene) :
    (recordChanges scene).world.things =
      scene.world.things := by
  rw [recordChanges_eq]
  rfl

/- That a turn is counted changes no thing. -/
theorem changesFlags_worked (game : Game) (line : String) :
    game.scene.ChangesFlags Scene.MayWork
      (game.worked line) := by
  have hNext :
      game.scene.ChangesFlags Scene.MayWork
        (nextTurn game.scene) :=
    .of_things_eq rfl
  exact hNext.trans (Scene.changesFlags_worked _ _)

/-
  A line only advances a game: what content has written stays
  as it is, exits are only unblocked, rooms only visited and
  puzzles only solved, and the session forgets nothing and
  lists nothing twice. The verb writes no flag of a thing but
  whether it is open or switched on, and of what follows only
  an effect writes one, the one that it asks for.
-/
theorem only_advances (game : Game) (line : String) :
    let last := (game.execute line).value.1
    game.scene.Advances last.scene ∧
    (game.session.solvedPuzzles.Nodup →
      last.session.solvedPuzzles.Nodup) ∧
    ∃ deeds,
      (nextTurn game.scene).Ensues game.settings.maxPasses
        (Command.ofLine line) deeds ∧
      game.scene.ChangesFlags Scene.MayWork
        (game.worked line) ∧
      (∀ past deed future, deeds = past ++ deed :: future →
        let moment := (game.worked line).undergoAll past
        moment.ChangesFlags
          (fun id flag => deed.Writes id flag)
          (moment.undergo deed)) ∧
      last.world.things =
        ((game.worked line).undergoAll deeds).world.things := by
  intro last
  refine ⟨advances_execute game line,
    fun hNodup => nodup_solvedPuzzles_execute hNodup line, ?_⟩
  rcases exists_ensues_execute game line with
    ⟨deeds, hEnsues, hScene⟩
  refine ⟨deeds, hEnsues, changesFlags_worked game line,
    ?_, ?_⟩
  · intro past deed future _
    exact Scene.changesFlags_undergo _ deed
  · unfold last world
    rw [hScene, things_recordChanges]

end Game

end TextAdventure
