import TextAdventure.Proofs.Game.Deeds
import TextAdventure.Proofs.Scene.Memory

/-
  Marks: the flags that scripts are remembered by.

  A script that runs only once leaves a mark that tells its
  thing and its verb, and no other thing and verb have the
  same mark. No verb writes a mark, and no event raises one.
  So where no effect names one, the marks after a turn are
  those before it and those of the scripts set off in it.

  Main declarations:
    * `Script.firedFlag_eq_iff`
    * `IsMark`
    * `Effect.SparesMarks`
    * `Scene.flags_worked`
    * `Scene.setOff_sublist`
    * `Scene.onceFor`
    * `Scene.flag?_perform`
-/

namespace TextAdventure

------------------------------------------------------------
-- Marks Of Scripts
------------------------------------------------------------

/- Verbs have different names, none of them with a colon. -/
theorem Verb.name_injective {left right : Verb}
    (hName : left.name = right.name) : left = right := by
  have hFound := congrArg Verb.ofName? hName
  rw [Verb.ofName?_name, Verb.ofName?_name] at hFound
  exact Option.some.inj hFound

theorem Verb.colon_not_mem_name (verb : Verb) :
    ':' ∉ verb.name.toList := by
  cases verb <;> decide

/- A flag in the style of those that scripts leave. -/
def IsMark (flag : String) : Prop :=
  "script:".toList <+: flag.toList

instance : DecidablePred IsMark := fun flag =>
  inferInstanceAs
    (Decidable ("script:".toList <+: flag.toList))

namespace Script

theorem toList_firedFlag (script : Script) :
    script.firedFlag.toList =
      "script:".toList ++
        (script.thing.toList ++
          ':' :: script.verb.name.toList) := by
  simp [firedFlag]

theorem isMark_firedFlag (script : Script) :
    IsMark script.firedFlag := by
  unfold IsMark
  rw [toList_firedFlag]
  exact List.prefix_append _ _

/-
  The verb is what follows the last colon, so a mark tells
  thing and verb, whatever colons the thing's id has.
-/
theorem firedFlag_eq_iff {left right : Script} :
    left.firedFlag = right.firedFlag ↔
      left.thing = right.thing ∧ left.verb = right.verb := by
  constructor
  · intro hFlag
    have hChars := congrArg String.toList hFlag
    rw [toList_firedFlag, toList_firedFlag,
      List.append_cancel_left_eq] at hChars
    have hSplit := congrArg (splitAtLast? ':') hChars
    rw [splitAtLast?_append left.verb.colon_not_mem_name,
      splitAtLast?_append right.verb.colon_not_mem_name]
      at hSplit
    simp only [Option.some.injEq, Prod.mk.injEq,
      String.toList_inj] at hSplit
    exact ⟨hSplit.1, Verb.name_injective hSplit.2⟩
  · rintro ⟨hThing, hVerb⟩
    rw [firedFlag, firedFlag, hThing, hVerb]

end Script

------------------------------------------------------------
-- Effects
------------------------------------------------------------

/- If an effect sets a flag by name, it is not a mark. -/
def Effect.SparesMarks : Effect → Prop
| .setFlag flag _ => ¬IsMark flag
| _ => True

instance : DecidablePred Effect.SparesMarks
| .unlockExit _ => isTrue trivial
| .revealThing _ => isTrue trivial
| .setFlag flag _ => inferInstanceAs (Decidable (¬IsMark flag))
| .moveThing _ _ => isTrue trivial
| .triggerEvent _ => isTrue trivial
| .setProperty _ _ _ => isTrue trivial
| .setPlayerState _ => isTrue trivial

/- An event's flag begins otherwise than a mark. -/
theorem not_isMark_eventFlag (event : String) :
    ¬IsMark (eventFlag event) := by
  have hMark : "script:".toList = 's' :: "cript:".toList := by
    decide
  have hEvent : "event_".toList = 'e' :: "vent_".toList := by
    decide
  intro hPrefix
  rw [IsMark, eventFlag, String.toList_append, hMark, hEvent,
    List.cons_append, List.cons_prefix_cons] at hPrefix
  exact absurd hPrefix.1 (by decide)

namespace Scene

variable {before after scene : Scene}
variable {flag : String}

theorem flag?_of_memory_eq
    {first second : Session}
    (hMemory : second.memory = first.memory)
    (flag : String) :
    second.flag? flag = first.flag? flag := by
  have hFlags : second.flags = first.flags :=
    congrArg Prod.fst hMemory
  unfold Session.flag?
  rw [hFlags]

theorem flag?_setFlag_of_ne
    (scene : Scene)
    {other : String}
    (hNe : flag ≠ other)
    (value : Value) :
    (scene.setFlag other value).session.flag? flag =
      scene.session.flag? flag :=
  Dict.get?_insert_of_ne scene.session.flags hNe value

/- An effect that spares the marks leaves each as it is. -/
theorem Touches.flag?
    {effect : Effect}
    (hTouches : Touches before effect after)
    (hSpares : effect.SparesMarks)
    (hMark : IsMark flag) :
    after.session.flag? flag = before.session.flag? flag := by
  cases hTouches with
  | idle => rfl
  | unlock hUnblock =>
      exact congrArg (fun flags : Dict Value => flags.get? flag)
        (congrArg Prod.fst
          (before.session.recordOpened_memory _))
  | reveal => rfl
  | flag other value =>
      apply flag?_setFlag_of_ne
      rintro rfl
      exact hSpares hMark
  | place hPlace =>
      exact flag?_of_memory_eq (memory_of_place hPlace) flag
  | event event =>
      apply flag?_setFlag_of_ne
      rintro rfl
      exact not_isMark_eventFlag event hMark
  | write => rfl
  | putOn =>
      exact flag?_of_memory_eq
        (memory_setWorn before _ true) flag
  | takeOff =>
      exact flag?_of_memory_eq
        (memory_setWorn before _ false) flag
  | condition => rfl

/- What deeds make of a mark, if their effects spare it. -/
section Deeds

variable {deeds : List Deed}
variable (hSpares : ∀ effect, Deed.effect effect ∈ deeds →
  effect.SparesMarks)
variable (hMark : IsMark flag)

include hSpares hMark

theorem flag?_undergoAll_of_not_fire
    (hNone : Deed.fire flag ∉ deeds) :
    (scene.undergoAll deeds).session.flag? flag =
      scene.session.flag? flag := by
  induction deeds generalizing scene with
  | nil => rfl
  | cons deed rest ih =>
      rw [List.mem_cons, not_or] at hNone
      have hRest :
          ((scene.undergo deed).undergoAll rest).session.flag?
              flag =
            (scene.undergo deed).session.flag? flag :=
        ih (fun effect hMem =>
          hSpares effect (List.mem_cons_of_mem _ hMem)) hNone.2
      refine hRest.trans ?_
      cases deed with
      | effect effect =>
          exact (applyEffect_touches scene effect).flag?
            (hSpares effect List.mem_cons_self) hMark
      | fire other =>
          apply flag?_setFlag_of_ne
          rintro rfl
          exact hNone.1 rfl
      | solve puzzle => rfl

theorem flag?_undergoAll_of_fire
    (hFire : Deed.fire flag ∈ deeds) :
    (scene.undergoAll deeds).session.flag? flag =
      some (.boolean true) := by
  induction deeds generalizing scene with
  | nil => cases hFire
  | cons deed rest ih =>
      have hRest : ∀ effect, Deed.effect effect ∈ rest →
          effect.SparesMarks := by
        intro effect hMem
        exact hSpares effect (List.mem_cons_of_mem _ hMem)
      -- What is left last is left to stay.
      by_cases hLater : Deed.fire flag ∈ rest
      · exact ih hRest hLater
      · have hFirst : Deed.fire flag = deed := by
          rcases List.mem_cons.mp hFire with hFirst | hMem
          · exact hFirst
          · exact absurd hMem hLater
        subst hFirst
        have hLeft :
            ((scene.setFlag flag (.boolean true)).undergoAll
                rest).session.flag? flag =
              (scene.setFlag flag
                (.boolean true)).session.flag? flag :=
          flag?_undergoAll_of_not_fire hRest hMark hLater
        exact hLeft.trans (Dict.get?_insert_self _ _ _)

end Deeds

------------------------------------------------------------
-- Verbs
------------------------------------------------------------

/- No verb sets a flag. -/
theorem Works.flags
    {command : Command}
    {verb : Verb}
    (hWorks : Works scene command verb after) :
    after.session.flags = scene.session.flags := by
  have hSetWorn (scene : Scene) (thing : String) (on : Bool) :
      (scene.setWorn thing on).session.flags =
        scene.session.flags :=
    congrArg Prod.fst (memory_setWorn scene thing on)
  have hEnter (scene : Scene) (room : String) :
      (scene.enterRoom room).session.flags =
        scene.session.flags :=
    congrArg Prod.fst (memory_enterRoom scene room)
  cases hWorks with
  | idle => rfl
  | move thing target hPlace =>
      exact congrArg Prod.fst (memory_of_place hPlace)
  | write => rfl
  | takeOff thing => exact hSetWorn scene thing false
  | @putOn _ thing held _ _ _ hInHand =>
      have hHeld : held.session.flags = scene.session.flags := by
        cases hInHand with
        | already => rfl
        | taken hPlace =>
            exact congrArg Prod.fst (memory_of_place hPlace)
      refine Eq.trans ?_ hHeld
      unfold worn
      split
      · exact hSetWorn held thing.id true
      · exact hSetWorn held thing.id true
  | @go _ _ exit opened _ _ _ _ hDoor =>
      refine (hEnter opened exit.destination).trans ?_
      rcases eq_or_opened_of_openDoor hDoor with
        rfl | ⟨door, rfl⟩
      · rfl
      · rfl
  | fallAsleep => exact hEnter _ _
  | wakeUp => exact hEnter _ _

theorem flags_worked (scene : Scene) (command : Command) :
    (scene.worked command).session.flags =
      scene.session.flags := by
  rcases worked_eq_or_works scene command with
    hSame | ⟨verb, -, hWorks⟩
  · rw [hSame]
  · exact hWorks.flags

/-
  What is set off is what the verb's work leaves pending, all
  of it for one thing and one verb.
-/
theorem setOff_eq_nil_or_pending
    (scene : Scene)
    (command : Command) :
    scene.setOff command = [] ∨
      ∃ thing verb,
        scene.setOff command =
          (scene.worked command).pendingScripts thing verb := by
  unfold setOff worked
  cases scene.verb? command with
  | none => exact Or.inl rfl
  | some verb =>
      simp only
      rcases scene.handle verb command with
        ⟨after, refusal | reply⟩
      · exact Or.inl rfl
      · cases hTarget : reply.target with
        | none => exact Or.inl (by simp only [hTarget])
        | some thing =>
            exact Or.inr
              ⟨thing, verb, by simp only [hTarget]⟩

/- No script of the world is set off twice in a turn. -/
theorem setOff_sublist (scene : Scene) (command : Command) :
    (scene.setOff command).Sublist scene.world.scripts := by
  have hScripts :
      (scene.worked command).world.scripts =
        scene.world.scripts :=
    congrArg (fun plot => plot.2.2) (plot_worked scene command)
  rcases setOff_eq_nil_or_pending scene command with
    hNone | ⟨thing, verb, hPending⟩
  · rw [hNone]
    exact List.nil_sublist _
  · rw [hPending, ← hScripts]
    exact List.filter_sublist.trans List.filter_sublist

/- A script that runs only once is set off without its mark. -/
theorem hasFlag_of_mem_setOff
    {command : Command}
    {script : Script}
    (hMem : script ∈ scene.setOff command)
    (hOnce : script.once = true) :
    scene.session.hasFlag script.firedFlag = false := by
  have hFlags := flags_worked scene command
  rcases setOff_eq_nil_or_pending scene command with
    hNone | ⟨thing, verb, hPending⟩
  · rw [hNone] at hMem
    cases hMem
  · rw [hPending] at hMem
    have hFree := (List.mem_filter.mp hMem).2
    simp only [hOnce, Bool.true_and, Bool.not_eq_true',
      Session.hasFlag, Session.flag?, hFlags] at hFree
    exact hFree

------------------------------------------------------------
-- Turns
------------------------------------------------------------

/- Scripts that run once, for a verb on a thing. -/
def onceFor
    (scripts : List Script)
    (thing : String)
    (verb : Verb) : List Script :=
  scripts.filter (fun script =>
    script.once && script.isFor thing verb)

theorem onceFor_ne_nil_iff
    {scripts : List Script}
    {script : Script} :
    onceFor scripts script.thing script.verb ≠ [] ↔
      ∃ other ∈ scripts,
        other.once = true ∧
          other.firedFlag = script.firedFlag := by
  simp [onceFor, List.filter_eq_nil_iff, Script.isFor,
    Script.firedFlag_eq_iff]

/- The marks that are left are those of such scripts. -/
theorem fire_mem_iff_onceFor
    {scripts : List Script}
    {script : Script}
    (solved : List Puzzle) :
    Deed.fire script.firedFlag ∈
        scripts.flatMap Script.deeds ++
          solved.flatMap Puzzle.deeds ↔
      onceFor scripts script.thing script.verb ≠ [] := by
  have hScript (other : Script) :
      Deed.fire script.firedFlag ∈ other.deeds ↔
        other.once = true ∧
          other.firedFlag = script.firedFlag := by
    unfold Script.deeds
    cases other.once <;> simp [eq_comm]
  rw [onceFor_ne_nil_iff]
  simp [List.mem_flatMap, hScript, Puzzle.deeds]

/- A turn leaves the marks of the scripts that it sets off. -/
theorem flag?_perform
    (hSpares : ∀ effect ∈ scene.world.effects,
      effect.SparesMarks)
    (limit : UInt64)
    (command : Command)
    (script : Script) :
    (scene.perform limit command).scene.session.flag?
        script.firedFlag =
      if onceFor (scene.setOff command)
          script.thing script.verb = [] then
        scene.session.flag? script.firedFlag
      else
        some (.boolean true) := by
  rcases exists_ensues scene limit command with
    ⟨deeds, hEnsues⟩
  have hQuiet :=
    fun effect hMem =>
      hSpares effect (hEnsues.mem_effects hMem)
  have hMark := script.isMark_firedFlag
  rw [hEnsues.scene_eq]
  rcases hEnsues with ⟨solved, -, rfl⟩
  split
  · rename_i hNone
    have hLeft := fire_mem_iff_onceFor solved |>.not.mpr
      (not_not_intro hNone)
    rw [flag?_undergoAll_of_not_fire hQuiet hMark hLeft]
    unfold Session.flag?
    rw [flags_worked]
  · rename_i hSome
    exact flag?_undergoAll_of_fire hQuiet hMark
      ((fire_mem_iff_onceFor solved).mpr hSome)

/- Where its mark stands, no script is set off again. -/
theorem onceFor_setOff_eq_nil
    {command : Command}
    {script : Script}
    (hMark :
      scene.session.flag? script.firedFlag =
        some (.boolean true)) :
    onceFor (scene.setOff command) script.thing script.verb =
      [] := by
  by_contra hSome
  rcases onceFor_ne_nil_iff.mp hSome with
    ⟨other, hMem, hOnce, hSame⟩
  have hFree := hasFlag_of_mem_setOff hMem hOnce
  rw [Session.hasFlag, hSame, hMark] at hFree
  cases hFree

end Scene

end TextAdventure
