import TextAdventure.Proofs.Play.Work

/-
  Verbs as runs of edits.

  A verb that is not refused leaves the scene as a few edits
  make it, and one that is refused leaves it as it is or, if
  only the report is refused, as the change made it. No verb
  solves a puzzle by itself, so these edits are plain.

  Main declarations:
    * `Scene.Works.edits`
    * `Scene.handle_edits`
    * `Scene.complete_edits`
    * `Scene.perform_edits`
-/

namespace TextAdventure

open Relation (ReflTransGen)

namespace Scene

variable {may : Value → Prop}
variable {scene after : Scene}
variable {command : Command}

------------------------------------------------------------
-- Work
------------------------------------------------------------

theorem InHand.edits
    {thing : Thing}
    {held : Scene}
    (hInHand : scene.InHand thing held) :
    PlainEdits may scene held := by
  cases hInHand with
  | already hCarried => exact ReflTransGen.refl
  | taken hPlace =>
      exact ReflTransGen.single
        (.place thing.id .carried hPlace)

/-
  A thing is worn only while it is in hand, so what is put on
  from elsewhere is picked up before. The thing has to be the
  one that the world has at its id.
-/
theorem worn_edits
    {thing : Thing}
    {held : Scene}
    (hThing : scene.world.thing? thing.id = some thing)
    (hInHand : scene.InHand thing held) :
    PlainEdits may scene (scene.worn thing held) := by
  have hWorn :
      PlainEdits may scene (held.setWorn thing.id true) :=
    hInHand.edits.tail
      (.putOn held thing.id (hInHand.isCarried hThing))
  unfold worn
  split
  · exact hWorn.tail
      (.condition (held.setWorn thing.id true) .void
        (some (held.setWorn thing.id true).session.playerState))
  · exact hWorn

/- Opening a door writes a flag of it. -/
theorem openDoor_edits
    (hBoolean : ∀ value, may (.boolean value))
    {exit : Exit}
    {told : String}
    (hOk : scene.openDoor exit = .ok (after, told)) :
    PlainEdits may scene after := by
  rcases eq_or_opened_of_openDoor hOk with rfl | ⟨door, rfl⟩
  · exact ReflTransGen.refl
  · exact ReflTransGen.single
      (.write scene door (some (.flag .open)) (.boolean true)
        (hBoolean true))

/- Falling asleep and waking change condition and room. -/
theorem setPlayerState_enterRoom_edits
    (scene : Scene)
    (state : PlayerState)
    (room : String) :
    PlainEdits may scene
      ((scene.setPlayerState state).enterRoom room) :=
  (ReflTransGen.single
    (.condition scene state scene.session.suspendedState)).tail
      (.enter _ room)

/- Whatever a verb does, it does in edits. -/
theorem Works.edits
    {verb : Verb}
    (hWorks : Works scene command verb after)
    (hBoolean : ∀ value, may (.boolean value)) :
    PlainEdits may scene after := by
  cases hWorks with
  | idle => exact ReflTransGen.refl
  | move thing target hPlace =>
      exact ReflTransGen.single (.place thing target hPlace)
  | write _ thing field value hOfVerbs =>
      exact ReflTransGen.single
        (.write scene thing (some field) (.boolean value)
          (hBoolean value))
  | takeOff thing =>
      exact ReflTransGen.single (.takeOff scene thing)
  | putOn _ hTarget _ hInHand =>
      exact worn_edits (thing?_of_target hTarget) hInHand
  | @go _ _ exit opened _ _ _ _ hDoor =>
      exact (openDoor_edits hBoolean hDoor).tail
        (.enter opened exit.destination)
  | fallAsleep | wakeUp =>
      exact setPlayerState_enterRoom_edits scene _ _

/- Every verb does its work in edits. -/
theorem handle_edits
    (hBoolean : ∀ value, may (.boolean value))
    (scene : Scene)
    (verb : Verb)
    (command : Command) :
    PlainEdits may scene (scene.handle verb command).1 :=
  (handle_works scene verb command).edits hBoolean

------------------------------------------------------------
-- Turns
------------------------------------------------------------

theorem runScriptsFor_edits
    {scene : Scene}
    (hGrants : scene.world.Grants may)
    (verb : Verb)
    (reply : Reply) :
    PlainEdits may scene
      (scene.runScriptsFor verb reply).value.1 := by
  unfold runScriptsFor
  split
  · exact runScripts_edits hGrants _ verb
  · exact ReflTransGen.refl

theorem complete_edits
    {scene : Scene}
    (hGrants : scene.world.Grants may)
    (limit : UInt64)
    (verb : Verb)
    (reply : Reply) :
    Edits may scene
      (scene.complete limit verb reply).scene := by
  have hScripts := runScriptsFor_edits hGrants verb reply
  exact hScripts.edits.trans
    (evaluatePuzzles_edits
      (hGrants.of_plot_eq hScripts.plot) limit)

/- Every command does its work in edits. -/
theorem perform_edits
    {scene : Scene}
    (hGrants : scene.world.Grants may)
    (limit : UInt64)
    (command : Command) :
    Edits may scene (scene.perform limit command).scene := by
  unfold perform
  split
  · exact ReflTransGen.refl
  · rename_i verb hVerb
    split
    · exact ReflTransGen.refl
    · have hHandle :=
        handle_edits hGrants.boolean scene verb command
      split
      · rename_i done hDone
        rw [hDone] at hHandle
        exact hHandle.edits
      · rename_i done reply hDone
        rw [hDone] at hHandle
        exact hHandle.edits.trans
          (complete_edits
            (hGrants.of_plot_eq hHandle.plot) limit verb reply)

end Scene

end TextAdventure
