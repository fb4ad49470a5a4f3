import TextAdventure.Play.Turn
import TextAdventure.Proofs.Chain
import TextAdventure.Proofs.Scene.Edit

/-
  All that a verb by itself can do to a scene.

  Most verbs look around, move a thing or write a property
  of it. Going, sleeping, waking, putting on and taking off
  are the others, each with what has been checked before it.
  A refused verb has done nothing, or has done its work and
  could not report on it.

  Main declarations:
    * `Scene.Works`
    * `Scene.handle_works`
-/

namespace TextAdventure

theorem demand_eq_ok_iff
    {α : Type}
    {value : Option α}
    {refusal : Refusal}
    {found : α} :
    demand value refusal = .ok found ↔ value = some found := by
  cases value <;> simp [demand]

namespace Scene

variable {scene after : Scene}
variable {command : Command}
variable {reply : Reply}

------------------------------------------------------------
-- Work
------------------------------------------------------------

/- A thing is in hand, or it has just been picked up. -/
inductive InHand (scene : Scene) (thing : Thing) :
    Scene → Prop where
| already
    (hCarried : thing.placement.isCarried = true) :
    InHand scene thing scene
| taken
    {held : Scene}
    (hPlace : scene.place thing.id .carried = .ok held) :
    InHand scene thing held

/- The scene with a thing put on, and what comes of it. -/
def worn (scene : Scene) (thing : Thing) (held : Scene) :
    Scene :=
  if scene.turnsIntoVoid thing then
    (held.setWorn thing.id true).enterVoid
  else
    held.setWorn thing.id true

/-
  The properties that verbs write by themselves: whether a
  thing is open or switched on, and custom state.
-/
def OfVerbs : Field → Prop
| .flag .open => True
| .flag .switchedOn => True
| .custom _ => True
| _ => False

/- What a verb may have done, with what it had checked. -/
inductive Works (scene : Scene) (command : Command) :
    Verb → Scene → Prop where
| idle
    (verb : Verb) :
    Works scene command verb scene
| move
    {verb : Verb}
    {after : Scene}
    (thing : String)
    (target : Placement)
    (hPlace : scene.place thing target = .ok after) :
    Works scene command verb after
| write
    (verb : Verb)
    (thing : String)
    (field : Field)
    (value : Bool)
    (hOfVerbs : OfVerbs field) :
    Works scene command verb
      (scene.updateThing thing
        (Thing.write field (.boolean value)))
| takeOff
    (thing : String) :
    Works scene command .remove (scene.setWorn thing false)
| putOn
    {verb : Verb}
    {thing : Thing}
    {held : Scene}
    (hVerb : verb = .wear ∨ verb = .become)
    (hTarget : scene.target command verb = .ok thing)
    (hHold : scene.hasHoldHere thing = true)
    (hInHand : scene.InHand thing held) :
    Works scene command verb (scene.worn thing held)
| go
    {noun : String}
    {direction : Direction}
    {exit : Exit}
    {opened : Scene}
    {told : String}
    (hNoun : command.noun = some noun)
    (hWord : Direction.ofWord? noun = some direction)
    (hExit : scene.usableExit direction = .ok exit)
    (hDoor : scene.openDoor exit = .ok (opened, told)) :
    Works scene command .go
      (opened.enterRoom exit.destination)
| fallAsleep
    {rule : DreamRule}
    (hRule : scene.world.rules.dream = some rule)
    (hNormal : scene.session.playerState = .normal)
    (hHere : scene.session.currentRoom = rule.wakingRoom)
    (hKnown :
      Catalog.has rule.dreamingRoom scene.world.rooms = true) :
    Works scene command .sleep
      ((scene.setPlayerState .dreaming).enterRoom
        rule.dreamingRoom)
| wakeUp
    {rule : DreamRule}
    (hRule : scene.world.rules.dream = some rule)
    (hDreaming : scene.session.playerState = .dreaming) :
    Works scene command .wake
      ((scene.setPlayerState .normal).enterRoom
        rule.wakingRoom)

theorem settle_works
    {verb : Verb}
    {handled : Handled}
    (hOk :
      ∀ after reply, handled = .ok (after, reply) →
        Works scene command verb after) :
    Works scene command verb (scene.settle handled).1 := by
  cases handled with
  | error refusal => exact .idle verb
  | ok result => exact hOk result.1 result.2 rfl

theorem carryOut_works
    {α : Type}
    {verb : Verb}
    {change : Except Refusal (Scene × α)}
    (hOk :
      ∀ after told, change = .ok (after, told) →
        Works scene command verb after)
    (report : Scene → α → Except Refusal Reply) :
    Works scene command verb
      (scene.carryOut change report).1 := by
  cases change with
  | error refusal => exact .idle verb
  | ok result => exact hOk result.1 result.2 rfl

------------------------------------------------------------
-- Looking
------------------------------------------------------------

/- Looking around changes nothing. -/
theorem eq_of_lookAround
    (hOk : scene.lookAround = .ok (after, reply)) :
    after = scene := by
  rcases bind_eq_ok_iff.mp hOk with ⟨text, -, hReturn⟩
  cases hReturn
  rfl

theorem eq_of_examine
    (hOk : scene.examine command = .ok (after, reply)) :
    after = scene := by
  unfold examine at hOk
  split at hOk
  · exact eq_of_lookAround hOk
  · rcases bind_eq_ok_iff.mp hOk with ⟨thing, -, hReturn⟩
    cases hReturn
    rfl

theorem eq_of_look
    (hOk : scene.look command = .ok (after, reply)) :
    after = scene := by
  unfold look at hOk
  split at hOk
  · exact eq_of_examine hOk
  · exact eq_of_lookAround hOk

theorem eq_of_read
    (hOk : scene.read command = .ok (after, reply)) :
    after = scene := by
  rcases bind_eq_ok_iff.mp hOk with ⟨thing, -, hText⟩
  rcases demand_bind_eq_ok_iff.mp hText with
    ⟨text, -, hReturn⟩
  cases hReturn
  rfl

------------------------------------------------------------
-- Carrying
------------------------------------------------------------

theorem place_of_move
    {thing : Thing}
    {target : Placement}
    (hOk : scene.move thing target = .ok after) :
    scene.place thing.id target = .ok after := by
  unfold move at hOk
  split at hOk
  · rename_i moved hPlace
    cases hOk
    exact hPlace
  · simp at hOk

theorem place_of_pickUp
    {thing : Thing}
    (hOk : scene.pickUp thing = .ok after) :
    scene.place thing.id .carried = .ok after := by
  rcases check_bind_eq_ok_iff.mp hOk with ⟨-, hPortable⟩
  rcases check_bind_eq_ok_iff.mp hPortable with ⟨-, hMove⟩
  exact place_of_move hMove

theorem take_works
    (hOk : scene.take command = .ok (after, reply)) :
    Works scene command .take after := by
  rcases bind_eq_ok_iff.mp hOk with ⟨thing, -, hTaken⟩
  rcases bind_eq_ok_iff.mp hTaken with
    ⟨held, hPickUp, hReturn⟩
  cases hReturn
  exact .move thing.id .carried (place_of_pickUp hPickUp)

theorem drop_works
    (hOk : scene.drop command = .ok (after, reply)) :
    Works scene command .drop after := by
  rcases bind_eq_ok_iff.mp hOk with ⟨thing, -, hCarried⟩
  rcases check_bind_eq_ok_iff.mp hCarried with ⟨-, hMoved⟩
  rcases bind_eq_ok_iff.mp hMoved with
    ⟨moved, hMove, hReturn⟩
  cases hReturn
  exact .move thing.id _ (place_of_move hMove)

theorem put_works
    (hOk : scene.put command = .ok (after, reply)) :
    Works scene command .put after := by
  simp only [put, bind_eq_ok_iff, pure_eq_ok_iff] at hOk
  rcases hOk with
    ⟨thing, -, noun, -, -, -, container, -, -, -, -, -, -, -,
      moved, hMove, hReturn⟩
  cases hReturn
  exact .move thing.id _ (place_of_move hMove)

------------------------------------------------------------
-- Wearing
------------------------------------------------------------

/- What has been moved to the player is carried. -/
theorem isCarried_of_place
    {id : String}
    (hPlace : scene.place id .carried = .ok after) :
    after.world.isCarried id = true := by
  rcases relocate_of_place hPlace with ⟨old, hRelocate⟩
  rcases World.relocate_eq_ok_iff.mp hRelocate with
    ⟨found, hFound, -, -, hWorld⟩
  rw [World.isCarried, hWorld, World.thing?_moveTo_self,
    hFound]
  rfl

/- What is put on is the thing that the world has there. -/
theorem InHand.isCarried
    {thing : Thing}
    {held : Scene}
    (hInHand : scene.InHand thing held)
    (hThing : scene.world.thing? thing.id = some thing) :
    held.world.isCarried thing.id = true := by
  cases hInHand with
  | already hCarried =>
      simpa [World.isCarried, hThing] using hCarried
  | taken hPlace => exact isCarried_of_place hPlace

/- Putting on needs a hold, and the thing in hand. -/
theorem wearThing_works
    {verb : Verb}
    {thing : Thing}
    (hVerb : verb = .wear ∨ verb = .become)
    (hTarget : scene.target command verb = .ok thing)
    (hOk : scene.wearThing thing = .ok (after, reply)) :
    Works scene command verb after := by
  simp only [wearThing, check_bind_eq_ok_iff] at hOk
  rcases hOk with ⟨-, -, hHold, hHeld⟩
  split at hHeld
  · rename_i hCarried
    cases hHeld
    exact .putOn hVerb hTarget hHold (.already hCarried)
  · rcases bind_eq_ok_iff.mp hHeld with
      ⟨held, hPickUp, hReturn⟩
    cases hReturn
    exact .putOn hVerb hTarget hHold
      (.taken (place_of_pickUp hPickUp))

/- What a command is about is the thing at its id. -/
theorem thing?_of_target
    {verb : Verb}
    {thing : Thing}
    (hOk : scene.target command verb = .ok thing) :
    scene.world.thing? thing.id = some thing := by
  simp only [target, named, bind_eq_ok_iff] at hOk
  rcases hOk with ⟨noun, -, id, -, hThing⟩
  unfold Scene.thing demand at hThing
  split at hThing
  · rename_i found hFound
    cases hThing
    have hId : thing.id = id := (Catalog.find?_some hFound).2
    rw [hId]
    exact hFound
  · simp at hThing

theorem wear_works
    (hOk : scene.wear command = .ok (after, reply)) :
    Works scene command .wear after := by
  rcases bind_eq_ok_iff.mp hOk with ⟨thing, hTarget, hWear⟩
  exact wearThing_works (Or.inl rfl) hTarget hWear

theorem remove_works
    (hOk : scene.remove command = .ok (after, reply)) :
    Works scene command .remove after := by
  simp only [remove, bind_eq_ok_iff, pure_eq_ok_iff] at hOk
  rcases hOk with ⟨thing, -, -, -, hReturn⟩
  cases hReturn
  exact .takeOff thing.id

/- Becoming the void is wearing; all else scripts do. -/
theorem become_works
    (hOk : scene.become command = .ok (after, reply)) :
    Works scene command .become after := by
  rcases bind_eq_ok_iff.mp hOk with ⟨thing, hTarget, hBecome⟩
  split at hBecome
  · exact wearThing_works (Or.inr rfl) hTarget hBecome
  · simp only [bind_eq_ok_iff, pure_eq_ok_iff] at hBecome
    rcases hBecome with ⟨-, -, hReturn⟩
    cases hReturn
    exact .idle .become

------------------------------------------------------------
-- Handling
------------------------------------------------------------

/- Opening and closing write the flag of that. -/
theorem setOpen_works
    (verb : Verb)
    (id : String)
    (isOpen : Bool) :
    Works scene command verb (scene.setOpen id isOpen) :=
  .write verb id (.flag .open) isOpen trivial

/- Marking writes an entry of the custom state. -/
theorem mark_works
    (verb : Verb)
    (thing : Thing)
    (key : String)
    (value : Bool) :
    Works scene command verb (scene.mark thing key value) :=
  .write verb thing.id (.custom key) value trivial

theorem openThing_works
    (hOk : scene.openThing command = .ok (after, reply)) :
    Works scene command .open after := by
  simp only [openThing, bind_eq_ok_iff,
    pure_eq_ok_iff] at hOk
  rcases hOk with ⟨thing, -, -, -, -, -, -, -, hReturn⟩
  cases hReturn
  exact setOpen_works .open thing.id true

theorem closeThing_works
    (hOk : scene.closeThing command = .ok (after, reply)) :
    Works scene command .close after := by
  simp only [closeThing, bind_eq_ok_iff,
    pure_eq_ok_iff] at hOk
  rcases hOk with ⟨thing, -, -, -, -, -, hReturn⟩
  cases hReturn
  exact setOpen_works .close thing.id false

theorem flipSwitch_works
    {on : Bool}
    {thing : Thing}
    (verb : Verb)
    (hOk : scene.flipSwitch command on = .ok (after, thing)) :
    Works scene command verb after := by
  simp only [flipSwitch, bind_eq_ok_iff,
    pure_eq_ok_iff] at hOk
  rcases hOk with ⟨found, -, -, -, -, -, hReturn⟩
  cases hReturn
  exact .write verb thing.id (.flag .switchedOn) on trivial

theorem burn_works
    (hOk : scene.burn command = .ok (after, reply)) :
    Works scene command .burn after := by
  simp only [burn, bind_eq_ok_iff, pure_eq_ok_iff] at hOk
  rcases hOk with
    ⟨thing, -, -, -, -, -, source, -, hReturn⟩
  cases hReturn
  exact mark_works .burn thing CustomKey.burned true

theorem search_works
    (hOk : scene.search command = .ok (after, reply)) :
    Works scene command .search after := by
  rcases bind_eq_ok_iff.mp hOk with ⟨thing, -, hReturn⟩
  cases hReturn
  exact mark_works .search thing CustomKey.searched true

theorem focus_works
    (hOk : scene.focus command = .ok (after, reply)) :
    Works scene command .focus after := by
  rcases bind_eq_ok_iff.mp hOk with ⟨thing, -, hReturn⟩
  cases hReturn
  exact mark_works .focus thing CustomKey.focused true

theorem unscrew_works
    (hOk : scene.unscrew command = .ok (after, reply)) :
    Works scene command .unscrew after := by
  simp only [unscrew, bind_eq_ok_iff, pure_eq_ok_iff] at hOk
  rcases hOk with ⟨thing, -, tool, -, hReturn⟩
  cases hReturn
  exact mark_works .unscrew thing CustomKey.screwed false

theorem screw_works
    (hOk : scene.screw command = .ok (after, reply)) :
    Works scene command .screw after := by
  simp only [screw, bind_eq_ok_iff, pure_eq_ok_iff] at hOk
  rcases hOk with ⟨thing, -, tool, -, hReturn⟩
  cases hReturn
  exact mark_works .screw thing CustomKey.screwed true

------------------------------------------------------------
-- Moving
------------------------------------------------------------

/- Opening a door writes its flag, if it has to be opened. -/
theorem eq_or_opened_of_openDoor
    {exit : Exit}
    {told : String}
    (hOk : scene.openDoor exit = .ok (after, told)) :
    after = scene ∨
      ∃ door,
        after =
          scene.updateThing door
            (Thing.write (.flag .open) (.boolean true)) := by
  unfold openDoor at hOk
  split at hOk
  · cases hOk
    exact Or.inl rfl
  · rename_i door hDoor
    rcases check_bind_eq_ok_iff.mp hOk with ⟨-, hOpened⟩
    split at hOpened
    · cases hOpened
      exact Or.inr ⟨door.id, rfl⟩
    · cases hOpened
      exact Or.inl rfl

theorem passExit_works
    {told : String}
    (hOk : scene.passExit command = .ok (after, told)) :
    Works scene command .go after := by
  simp only [passExit, bind_eq_ok_iff, demand_eq_ok_iff,
    pure_eq_ok_iff] at hOk
  rcases hOk with
    ⟨noun, hNoun, direction, hWord, exit, hExit,
      ⟨opened, word⟩, hDoor, hReturn⟩
  cases hReturn
  exact .go hNoun hWord hExit hDoor

theorem fallAsleep_works
    {told : String}
    (hOk : scene.fallAsleep = .ok (after, told)) :
    Works scene command .sleep after := by
  rcases bind_eq_ok_iff.mp hOk with ⟨rule, hRule, hReturn⟩
  cases hReturn
  rcases demand_bind_eq_ok_iff.mp hRule with
    ⟨found, hFound, hAwake⟩
  rcases check_bind_eq_ok_iff.mp hAwake with ⟨-, hState⟩
  rcases check_bind_eq_ok_iff.mp hState with ⟨hPlace, hDream⟩
  rcases check_bind_eq_ok_iff.mp hDream with
    ⟨hKnown, hReturn⟩
  cases hReturn
  rw [Bool.and_eq_true, beq_iff_eq, beq_iff_eq] at hPlace
  exact .fallAsleep hFound hPlace.1 hPlace.2 hKnown

theorem wakeUp_works
    {told : String}
    (hOk : scene.wakeUp = .ok (after, told)) :
    Works scene command .wake after := by
  rcases bind_eq_ok_iff.mp hOk with ⟨rule, hRule, hReturn⟩
  cases hReturn
  rcases check_bind_eq_ok_iff.mp hRule with
    ⟨hDreaming, hFound⟩
  rw [demand_eq_ok_iff] at hFound
  exact .wakeUp hFound (beq_iff_eq.mp hDreaming)

------------------------------------------------------------
-- All Verbs
------------------------------------------------------------

/- There is nothing else that a verb does by itself. -/
theorem handle_works
    (scene : Scene)
    (verb : Verb)
    (command : Command) :
    Works scene command verb (scene.handle verb command).1 := by
  have hSame {verb : Verb} {handled : Handled}
      (hOk :
        ∀ after reply, handled = .ok (after, reply) →
          after = scene) :
      Works scene command verb (scene.settle handled).1 := by
    apply settle_works
    intro after reply hHandled
    rw [hOk after reply hHandled]
    exact .idle verb
  cases verb with
  | look => exact hSame (fun _ _ => eq_of_look)
  | examine => exact hSame (fun _ _ => eq_of_examine)
  | read => exact hSame (fun _ _ => eq_of_read)
  | inventory => exact .idle .inventory
  | wait => exact .idle .wait
  | help => exact .idle .help
  | take => exact settle_works (fun _ _ => take_works)
  | drop => exact settle_works (fun _ _ => drop_works)
  | put => exact settle_works (fun _ _ => put_works)
  | wear => exact settle_works (fun _ _ => wear_works)
  | remove => exact settle_works (fun _ _ => remove_works)
  | become => exact settle_works (fun _ _ => become_works)
  | «open» => exact settle_works (fun _ _ => openThing_works)
  | close => exact settle_works (fun _ _ => closeThing_works)
  | burn => exact settle_works (fun _ _ => burn_works)
  | search => exact settle_works (fun _ _ => search_works)
  | focus => exact settle_works (fun _ _ => focus_works)
  | unscrew => exact settle_works (fun _ _ => unscrew_works)
  | screw => exact settle_works (fun _ _ => screw_works)
  | switchOn =>
      exact carryOut_works
        (fun _ _ => flipSwitch_works .switchOn) _
  | switchOff =>
      exact carryOut_works
        (fun _ _ => flipSwitch_works .switchOff) _
  | go => exact carryOut_works (fun _ _ => passExit_works) _
  | sleep =>
      exact carryOut_works (fun _ _ => fallAsleep_works) _
  | wake => exact carryOut_works (fun _ _ => wakeUp_works) _

end Scene

end TextAdventure
