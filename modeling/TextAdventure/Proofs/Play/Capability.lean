import TextAdventure.Proofs.Play.Work
import TextAdventure.Proofs.World.Naming

/-
  What a verb by itself may make of a thing.

  A verb changes one thing at most: the one that its noun
  means, which is in reach, or the door of an exit. What
  becomes of the thing is what its flags allow and what has
  been checked of where it is and where it goes.

  Main declarations:
    * `Scene.MayMove` and `Scene.MayMark`
    * `Scene.Allows`
    * `Scene.Alters`
    * `Scene.handle_alters`
    * `Scene.Respects`
    * `Scene.handle_respects_capabilities`
-/

namespace TextAdventure

open Relation (ReflTransGen)

theorem check_eq_ok_iff
    {condition : Bool}
    {refusal : Refusal}
    {done : Unit} :
    check condition refusal = .ok done ↔ condition = true := by
  cases condition <;> simp [check]

namespace Thing

variable {thing : Thing}

theorem isPortable_iff :
    thing.isPortable = true ↔
      thing.isFixed = false ∧ thing.isScenery = false := by
  simp [Thing.isPortable]

theorem isOpenContainer_iff :
    thing.isOpenContainer = true ↔
      thing.isContainer = true ∧
        (thing.isOpenable = true → thing.isOpen = true) := by
  cases hOpenable : thing.isOpenable <;>
    simp [Thing.isOpenContainer, hOpenable]

end Thing

namespace Scene

variable {scene after : Scene}
variable {command : Command}
variable {reply : Reply}
variable {thing : Thing}

------------------------------------------------------------
-- Things In Reach
------------------------------------------------------------

/- A thing of the world that the player can act on. -/
structure InReach (scene : Scene) (thing : Thing) : Prop where
  known : scene.world.thing? thing.id = some thing
  reach : scene.canReach thing = true

theorem InReach.isAccessible
    (hReach : scene.InReach thing) :
    scene.world.isAccessible scene.session.currentRoom
      thing.id = true :=
  (Bool.and_eq_true _ _ ▸ hReach.reach).1

/- Whether a thing is in reach hangs on its id only. -/
theorem inReach_of_named
    {noun : String}
    (hOk : scene.named noun = .ok thing) :
    scene.InReach thing := by
  simp only [named, bind_eq_ok_iff] at hOk
  rcases hOk with ⟨id, hId, hThing⟩
  have hFound := demand_eq_ok_iff.mp hThing
  have hSame : thing.id = id := (Catalog.find?_some hFound).2
  unfold resolve at hId
  dsimp only at hId
  split at hId
  · rename_i found hNoun
    cases hId
    refine ⟨hSame ▸ hFound, ?_⟩
    have hReach := (World.means_of_findWhere? hNoun).passes
    unfold canReach at hReach ⊢
    rw [hSame]
    exact hReach
  · simp at hId

theorem inReach_of_target
    {verb : Verb}
    (hOk : scene.target command verb = .ok thing) :
    scene.InReach thing := by
  rcases demand_bind_eq_ok_iff.mp hOk with ⟨noun, -, hNamed⟩
  exact inReach_of_named hNamed

------------------------------------------------------------
-- Allowed Changes
------------------------------------------------------------

/- Where a verb may bring a thing, by what it has checked. -/
inductive MayMove (scene : Scene) (thing : Thing) :
    Placement → Prop where
| take
    (hAccessible :
      scene.world.isAccessible scene.session.currentRoom
        thing.id = true)
    (hFixed : thing.isFixed = false)
    (hScenery : thing.isScenery = false) :
    MayMove scene thing .carried
| drop
    (hCarried : thing.placement = .carried) :
    MayMove scene thing (.room scene.session.currentRoom)
| put
    {container : Thing}
    (hCarried : thing.placement = .carried)
    (hKnown :
      scene.world.thing? container.id = some container)
    (hAccessible :
      scene.world.isAccessible scene.session.currentRoom
        container.id = true)
    (hContainer : container.isContainer = true)
    (hOpen :
      container.isOpenable = true → container.isOpen = true)
    (hApart :
      ¬ ReflTransGen (Inside scene.world.things)
        container.id thing.id) :
    MayMove scene thing (.container container.id)

/- The entries of custom state that a verb may write. -/
inductive MayMark (scene : Scene) (thing : Thing) :
    String → Prop where
| searched : MayMark scene thing CustomKey.searched
| focused : MayMark scene thing CustomKey.focused
| burned
    {source : Thing}
    (hFlammable : thing.hasState CustomKey.flammable = true)
    (hKnown : scene.world.thing? source.id = some source)
    (hCarried : source.placement = .carried)
    (hSource : source.hasState CustomKey.fireSource = true) :
    MayMark scene thing CustomKey.burned
| screwed
    (hScrews :
      (thing.customState.get? CustomKey.screwed).isSome) :
    MayMark scene thing CustomKey.screwed

/- What a verb may make of a thing. -/
inductive Allows (scene : Scene) (thing : Thing) :
    Thing → Prop where
| «open»
    (hOpenable : thing.isOpenable = true)
    (hUnlocked : thing.isLocked = false) :
    Allows scene thing { thing with isOpen := true }
| close :
    Allows scene thing { thing with isOpen := false }
| switch
    (on : Bool)
    (hSwitchable : thing.isSwitchable = true) :
    Allows scene thing { thing with isSwitchedOn := on }
| move
    {target : Placement}
    (hMay : scene.MayMove thing target) :
    Allows scene thing (World.placeThing target thing)
| wear
    (hWearable : thing.isWearable = true)
    (hHold : scene.hasHoldHere thing = true)
    (hInHand :
      thing.placement = .carried ∨
        scene.MayMove thing .carried) :
    Allows scene thing
      { thing with
          placement := .carried
          isWorn := true }
| takeOff :
    Allows scene thing { thing with isWorn := false }
| mark
    {key : String}
    (value : Bool)
    (hMay : scene.MayMark thing key) :
    Allows scene thing (thing.withState key (.boolean value))

------------------------------------------------------------
-- One Changed Thing
------------------------------------------------------------

/- A thing is another one now, at its place in the list. -/
structure Changes
    (scene after : Scene)
    (old new : Thing) : Prop where
  known : scene.world.thing? old.id = some old
  things :
    ∃ front back,
      scene.world.things = front ++ old :: back ∧
        after.world.things = front ++ new :: back

theorem changes_of_update
    (hKnown : scene.world.thing? thing.id = some thing)
    {change : Thing → Thing}
    (hThings :
      after.world.things =
        Catalog.update thing.id change scene.world.things) :
    scene.Changes after thing (change thing) := by
  rcases Catalog.exists_split_of_find? hKnown with
    ⟨front, back, hSplit, hUpdate⟩
  exact ⟨hKnown, front, back, hSplit,
    hThings.trans (hUpdate change)⟩

theorem changes_updateThing
    (hKnown : scene.world.thing? thing.id = some thing)
    (change : Thing → Thing) :
    scene.Changes (scene.updateThing thing.id change) thing
      (change thing) :=
  changes_of_update hKnown (by simp [updateThing])

theorem things_of_place
    {id : String}
    {target : Placement}
    (hPlace : scene.place id target = .ok after) :
    after.world.things =
      Catalog.update id (World.placeThing target)
        scene.world.things := by
  rcases relocate_of_place hPlace with ⟨old, hRelocate⟩
  rcases World.relocate_eq_ok_iff.mp hRelocate with
    ⟨found, -, -, -, hWorld⟩
  rw [hWorld, World.moveTo_things]

/-
  What a verb does to the things: nothing, something to one
  that is meant, or it opens the door of an exit.
-/
inductive Alters (scene after : Scene) : Prop where
| nothing
    (hSame : after.world.things = scene.world.things)
| meant
    {old new : Thing}
    (hReach : scene.InReach old)
    (hAllows : scene.Allows old new)
    (hChanges : scene.Changes after old new)
| door
    {exit : Exit}
    {old new : Thing}
    (hDoor : scene.door? exit = some old)
    (hAllows : scene.Allows old new)
    (hChanges : scene.Changes after old new)

/- The thing that is meant is moved. -/
theorem InReach.alters_of_move
    (hReach : scene.InReach thing)
    {target : Placement}
    (hMay : scene.MayMove thing target)
    (hMove : scene.move thing target = .ok after) :
    scene.Alters after :=
  .meant hReach (.move hMay)
    (changes_of_update hReach.known
      (things_of_place (place_of_move hMove)))

/- The thing that is meant is changed where it is. -/
theorem InReach.alters_updateThing
    (hReach : scene.InReach thing)
    {change : Thing → Thing}
    (hAllows : scene.Allows thing (change thing)) :
    scene.Alters (scene.updateThing thing.id change) :=
  .meant hReach hAllows
    (changes_updateThing hReach.known change)

------------------------------------------------------------
-- Carrying
------------------------------------------------------------

/- Picking up checks that the thing is portable. -/
theorem InReach.mayMove_of_pickUp
    (hReach : scene.InReach thing)
    (hOk : scene.pickUp thing = .ok after) :
    scene.MayMove thing .carried := by
  simp only [pickUp, check_bind_eq_ok_iff,
    Thing.isPortable_iff] at hOk
  exact .take hReach.isAccessible hOk.2.1.1 hOk.2.1.2

theorem take_alters
    (hOk : scene.take command = .ok (after, reply)) :
    scene.Alters after := by
  simp only [take, bind_eq_ok_iff, pure_eq_ok_iff] at hOk
  rcases hOk with ⟨thing, hTarget, held, hPickUp, hReturn⟩
  cases hReturn
  have hReach := inReach_of_target hTarget
  have hMay := hReach.mayMove_of_pickUp hPickUp
  simp only [pickUp, check_bind_eq_ok_iff] at hPickUp
  exact hReach.alters_of_move hMay hPickUp.2.2

theorem drop_alters
    (hOk : scene.drop command = .ok (after, reply)) :
    scene.Alters after := by
  simp only [drop, bind_eq_ok_iff, check_eq_ok_iff,
    exists_const, pure_eq_ok_iff,
    Placement.isCarried_eq_true_iff] at hOk
  rcases hOk with
    ⟨thing, hTarget, hCarried, moved, hMove, hReturn⟩
  cases hReturn
  exact (inReach_of_target hTarget).alters_of_move
    (.drop hCarried) hMove

/-
  Without cycles, what is checked is that nothing is put
  inside itself.
-/
theorem put_alters
    (hAcyclic : IsAcyclic scene.world.things)
    (hOk : scene.put command = .ok (after, reply)) :
    scene.Alters after := by
  simp only [put, bind_eq_ok_iff, check_eq_ok_iff,
    exists_const, demand_eq_ok_iff, pure_eq_ok_iff,
    Thing.isOpenContainer_iff, Placement.isCarried_eq_true_iff,
    Bool.and_eq_true, Bool.not_eq_true',
    World.wouldContainCycle_eq_false_iff hAcyclic] at hOk
  rcases hOk with
    ⟨thing, hTarget, noun, -, hCarried, container, hNamed,
      ⟨-, hApart⟩, hContainer, ⟨-, hOpen⟩, moved, hMove,
      hReturn⟩
  cases hReturn
  have hOuter := inReach_of_named hNamed
  exact (inReach_of_target hTarget).alters_of_move
    (.put hCarried hOuter.known hOuter.isAccessible
      hContainer hOpen hApart) hMove

------------------------------------------------------------
-- Wearing
------------------------------------------------------------

@[simp] theorem things_setWorn
    (scene : Scene)
    (id : String)
    (worn : Bool) :
    (scene.setWorn id worn).world.things =
      Catalog.update id
        (fun thing => { thing with isWorn := worn })
        scene.world.things := by
  rw [setWorn_world, World.updateThing_things]

/- What becomes of the things of a scene with one put on. -/
theorem things_worn
    (scene held : Scene)
    (thing : Thing) :
    (scene.worn thing held).world.things =
      Catalog.update thing.id
        (fun thing => { thing with isWorn := true })
        held.world.things := by
  unfold worn
  split <;> simp [enterVoid]

/- A thing is put on where it is, or after it is taken. -/
theorem InReach.alters_of_wearThing
    (hReach : scene.InReach thing)
    (hOk : scene.wearThing thing = .ok (after, reply)) :
    scene.Alters after := by
  simp only [wearThing, check_bind_eq_ok_iff] at hOk
  rcases hOk with ⟨hWearable, -, hHold, hHeld⟩
  split at hHeld
  · rename_i hCarried
    cases hHeld
    rw [Placement.isCarried_eq_true_iff] at hCarried
    have hAllows :=
      Allows.wear hWearable hHold (Or.inl hCarried)
    rw [← hCarried] at hAllows
    exact .meant hReach hAllows
      (changes_of_update hReach.known
        (things_worn scene scene thing))
  · rcases bind_eq_ok_iff.mp hHeld with
      ⟨held, hPickUp, hReturn⟩
    cases hReturn
    refine .meant hReach
      (.wear hWearable hHold
        (Or.inr (hReach.mayMove_of_pickUp hPickUp))) ?_
    have hTaken := things_of_place (place_of_pickUp hPickUp)
    have hBoth :
        (scene.worn thing held).world.things =
          Catalog.update thing.id
            ((fun thing => { thing with isWorn := true }) ∘
              World.placeThing .carried)
            scene.world.things := by
      have hId (thing : Thing) :
          Identified.idOf (World.placeThing .carried thing) =
            Identified.idOf thing := rfl
      rw [things_worn, hTaken, Catalog.update_update hId]
    exact changes_of_update hReach.known hBoth

theorem wear_alters
    (hOk : scene.wear command = .ok (after, reply)) :
    scene.Alters after := by
  rcases bind_eq_ok_iff.mp hOk with ⟨thing, hTarget, hWear⟩
  exact (inReach_of_target hTarget).alters_of_wearThing hWear

theorem remove_alters
    (hOk : scene.remove command = .ok (after, reply)) :
    scene.Alters after := by
  simp only [remove, bind_eq_ok_iff, pure_eq_ok_iff] at hOk
  rcases hOk with ⟨thing, hTarget, -, -, hReturn⟩
  cases hReturn
  have hReach := inReach_of_target hTarget
  have hThings := things_setWorn scene thing.id false
  exact .meant hReach .takeOff
    (changes_of_update hReach.known hThings)

theorem become_alters
    (hOk : scene.become command = .ok (after, reply)) :
    scene.Alters after := by
  rcases bind_eq_ok_iff.mp hOk with ⟨thing, hTarget, hBecome⟩
  split at hBecome
  · exact (inReach_of_target hTarget).alters_of_wearThing
      hBecome
  · simp only [bind_eq_ok_iff, pure_eq_ok_iff] at hBecome
    rcases hBecome with ⟨-, -, hReturn⟩
    cases hReturn
    exact .nothing rfl

------------------------------------------------------------
-- Opening, Closing And Switching
------------------------------------------------------------

theorem openThing_alters
    (hOk : scene.openThing command = .ok (after, reply)) :
    scene.Alters after := by
  simp only [openThing, bind_eq_ok_iff, check_eq_ok_iff,
    exists_const, pure_eq_ok_iff, Bool.not_eq_true'] at hOk
  rcases hOk with
    ⟨thing, hTarget, hOpenable, -, hUnlocked, hReturn⟩
  cases hReturn
  exact (inReach_of_target hTarget).alters_updateThing
    (.open hOpenable hUnlocked)

theorem closeThing_alters
    (hOk : scene.closeThing command = .ok (after, reply)) :
    scene.Alters after := by
  simp only [closeThing, bind_eq_ok_iff, pure_eq_ok_iff] at hOk
  rcases hOk with ⟨thing, hTarget, -, -, -, -, hReturn⟩
  cases hReturn
  exact (inReach_of_target hTarget).alters_updateThing .close

theorem flipSwitch_alters
    {on : Bool}
    (hOk : scene.flipSwitch command on = .ok (after, thing)) :
    scene.Alters after := by
  simp only [flipSwitch, bind_eq_ok_iff, check_eq_ok_iff,
    exists_const, pure_eq_ok_iff] at hOk
  rcases hOk with ⟨found, hTarget, hSwitchable, -, hReturn⟩
  cases hReturn
  exact (inReach_of_target hTarget).alters_updateThing
    (.switch on hSwitchable)

------------------------------------------------------------
-- Custom State
------------------------------------------------------------

theorem InReach.alters_mark
    (hReach : scene.InReach thing)
    {key : String}
    (value : Bool)
    (hMay : scene.MayMark thing key) :
    scene.Alters (scene.mark thing key value) :=
  hReach.alters_updateThing (.mark value hMay)

theorem search_alters
    (hOk : scene.search command = .ok (after, reply)) :
    scene.Alters after := by
  rcases bind_eq_ok_iff.mp hOk with ⟨thing, hTarget, hReturn⟩
  cases hReturn
  exact (inReach_of_target hTarget).alters_mark true .searched

theorem focus_alters
    (hOk : scene.focus command = .ok (after, reply)) :
    scene.Alters after := by
  rcases bind_eq_ok_iff.mp hOk with ⟨thing, hTarget, hReturn⟩
  cases hReturn
  exact (inReach_of_target hTarget).alters_mark true .focused

/- The inventory holds what is carried and nothing else. -/
def HoldsCarried (scene : Scene) : Prop :=
  ∀ id, id ∈ scene.session.inventory ↔
    scene.world.isCarried id = true

/-
  What sets others on fire is carried, whether it is named or
  found in the inventory.
-/
theorem carried_of_fireSource
    (hHolds : scene.HoldsCarried)
    {noun : Option String}
    {source : Thing}
    (hOk : scene.fireSource noun = .ok source) :
    scene.world.thing? source.id = some source ∧
      source.placement = .carried ∧
      source.hasState CustomKey.fireSource = true := by
  cases noun with
  | some noun =>
      simp only [fireSource, bind_eq_ok_iff, check_eq_ok_iff,
        exists_const, pure_eq_ok_iff,
        Placement.isCarried_eq_true_iff] at hOk
      rcases hOk with ⟨tool, hNamed, hCarried, hState, rfl⟩
      exact ⟨(inReach_of_named hNamed).known, hCarried,
        hState⟩
  | none =>
      have hFind := demand_eq_ok_iff.mp hOk
      have hState := List.find?_some hFind
      rcases List.mem_filterMap.mp
        (List.mem_of_find?_eq_some hFind) with
        ⟨id, hMem, hThing⟩
      have hId : source.id = id :=
        (Catalog.find?_some hThing).2
      subst hId
      have hCarried := (hHolds source.id).mp hMem
      rw [World.isCarried, hThing] at hCarried
      exact ⟨hThing,
        (Placement.isCarried_eq_true_iff _).mp hCarried, hState⟩

theorem burn_alters
    (hHolds : scene.HoldsCarried)
    (hOk : scene.burn command = .ok (after, reply)) :
    scene.Alters after := by
  simp only [burn, bind_eq_ok_iff, check_eq_ok_iff,
    exists_const, pure_eq_ok_iff] at hOk
  rcases hOk with
    ⟨thing, hTarget, hFlammable, -, source, hSource, hReturn⟩
  cases hReturn
  rcases carried_of_fireSource hHolds hSource with
    ⟨hKnown, hCarried, hState⟩
  exact (inReach_of_target hTarget).alters_mark true
    (.burned hFlammable hKnown hCarried hState)

/- Only what has screws is unscrewed or screwed. -/
theorem mayMark_of_checkScrews
    {unscrewing : Bool}
    {tool : Option String}
    (hOk :
      scene.checkScrews command thing unscrewing = .ok tool) :
    scene.MayMark thing CustomKey.screwed := by
  rcases demand_bind_eq_ok_iff.mp hOk with ⟨value, hValue, -⟩
  exact .screwed (by rw [hValue]; rfl)

theorem unscrew_alters
    (hOk : scene.unscrew command = .ok (after, reply)) :
    scene.Alters after := by
  simp only [unscrew, bind_eq_ok_iff, pure_eq_ok_iff] at hOk
  rcases hOk with ⟨thing, hTarget, tool, hScrews, hReturn⟩
  cases hReturn
  exact (inReach_of_target hTarget).alters_mark false
    (mayMark_of_checkScrews hScrews)

theorem screw_alters
    (hOk : scene.screw command = .ok (after, reply)) :
    scene.Alters after := by
  simp only [screw, bind_eq_ok_iff, pure_eq_ok_iff] at hOk
  rcases hOk with ⟨thing, hTarget, tool, hScrews, hReturn⟩
  cases hReturn
  exact (inReach_of_target hTarget).alters_mark true
    (mayMark_of_checkScrews hScrews)

------------------------------------------------------------
-- Moving
------------------------------------------------------------

/- A door is opened on the way only if a hand could open it. -/
theorem openDoor_alters
    {exit : Exit}
    {told : String}
    (hOk : scene.openDoor exit = .ok (after, told)) :
    scene.Alters after := by
  unfold openDoor at hOk
  split at hOk
  · cases hOk
    exact .nothing rfl
  · rename_i door hDoor
    rcases check_bind_eq_ok_iff.mp hOk with
      ⟨hUnlocked, hOpened⟩
    split at hOpened
    · rename_i hClosed
      cases hOpened
      rw [Bool.and_eq_true] at hClosed
      rw [Bool.not_eq_true'] at hUnlocked
      rcases Option.bind_eq_some_iff.mp hDoor with
        ⟨id, -, hThing⟩
      have hId : door.id = id := (Catalog.find?_some hThing).2
      exact .door hDoor (.open hClosed.1 hUnlocked)
        (changes_updateThing (hId ▸ hThing) _)
    · cases hOpened
      exact .nothing rfl

/- Nothing else becomes of the things on the way. -/
theorem passExit_alters
    {told : String}
    (hOk : scene.passExit command = .ok (after, told)) :
    scene.Alters after := by
  simp only [passExit, bind_eq_ok_iff, pure_eq_ok_iff] at hOk
  rcases hOk with
    ⟨-, -, -, -, exit, -, ⟨opened, word⟩, hDoor, hReturn⟩
  cases hReturn
  cases openDoor_alters hDoor with
  | nothing hSame => exact .nothing hSame
  | meant hReach hAllows hChanges =>
      exact .meant hReach hAllows
        ⟨hChanges.known, hChanges.things⟩
  | door hFound hAllows hChanges =>
      exact .door hFound hAllows
        ⟨hChanges.known, hChanges.things⟩

theorem fallAsleep_alters
    {told : String}
    (hOk : scene.fallAsleep = .ok (after, told)) :
    scene.Alters after := by
  rcases bind_eq_ok_iff.mp hOk with ⟨rule, -, hReturn⟩
  cases hReturn
  exact .nothing rfl

theorem wakeUp_alters
    {told : String}
    (hOk : scene.wakeUp = .ok (after, told)) :
    scene.Alters after := by
  rcases bind_eq_ok_iff.mp hOk with ⟨rule, -, hReturn⟩
  cases hReturn
  exact .nothing rfl

------------------------------------------------------------
-- All Verbs
------------------------------------------------------------

theorem settle_alters
    {handled : Handled}
    (hOk :
      ∀ after reply, handled = .ok (after, reply) →
        scene.Alters after) :
    scene.Alters (scene.settle handled).1 := by
  cases handled with
  | error refusal => exact .nothing rfl
  | ok result => exact hOk result.1 result.2 rfl

theorem carryOut_alters
    {α : Type}
    {change : Except Refusal (Scene × α)}
    (hOk :
      ∀ after told, change = .ok (after, told) →
        scene.Alters after)
    (report : Scene → α → Except Refusal Reply) :
    scene.Alters (scene.carryOut change report).1 := by
  cases change with
  | error refusal => exact .nothing rfl
  | ok result => exact hOk result.1 result.2 rfl

/- Whatever the verb, it alters nothing but what it may. -/
theorem handle_alters
    (hHolds : scene.HoldsCarried)
    (hAcyclic : IsAcyclic scene.world.things)
    (verb : Verb)
    (command : Command) :
    scene.Alters (scene.handle verb command).1 := by
  have hSame {handled : Handled}
      (hOk :
        ∀ after reply, handled = .ok (after, reply) →
          after = scene) :
      scene.Alters (scene.settle handled).1 := by
    apply settle_alters
    intro after reply hHandled
    rw [hOk after reply hHandled]
    exact .nothing rfl
  cases verb with
  | look => exact hSame (fun _ _ => eq_of_look)
  | examine => exact hSame (fun _ _ => eq_of_examine)
  | read => exact hSame (fun _ _ => eq_of_read)
  | inventory => exact .nothing rfl
  | wait => exact .nothing rfl
  | help => exact .nothing rfl
  | take => exact settle_alters (fun _ _ => take_alters)
  | drop => exact settle_alters (fun _ _ => drop_alters)
  | put => exact settle_alters (fun _ _ => put_alters hAcyclic)
  | wear => exact settle_alters (fun _ _ => wear_alters)
  | remove => exact settle_alters (fun _ _ => remove_alters)
  | become => exact settle_alters (fun _ _ => become_alters)
  | «open» => exact settle_alters (fun _ _ => openThing_alters)
  | close => exact settle_alters (fun _ _ => closeThing_alters)
  | burn => exact settle_alters (fun _ _ => burn_alters hHolds)
  | search => exact settle_alters (fun _ _ => search_alters)
  | focus => exact settle_alters (fun _ _ => focus_alters)
  | unscrew => exact settle_alters (fun _ _ => unscrew_alters)
  | screw => exact settle_alters (fun _ _ => screw_alters)
  | switchOn =>
      exact carryOut_alters (fun _ _ => flipSwitch_alters) _
  | switchOff =>
      exact carryOut_alters (fun _ _ => flipSwitch_alters) _
  | go => exact carryOut_alters (fun _ _ => passExit_alters) _
  | sleep =>
      exact carryOut_alters (fun _ _ => fallAsleep_alters) _
  | wake => exact carryOut_alters (fun _ _ => wakeUp_alters) _

------------------------------------------------------------
-- Capabilities
------------------------------------------------------------

/-
  A changed thing differs from the old one only in its place,
  in being worn, open or switched on and in custom state, and
  in each of these only as far as its flags allow.
-/
structure Respects
    (scene : Scene)
    (old new : Thing) : Prop where
  kept :
    { new with
        placement := old.placement
        isWorn := old.isWorn
        isOpen := old.isOpen
        isSwitchedOn := old.isSwitchedOn
        customState := old.customState } = old
  opened :
    old.isOpen = false → new.isOpen = true →
      old.isOpenable = true ∧ old.isLocked = false
  switched :
    new.isSwitchedOn ≠ old.isSwitchedOn →
      old.isSwitchable = true
  putOn :
    old.isWorn = false → new.isWorn = true →
      old.isWearable = true ∧
        new.placement = .carried ∧
        ∀ rule, scene.world.rules.void = some rule →
          rule.thing = old.id →
            scene.session.currentRoom = rule.room
  moved :
    new.placement ≠ old.placement →
      scene.MayMove old new.placement
  marked :
    new.customState = old.customState ∨
      ∃ key value,
        scene.MayMark old key ∧
          new.customState =
            old.customState.insert key (.boolean value)

theorem hasHoldHere_eq_true_iff :
    scene.hasHoldHere thing = true ↔
      ∀ rule, scene.world.rules.void = some rule →
        rule.thing = thing.id →
          scene.session.currentRoom = rule.room := by
  unfold hasHoldHere
  cases scene.world.rules.void with
  | none => simp
  | some rule =>
      simp only [Bool.or_eq_true, bne_iff_ne, beq_iff_eq,
        Option.some.injEq, forall_eq']
      rw [← imp_iff_not_or, eq_comm (a := rule.room)]

/- A thing that stays as it is respects everything. -/
theorem respects_self
    (scene : Scene)
    (thing : Thing) :
    scene.Respects thing thing where
  kept := rfl
  opened hClosed hOpen := by simp [hClosed] at hOpen
  switched hSwitched := absurd rfl hSwitched
  putOn hOff hOn := by simp [hOff] at hOn
  moved hMoved := absurd rfl hMoved
  marked := Or.inl rfl

/- What is allowed respects the flags, change by change. -/
theorem Allows.respects
    {old new : Thing}
    (hAllows : scene.Allows old new) :
    scene.Respects old new := by
  have hSelf := scene.respects_self old
  cases hAllows with
  | «open» hOpenable hUnlocked =>
      exact
        { hSelf with
            kept := rfl
            opened := fun _ _ => ⟨hOpenable, hUnlocked⟩ }
  | close =>
      exact
        { hSelf with
            kept := rfl
            opened := fun _ hOpen => by simp at hOpen }
  | switch on hSwitchable =>
      exact
        { hSelf with
            kept := rfl
            switched := fun _ => hSwitchable }
  | move hMay =>
      exact
        { hSelf with
            kept := rfl
            putOn := fun hOff hOn => by
              simp [World.placeThing, hOff] at hOn
            moved := fun _ => hMay }
  | wear hWearable hHold hInHand =>
      exact
        { hSelf with
            kept := rfl
            putOn := fun _ _ =>
              ⟨hWearable, rfl,
                hasHoldHere_eq_true_iff.mp hHold⟩
            moved := fun hMoved =>
              hInHand.resolve_left
                (fun hCarried => hMoved hCarried.symm) }
  | takeOff =>
      exact
        { hSelf with
            kept := rfl
            putOn := fun _ hOn => by simp at hOn }
  | mark value hMay =>
      exact
        { hSelf with
            kept := rfl
            marked := Or.inr ⟨_, value, hMay, rfl⟩ }

/-
  A verb by itself changes one thing at most, and what it
  makes of that thing respects its flags. Here the inventory
  has to hold what is carried, as what burns another thing is
  looked for there, and nothing may lie inside itself.
-/
theorem handle_respects_capabilities
    (scene : Scene)
    (hHolds : scene.HoldsCarried)
    (hAcyclic : IsAcyclic scene.world.things)
    (verb : Verb)
    (command : Command) :
    (scene.handle verb command).1.world.things =
        scene.world.things ∨
      ∃ old new,
        scene.Changes (scene.handle verb command).1 old new ∧
          scene.Respects old new := by
  cases handle_alters hHolds hAcyclic verb command with
  | nothing hSame => exact Or.inl hSame
  | meant hReach hAllows hChanges =>
      exact Or.inr ⟨_, _, hChanges, hAllows.respects⟩
  | door hDoor hAllows hChanges =>
      exact Or.inr ⟨_, _, hChanges, hAllows.respects⟩

/- A letter in an open box, and a lighter in the hand. -/
def letterInBox : Scene where
  world :=
    { rooms :=
        [{ id := "study", name := "Study", things := ["box"] }]
      things :=
        [{ id := "lighter"
           name := "lighter"
           placement := .carried
           customState :=
            .ofList [(CustomKey.fireSource, .boolean true)] },
          { id := "box"
            name := "box"
            isContainer := true
            placement := .room "study" },
          { id := "letter"
            name := "letter"
            placement := .container "box"
            customState :=
              .ofList [(CustomKey.flammable, .boolean true)] }] }
  session :=
    { Session.starting default "study" with
        inventory := ["lighter"] }

/- The letter burns, and nothing else becomes of the things. -/
theorem burning_letterInBox :
    letterInBox.HoldsCarried ∧
    IsAcyclic letterInBox.world.things ∧
    ∃ old new,
      letterInBox.Changes
          (letterInBox.handle .burn
            (.ofLine "burn letter")).1 old new ∧
        letterInBox.Respects old new := by
  have hHolds : letterInBox.HoldsCarried := by
    intro id
    rw [World.isCarried_eq_true_iff (by decide)]
    simp [letterInBox, World.Places, eq_comm]
  have hAcyclic : IsAcyclic letterInBox.world.things :=
    Content.isAcyclic_of_chainEnds 3 (by decide +kernel)
  have hBurns :
      (letterInBox.handle .burn
        (.ofLine "burn letter")).1.world.things ≠
          letterInBox.world.things := by
    decide +kernel
  exact ⟨hHolds, hAcyclic,
    (handle_respects_capabilities letterInBox hHolds hAcyclic
      .burn (.ofLine "burn letter")).resolve_left hBurns⟩

end Scene

end TextAdventure
