import TextAdventure.Proofs.Play.Capability
import TextAdventure.Proofs.Play.Refusal

/-
  What verbs can do in the dark.

  Whatever a verb does to a thing or tells of one, it found
  the thing by the noun that names it, and so the thing is in
  reach. Only doors are opened without being named. Without
  light nothing is in reach but what is in hand.

  Main declarations:
    * `World.LiesInHand`
    * `Scene.Concerns`
    * `Scene.PassesExit`
    * `Scene.handle_concerns`
    * `Scene.handle_without_light`
-/

namespace TextAdventure

open Relation (ReflTransGen)

/- A thing is carried, or it is inside something carried. -/
def World.LiesInHand (world : World) (id : String) : Prop :=
  ∃ outer,
    ReflTransGen (Inside world.things) id outer ∧
      world.isCarried outer = true

namespace Scene

variable {scene after : Scene}
variable {command : Command}
variable {reply : Reply}
variable {thing : Thing}
variable {room : Room}

------------------------------------------------------------
-- Reach Without Light
------------------------------------------------------------

theorem isLit_eq_false_iff
    (hRoom : scene.room? = some room) :
    scene.isLit = false ↔
      room.isDark = true ∧
        scene.world.hasLight scene.session.currentRoom =
          false := by
  simp [isLit, hRoom]

/- Without light all that is in reach is in hand. -/
theorem InReach.liesInHand
    (hReach : scene.InReach thing)
    (hUnlit : scene.isLit = false) :
    scene.world.LiesInHand thing.id := by
  have hHeld : scene.world.isHeld thing.id = true := by
    have hBoth := hReach.reach
    simp only [canReach, hUnlit, Bool.false_or,
      Bool.and_eq_true] at hBoth
    exact hBoth.2
  exact (World.isHeld_iff scene.world thing.id).mp hHeld

------------------------------------------------------------
-- What A Verb Is About
------------------------------------------------------------

/-
  What a verb has done and tells of: nothing is done to any
  thing and none is told of, or all is about one thing, which
  is in reach.
-/
inductive Concerns
    (scene after : Scene)
    (reply : Reply) : Prop where
| nothing
    (hSame : after.world.things = scene.world.things)
    (hTarget : reply.target = none)
| one
    {old new : Thing}
    (hReach : scene.InReach old)
    (hChanges : scene.Changes after old new)
    (hTarget : reply.target = some old.id)

/- A verb may only look at the thing. -/
theorem InReach.concerns_self
    (hReach : scene.InReach thing)
    (message : String) :
    scene.Concerns scene (.about thing message) := by
  rcases Catalog.exists_split_of_find? hReach.known with
    ⟨front, back, hSplit, -⟩
  have hSame : scene.Changes scene thing thing :=
    ⟨hReach.known, front, back, hSplit, hSplit⟩
  exact .one hReach hSame rfl

/- A verb may change the thing where it is. -/
theorem InReach.concerns_update
    (hReach : scene.InReach thing)
    {change : Thing → Thing}
    (hThings :
      after.world.things =
        Catalog.update thing.id change scene.world.things)
    (message : String) :
    scene.Concerns after (.about thing message) :=
  .one hReach (changes_of_update hReach.known hThings) rfl

theorem InReach.concerns_updateThing
    (hReach : scene.InReach thing)
    (change : Thing → Thing)
    (message : String) :
    scene.Concerns (scene.updateThing thing.id change)
      (.about thing message) :=
  .one hReach (changes_updateThing hReach.known change) rfl

/- A verb may move the thing. -/
theorem InReach.concerns_move
    (hReach : scene.InReach thing)
    {target : Placement}
    (hMove : scene.move thing target = .ok after)
    (message : String) :
    scene.Concerns after (.about thing message) :=
  hReach.concerns_update (things_of_place (place_of_move hMove))
    message

------------------------------------------------------------
-- Looking
------------------------------------------------------------

theorem lookAround_concerns
    (hOk : scene.lookAround = .ok (after, reply)) :
    scene.Concerns after reply := by
  rcases bind_eq_ok_iff.mp hOk with ⟨text, -, hReturn⟩
  cases hReturn
  exact .nothing rfl rfl

theorem examine_concerns
    (hOk : scene.examine command = .ok (after, reply)) :
    scene.Concerns after reply := by
  unfold examine at hOk
  split at hOk
  · exact lookAround_concerns hOk
  · rcases bind_eq_ok_iff.mp hOk with
      ⟨thing, hTarget, hReturn⟩
    cases hReturn
    exact (inReach_of_target hTarget).concerns_self _

theorem look_concerns
    (hOk : scene.look command = .ok (after, reply)) :
    scene.Concerns after reply := by
  unfold look at hOk
  split at hOk
  · exact examine_concerns hOk
  · exact lookAround_concerns hOk

theorem read_concerns
    (hOk : scene.read command = .ok (after, reply)) :
    scene.Concerns after reply := by
  rcases bind_eq_ok_iff.mp hOk with ⟨thing, hTarget, hText⟩
  rcases demand_bind_eq_ok_iff.mp hText with
    ⟨text, -, hReturn⟩
  cases hReturn
  exact (inReach_of_target hTarget).concerns_self _

------------------------------------------------------------
-- Carrying And Wearing
------------------------------------------------------------

theorem take_concerns
    (hOk : scene.take command = .ok (after, reply)) :
    scene.Concerns after reply := by
  simp only [take, bind_eq_ok_iff, pure_eq_ok_iff] at hOk
  rcases hOk with ⟨thing, hTarget, held, hPickUp, hReturn⟩
  cases hReturn
  exact (inReach_of_target hTarget).concerns_update
    (things_of_place (place_of_pickUp hPickUp)) _

theorem drop_concerns
    (hOk : scene.drop command = .ok (after, reply)) :
    scene.Concerns after reply := by
  simp only [drop, bind_eq_ok_iff, pure_eq_ok_iff] at hOk
  rcases hOk with
    ⟨thing, hTarget, -, -, moved, hMove, hReturn⟩
  cases hReturn
  exact (inReach_of_target hTarget).concerns_move hMove _

theorem put_concerns
    (hOk : scene.put command = .ok (after, reply)) :
    scene.Concerns after reply := by
  simp only [put, bind_eq_ok_iff, pure_eq_ok_iff] at hOk
  rcases hOk with
    ⟨thing, hTarget, noun, -, -, -, container, -, -, -, -, -,
      -, -, moved, hMove, hReturn⟩
  cases hReturn
  exact (inReach_of_target hTarget).concerns_move hMove _

/- The thing that is picked up is the one that is put on. -/
theorem InReach.concerns_wearThing
    (hReach : scene.InReach thing)
    (hOk : scene.wearThing thing = .ok (after, reply)) :
    scene.Concerns after reply := by
  simp only [wearThing, check_bind_eq_ok_iff] at hOk
  rcases hOk with ⟨-, -, -, hHeld⟩
  split at hHeld
  · cases hHeld
    exact hReach.concerns_update
      (things_worn scene scene thing) _
  · rcases bind_eq_ok_iff.mp hHeld with
      ⟨held, hPickUp, hReturn⟩
    cases hReturn
    have hTaken := things_of_place (place_of_pickUp hPickUp)
    have hId (thing : Thing) :
        Identified.idOf (World.placeThing .carried thing) =
          Identified.idOf thing := rfl
    have hBoth := things_worn scene held thing
    rw [hTaken, Catalog.update_update hId] at hBoth
    exact hReach.concerns_update hBoth _

theorem wear_concerns
    (hOk : scene.wear command = .ok (after, reply)) :
    scene.Concerns after reply := by
  rcases bind_eq_ok_iff.mp hOk with ⟨thing, hTarget, hWear⟩
  exact (inReach_of_target hTarget).concerns_wearThing hWear

theorem remove_concerns
    (hOk : scene.remove command = .ok (after, reply)) :
    scene.Concerns after reply := by
  simp only [remove, bind_eq_ok_iff, pure_eq_ok_iff] at hOk
  rcases hOk with ⟨thing, hTarget, -, -, hReturn⟩
  cases hReturn
  exact (inReach_of_target hTarget).concerns_update
    (things_setWorn scene thing.id false) _

theorem become_concerns
    (hOk : scene.become command = .ok (after, reply)) :
    scene.Concerns after reply := by
  rcases bind_eq_ok_iff.mp hOk with
    ⟨thing, hTarget, hBecome⟩
  have hReach := inReach_of_target hTarget
  split at hBecome
  · exact hReach.concerns_wearThing hBecome
  · simp only [bind_eq_ok_iff, pure_eq_ok_iff] at hBecome
    rcases hBecome with ⟨-, -, hReturn⟩
    cases hReturn
    exact hReach.concerns_self _

------------------------------------------------------------
-- Handling
------------------------------------------------------------

theorem openThing_concerns
    (hOk : scene.openThing command = .ok (after, reply)) :
    scene.Concerns after reply := by
  simp only [openThing, bind_eq_ok_iff, pure_eq_ok_iff] at hOk
  rcases hOk with
    ⟨thing, hTarget, -, -, -, -, -, -, hReturn⟩
  cases hReturn
  exact (inReach_of_target hTarget).concerns_updateThing _ _

theorem closeThing_concerns
    (hOk : scene.closeThing command = .ok (after, reply)) :
    scene.Concerns after reply := by
  simp only [closeThing, bind_eq_ok_iff, pure_eq_ok_iff] at hOk
  rcases hOk with ⟨thing, hTarget, -, -, -, -, hReturn⟩
  cases hReturn
  exact (inReach_of_target hTarget).concerns_updateThing _ _

theorem burn_concerns
    (hOk : scene.burn command = .ok (after, reply)) :
    scene.Concerns after reply := by
  simp only [burn, bind_eq_ok_iff, pure_eq_ok_iff] at hOk
  rcases hOk with
    ⟨thing, hTarget, -, -, -, -, source, -, hReturn⟩
  cases hReturn
  exact (inReach_of_target hTarget).concerns_updateThing _ _

theorem search_concerns
    (hOk : scene.search command = .ok (after, reply)) :
    scene.Concerns after reply := by
  rcases bind_eq_ok_iff.mp hOk with
    ⟨thing, hTarget, hReturn⟩
  cases hReturn
  exact (inReach_of_target hTarget).concerns_updateThing _ _

theorem focus_concerns
    (hOk : scene.focus command = .ok (after, reply)) :
    scene.Concerns after reply := by
  rcases bind_eq_ok_iff.mp hOk with
    ⟨thing, hTarget, hReturn⟩
  cases hReturn
  exact (inReach_of_target hTarget).concerns_updateThing _ _

theorem unscrew_concerns
    (hOk : scene.unscrew command = .ok (after, reply)) :
    scene.Concerns after reply := by
  simp only [unscrew, bind_eq_ok_iff, pure_eq_ok_iff] at hOk
  rcases hOk with ⟨thing, hTarget, tool, -, hReturn⟩
  cases hReturn
  exact (inReach_of_target hTarget).concerns_updateThing _ _

theorem screw_concerns
    (hOk : scene.screw command = .ok (after, reply)) :
    scene.Concerns after reply := by
  simp only [screw, bind_eq_ok_iff, pure_eq_ok_iff] at hOk
  rcases hOk with ⟨thing, hTarget, tool, -, hReturn⟩
  cases hReturn
  exact (inReach_of_target hTarget).concerns_updateThing _ _

------------------------------------------------------------
-- Switching
------------------------------------------------------------

theorem flipSwitch_concerns
    {on : Bool}
    (hOk : scene.flipSwitch command on = .ok (after, thing))
    (message : String) :
    scene.Concerns after (.about thing message) := by
  simp only [flipSwitch, bind_eq_ok_iff, pure_eq_ok_iff] at hOk
  rcases hOk with ⟨found, hTarget, -, -, -, -, hReturn⟩
  cases hReturn
  exact (inReach_of_target hTarget).concerns_updateThing _ _

/- The room that is told of after switching is no target. -/
theorem switch_concerns
    {on : Bool}
    (hOk : scene.switch command on = (after, .ok reply)) :
    scene.Concerns after reply := by
  rcases carryOut_eq_ok_iff.mp hOk with
    ⟨thing, hFlip, hReport⟩
  dsimp only at hReport
  split at hReport
  · cases hReport
    exact flipSwitch_concerns hFlip _
  · rcases bind_eq_ok_iff.mp hReport with ⟨text, -, hReturn⟩
    cases hReturn
    exact flipSwitch_concerns hFlip _

------------------------------------------------------------
-- Moving
------------------------------------------------------------

theorem sleep_concerns
    (hOk : scene.sleep = (after, .ok reply)) :
    scene.Concerns after reply := by
  rcases carryOut_eq_ok_iff.mp hOk with
    ⟨told, hAsleep, hReport⟩
  rcases bind_eq_ok_iff.mp hAsleep with ⟨rule, -, hChange⟩
  cases hChange
  rcases bind_eq_ok_iff.mp hReport with ⟨text, -, hReturn⟩
  cases hReturn
  exact .nothing rfl rfl

theorem wake_concerns
    (hOk : scene.wake = (after, .ok reply)) :
    scene.Concerns after reply := by
  rcases carryOut_eq_ok_iff.mp hOk with
    ⟨told, hAwake, hReport⟩
  rcases bind_eq_ok_iff.mp hAwake with ⟨rule, -, hChange⟩
  cases hChange
  rcases bind_eq_ok_iff.mp hReport with ⟨text, -, hReturn⟩
  cases hReturn
  exact .nothing rfl rfl

/- The player has gone through the exit that was named. -/
structure PassesExit
    (scene : Scene)
    (command : Command)
    (after : Scene)
    (exit : Exit) : Prop where
  usable :
    ∃ noun direction,
      command.noun = some noun ∧
        Direction.ofWord? noun = some direction ∧
        scene.usableExit direction = .ok exit
  arrived : after.session.currentRoom = exit.destination

/- Opening a door changes it, if it has to be opened. -/
theorem changes_of_openDoor
    {exit : Exit}
    {told : String}
    (hOk : scene.openDoor exit = .ok (after, told)) :
    after.world.things = scene.world.things ∨
      ∃ door, scene.door? exit = some door ∧
        scene.Changes after door
          { door with isOpen := true } := by
  unfold openDoor at hOk
  split at hOk
  · cases hOk
    exact Or.inl rfl
  · rename_i door hDoor
    rcases check_bind_eq_ok_iff.mp hOk with ⟨-, hOpened⟩
    rcases Option.bind_eq_some_iff.mp hDoor with
      ⟨id, -, hThing⟩
    have hId : door.id = id := (Catalog.find?_some hThing).2
    split at hOpened
    · cases hOpened
      exact Or.inr ⟨door, hDoor,
        changes_updateThing (hId ▸ hThing) _⟩
    · cases hOpened
      exact Or.inl rfl

/-
  On the way the door of the exit may be opened, and nothing
  else becomes of any thing.
-/
theorem go_passes
    (hOk : scene.go command = (after, .ok reply)) :
    reply.target = none ∧
      ∃ exit, scene.PassesExit command after exit ∧
        (after.world.things = scene.world.things ∨
          ∃ door, scene.door? exit = some door ∧
            scene.Changes after door
              { door with isOpen := true }) := by
  rcases carryOut_eq_ok_iff.mp hOk with
    ⟨told, hPass, hReport⟩
  rcases bind_eq_ok_iff.mp hReport with ⟨text, -, hReturn⟩
  cases hReturn
  simp only [passExit, bind_eq_ok_iff, demand_eq_ok_iff,
    pure_eq_ok_iff] at hPass
  rcases hPass with
    ⟨noun, hNoun, direction, hWord, exit, hExit,
      ⟨opened, word⟩, hDoor, hReturn⟩
  cases hReturn
  have hPasses :
      scene.PassesExit command
        (opened.enterRoom exit.destination) exit :=
    ⟨⟨noun, direction, hNoun, hWord, hExit⟩,
      enterRoom_currentRoom opened exit.destination⟩
  refine ⟨rfl, exit, hPasses, ?_⟩
  rcases changes_of_openDoor hDoor with
    hSame | ⟨door, hFound, hChanges⟩
  · exact Or.inl hSame
  · exact Or.inr
      ⟨door, hFound, hChanges.known, hChanges.things⟩

------------------------------------------------------------
-- All Verbs
------------------------------------------------------------

theorem concerns_of_settle
    {handled : Handled}
    (hConcerns :
      ∀ after reply, handled = .ok (after, reply) →
        scene.Concerns after reply)
    (hOk : scene.settle handled = (after, .ok reply)) :
    scene.Concerns after reply := by
  cases handled with
  | error refusal => simp [settle] at hOk
  | ok result =>
      cases hOk
      exact hConcerns _ _ rfl

/- Every verb but going is about one thing or about none. -/
theorem handle_concerns
    {verb : Verb}
    (hNotGo : verb ≠ .go)
    (hOk : scene.handle verb command = (after, .ok reply)) :
    scene.Concerns after reply := by
  cases verb with
  | go => exact absurd rfl hNotGo
  | look =>
      exact concerns_of_settle (fun _ _ => look_concerns) hOk
  | examine =>
      exact concerns_of_settle (fun _ _ => examine_concerns) hOk
  | read =>
      exact concerns_of_settle (fun _ _ => read_concerns) hOk
  | take =>
      exact concerns_of_settle (fun _ _ => take_concerns) hOk
  | drop =>
      exact concerns_of_settle (fun _ _ => drop_concerns) hOk
  | put =>
      exact concerns_of_settle (fun _ _ => put_concerns) hOk
  | wear =>
      exact concerns_of_settle (fun _ _ => wear_concerns) hOk
  | remove =>
      exact concerns_of_settle (fun _ _ => remove_concerns) hOk
  | become =>
      exact concerns_of_settle (fun _ _ => become_concerns) hOk
  | «open» =>
      exact concerns_of_settle (fun _ _ => openThing_concerns)
        hOk
  | close =>
      exact concerns_of_settle (fun _ _ => closeThing_concerns)
        hOk
  | burn =>
      exact concerns_of_settle (fun _ _ => burn_concerns) hOk
  | search =>
      exact concerns_of_settle (fun _ _ => search_concerns) hOk
  | focus =>
      exact concerns_of_settle (fun _ _ => focus_concerns) hOk
  | unscrew =>
      exact concerns_of_settle (fun _ _ => unscrew_concerns) hOk
  | screw =>
      exact concerns_of_settle (fun _ _ => screw_concerns) hOk
  | switchOn => exact switch_concerns hOk
  | switchOff => exact switch_concerns hOk
  | sleep => exact sleep_concerns hOk
  | wake => exact wake_concerns hOk
  | inventory =>
      cases hOk
      exact .nothing rfl rfl
  | wait =>
      cases hOk
      exact .nothing rfl rfl
  | help =>
      cases hOk
      exact .nothing rfl rfl

/- Also a player who woke nowhere has touched no thing. -/
theorem things_of_wake_eq_error
    {refusal : Refusal}
    (hError : scene.wake = (after, .error refusal)) :
    after.world.things = scene.world.things := by
  rcases carryOut_eq_error_iff.mp hError with
    ⟨-, rfl⟩ | ⟨told, hAwake, -⟩
  · rfl
  · rcases bind_eq_ok_iff.mp hAwake with ⟨rule, -, hChange⟩
    cases hChange
    rfl

/- A refused verb has done nothing to any thing. -/
theorem things_of_handle_eq_error
    {verb : Verb}
    {refusal : Refusal}
    (hError :
      scene.handle verb command = (after, .error refusal)) :
    after.world.things = scene.world.things := by
  rcases handle_eq_error hError with
    ⟨rfl, -⟩ | ⟨-, rfl, -⟩
  · rfl
  · exact things_of_wake_eq_error hError

/-
  The door of the exit that the player has gone through,
  which has been opened on the way.
-/
structure IsPassedDoor
    (scene : Scene)
    (command : Command)
    (done : Done)
    (old new : Thing) : Prop where
  succeeded : ∃ reply, done.2 = .ok reply
  passed :
    ∃ exit, scene.PassesExit command done.1 exit ∧
      scene.door? exit = some old
  opened : new = { old with isOpen := true }

/- What is told of without light was in hand. -/
theorem liesInHand_of_target
    {verb : Verb}
    {id : String}
    (hUnlit : scene.isLit = false)
    (hOk : scene.handle verb command = (after, .ok reply))
    (hTarget : reply.target = some id) :
    scene.world.LiesInHand id := by
  by_cases hGo : verb = .go
  · subst hGo
    rw [(go_passes hOk).1] at hTarget
    cases hTarget
  · cases handle_concerns hGo hOk with
    | nothing hSame hNone =>
        rw [hNone] at hTarget
        cases hTarget
    | one hReach hChanges hSome =>
        rw [hSome] at hTarget
        cases hTarget
        exact hReach.liesInHand hUnlit

/- What is changed without light was in hand, or is a door. -/
theorem changes_of_unlit
    {verb : Verb}
    (hUnlit : scene.isLit = false)
    (hOk : scene.handle verb command = (after, .ok reply)) :
    after.world.things = scene.world.things ∨
      ∃ old new, scene.Changes after old new ∧
        (scene.world.LiesInHand old.id ∨
          verb = .go ∧
            scene.IsPassedDoor command (after, .ok reply)
              old new) := by
  by_cases hGo : verb = .go
  · subst hGo
    rcases go_passes hOk with ⟨-, exit, hPasses, hThings⟩
    rcases hThings with hSame | ⟨door, hDoor, hChanges⟩
    · exact Or.inl hSame
    · have hPassed :
          scene.IsPassedDoor command (after, .ok reply) door
            { door with isOpen := true } :=
        ⟨⟨reply, rfl⟩, ⟨exit, hPasses, hDoor⟩, rfl⟩
      exact Or.inr
        ⟨door, _, hChanges, Or.inr ⟨rfl, hPassed⟩⟩
  · cases handle_concerns hGo hOk with
    | nothing hSame hNone => exact Or.inl hSame
    | @one old new hReach hChanges hSome =>
        exact Or.inr
          ⟨old, new, hChanges,
            Or.inl (hReach.liesInHand hUnlit)⟩

/-
  Without light a verb by itself changes one thing at most,
  which is in hand or the door of the exit that the player
  has gone through. A thing that is told of was in hand.
-/
theorem handle_without_light
    (hRoom : scene.room? = some room)
    (hDark : room.isDark = true)
    (hNoLight :
      scene.world.hasLight scene.session.currentRoom = false)
    (verb : Verb)
    (command : Command) :
    ((scene.handle verb command).1.world.things =
        scene.world.things ∨
      ∃ old new,
        scene.Changes (scene.handle verb command).1 old new ∧
          (scene.world.LiesInHand old.id ∨
            verb = .go ∧
              scene.IsPassedDoor command
                (scene.handle verb command) old new)) ∧
      ∀ reply id,
        (scene.handle verb command).2 = .ok reply →
          reply.target = some id →
            scene.world.LiesInHand id := by
  have hUnlit :=
    (isLit_eq_false_iff hRoom).mpr ⟨hDark, hNoLight⟩
  cases hHandle : scene.handle verb command with
  | mk after result =>
      cases result with
      | error refusal =>
          refine
            ⟨Or.inl (things_of_handle_eq_error hHandle), ?_⟩
          intro reply id hOk
          cases hOk
      | ok reply =>
          refine ⟨changes_of_unlit hUnlit hHandle, ?_⟩
          intro other id hOk hTarget
          cases hOk
          exact liesInHand_of_target hUnlit hHandle hTarget

/- A coin in a bag in hand, in the dark under a hatch. -/
def darkCellar : Scene where
  world :=
    { rooms :=
        [{ id := "cellar"
           name := "Cellar"
           isDark := true
           exits :=
            [{ direction := .up
               destination := "hall"
               door := some "hatch" }] },
          { id := "hall", name := "Hall" }]
      things :=
        [{ id := "coin"
           name := "coin"
           placement := .container "bag" },
          { id := "bag"
            name := "bag"
            isContainer := true
            placement := .carried },
          { id := "hatch"
            name := "hatch"
            isOpenable := true
            placement := .room "cellar" }] }
  session :=
    { Session.starting default "cellar" with
        inventory := ["bag"] }

/-
  The hatch opens on the way out, and the coin that can be
  examined is in hand.
-/
theorem leaving_darkCellar :
    darkCellar.room? = darkCellar.world.rooms.head? ∧
      darkCellar.isLit = false ∧
      (∃ old new,
        darkCellar.Changes
            (darkCellar.handle .go (.ofLine "up")).1 old new ∧
          (darkCellar.world.LiesInHand old.id ∨
            Verb.go = .go ∧
              darkCellar.IsPassedDoor (.ofLine "up")
                (darkCellar.handle .go (.ofLine "up"))
                old new)) ∧
      darkCellar.world.LiesInHand "coin" := by
  have hOpens :
      (darkCellar.handle .go (.ofLine "up")).1.world.things ≠
        darkCellar.world.things := by
    decide +kernel
  have hLooks :
      (darkCellar.handle .examine (.ofLine "x coin")).2 =
        .ok (.about
          { id := "coin"
            name := "coin"
            placement := .container "bag" }
          "You see nothing special about the coin.") := by
    decide +kernel
  refine ⟨rfl, by decide, ?_, ?_⟩
  · exact (handle_without_light rfl rfl (by decide) .go
      (.ofLine "up")).1.resolve_left hOpens
  · exact (handle_without_light rfl rfl (by decide) .examine
      (.ofLine "x coin")).2 _ "coin" hLooks rfl

end Scene

end TextAdventure
