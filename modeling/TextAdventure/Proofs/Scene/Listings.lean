import TextAdventure.Proofs.Chain
import TextAdventure.Proofs.Content.Validity
import TextAdventure.Proofs.Scene.Consistency
import TextAdventure.Proofs.World.Progress

/-
  Scenes that differ at most in how their rooms list things.

  A thing lies where its placement says; the listing of a room
  only adds an order. No condition looks at it, and changes,
  scripts and puzzles do the same whatever it is, so scenes
  that are alike but for listings stay so.

  Main declarations:
    * `World.ListsOnce`
    * `Content.ListsOnce`
    * `Scene.IsTidy`
    * `World.unlisted`
    * `Scene.Alike`
    * `Scene.Alike.read`
    * `Scene.Alike.place`
    * `Scene.Alike.applyEffects`
    * `Scene.Alike.runScripts`
    * `Scene.Alike.evaluatePuzzles`
-/

namespace TextAdventure

------------------------------------------------------------
-- Worlds That List Once
------------------------------------------------------------

/- No room lists anything twice. -/
def World.ListsOnce (world : World) : Prop :=
  ∀ room ∈ world.rooms, room.things.Nodup

namespace World.ListsOnce

variable {before after : World}

theorem of_layout_eq
    (hOnce : before.ListsOnce)
    (hLayout : after.layout = before.layout) :
    after.ListsOnce := by
  intro room hMem
  rcases exists_room_of_layout_eq hLayout hMem with
    ⟨old, hOld, -, hThings⟩
  rw [← hThings]
  exact hOnce old hOld

/- A thing that is moved is listed where it was not. -/
theorem relocate
    (hOnce : before.ListsOnce)
    {id : String}
    {target old : Placement}
    (hOk : before.relocate id target = .ok (after, old)) :
    after.ListsOnce := by
  rcases relocate_eq_ok_iff.mp hOk with
    ⟨thing, -, -, -, rfl⟩
  have hUnlisted :
      ∀ room ∈ unlistFrom id before.rooms thing.placement,
        room.things.Nodup := by
    unfold unlistFrom
    split
    · exact Catalog.forall_mem_update hOnce
        (fun room hNodup => hNodup.filter _)
    · exact hOnce
  unfold ListsOnce
  rw [moveTo_rooms]
  unfold listAt
  split
  · apply Catalog.forall_mem_update hUnlisted
    intro room hNodup
    unfold Room.list
    split
    · exact hNodup
    · rename_i hNew
      rw [List.contains_iff_mem] at hNew
      exact List.nodup_append.mpr
        ⟨hNodup, List.nodup_singleton id, by
          intro other hOther one hOne hEq
          rw [List.mem_singleton] at hOne
          exact hNew (hOne ▸ hEq ▸ hOther)⟩
  · exact hUnlisted

end World.ListsOnce

/- No room of the content lists anything twice. -/
def Content.ListsOnce (content : Content) : Prop :=
  ∀ room ∈ content.rooms, room.things.Nodup

/- A listing that is made anew repeats only what it did. -/
theorem Content.ListsOnce.ofContent
    {content : Content}
    (hOnce : content.ListsOnce)
    (hValid : content.IsValid) :
    (World.ofContent content).ListsOnce := by
  intro placed hMem
  rw [World.ofContent_rooms hValid] at hMem
  rcases List.mem_map.mp hMem with ⟨room, hRoom, rfl⟩
  exact nodup_gather ((hOnce room hRoom).filter _) _

namespace Scene

variable {may : Value → Prop}
variable {before after : Scene}

theorem thingsIn_currentRoom
    {scene : Scene}
    {room : Room}
    (hRoom : scene.room? = some room) :
    scene.world.thingsIn scene.session.currentRoom =
      room.things.filterMap scene.world.thing? := by
  unfold room? at hRoom
  simp only [World.thingsIn, hRoom]

theorem Edit.listsOnce
    (hEdit : Edit may before after)
    (hOnce : before.world.ListsOnce) :
    after.world.ListsOnce := by
  cases hEdit with
  | place id target hPlace =>
      rcases relocate_of_place hPlace with ⟨old, hRelocate⟩
      exact hOnce.relocate hRelocate
  | putOn id hCarried =>
      exact hOnce.of_layout_eq (layout_setWorn before id true)
  | takeOff id =>
      exact hOnce.of_layout_eq (layout_setWorn before id false)
  | write id field? value hMay =>
      exact hOnce.of_layout_eq
        (World.layout_updateThing _ (by simp) (by simp) id)
  | unlock exit hUnblock =>
      exact hOnce.of_layout_eq
        (World.layout_unblockExit _ hUnblock)
  | enter room =>
      exact hOnce.of_layout_eq (World.layout_visit _ room)
  | flag flag value hMay => exact hOnce
  | condition state suspended => exact hOnce
  | solve puzzle =>
      exact hOnce.of_layout_eq (World.layout_markSolved _ puzzle)

/-
  A scene in which everything is in its place; on a condition
  it is also listed there only once.
-/
structure IsTidy (once : Prop) (scene : Scene) : Prop where
  consistent : scene.IsConsistent
  listsOnce : once → scene.world.ListsOnce

theorem IsTidy.edits
    {once : Prop}
    (hTidy : before.IsTidy once)
    (hEdits : Edits may before after) :
    after.IsTidy once where
  consistent := hTidy.consistent.edits hEdits
  listsOnce := by
    intro hOnce
    have hListsOnce := hTidy.listsOnce hOnce
    induction hEdits with
    | refl => exact hListsOnce
    | tail _ hLast ih => exact hLast.listsOnce ih

end Scene

------------------------------------------------------------
-- Worlds Without Listings
------------------------------------------------------------

namespace World

/- The world without the listings of its rooms. -/
def unlisted (world : World) : World :=
  { world with rooms := world.rooms.map Room.bare }

variable (world : World)

theorem room?_unlisted (id : String) :
    world.unlisted.room? id =
      (world.room? id).map Room.bare :=
  Catalog.find?_map (by simp) id world.rooms

theorem has_room_unlisted (id : String) :
    Catalog.has id world.unlisted.rooms =
      Catalog.has id world.rooms :=
  Catalog.has_congr
    (Catalog.ids_map (by simp) world.rooms) id

theorem unlisted_markChanged (id : String) :
    (world.markChanged id).unlisted =
      world.unlisted.markChanged id := by
  unfold markChanged
  by_cases hMarked : world.changed.contains id = true
  · rw [if_pos hMarked, if_pos]
    exact hMarked
  · rw [if_neg hMarked, if_neg]
    · rfl
    · exact hMarked

theorem unlisted_updateThing
    (id : String)
    (change : Thing → Thing) :
    (world.updateThing id change).unlisted =
      world.unlisted.updateThing id change := by
  unfold updateThing
  by_cases hKnown : Catalog.has id world.things = true
  · rw [if_pos hKnown, if_pos, unlisted_markChanged]
    · rfl
    · exact hKnown
  · rw [if_neg hKnown, if_neg]
    exact hKnown

theorem unlisted_updateRoom
    (id : String)
    {change : Room → Room}
    (hBare :
      ∀ room, (change room).bare = change room.bare) :
    (world.updateRoom id change).unlisted =
      world.unlisted.updateRoom id change := by
  have hRooms :
      (Catalog.update id change world.rooms).map Room.bare =
        Catalog.update id change
          (world.rooms.map Room.bare) :=
    Catalog.map_update_comm (by simp) hBare world.rooms
  simp only [updateRoom, unlisted, hRooms]

theorem unlisted_visit (room : String) :
    (world.visit room).unlisted = world.unlisted.visit room :=
  world.unlisted_updateRoom room (fun _ => rfl)

theorem unlisted_unblockExit (text : String) :
    (world.unblockExit text).map
        (fun opened => (opened.1.unlisted, opened.2)) =
      world.unlisted.unblockExit text := by
  unfold unblockExit
  cases ExitKey.ofText? text with
  | none => rfl
  | some key =>
      dsimp only
      rw [room?_unlisted]
      cases world.room? key.room with
      | none => rfl
      | some room =>
          have hExit :
              room.bare.exit? key.direction =
                room.exit? key.direction :=
            rfl
          simp only [Option.map_some, hExit]
          cases room.exit? key.direction with
          | none => rfl
          | some exit =>
              simp only [Except.map]
              rw [unlisted_updateRoom]
              intro other
              rfl

theorem chainMeets_unlisted
    (thing : String)
    (steps : Nat)
    (id : String) :
    world.unlisted.chainMeets thing steps id =
      world.chainMeets thing steps id := by
  induction steps generalizing id with
  | zero => rfl
  | succ steps ih =>
      simp only [chainMeets, ih]
      rfl

theorem accessibleWithin_unlisted
    (room : String)
    (steps : Nat)
    (id : String) :
    world.unlisted.accessibleWithin room steps id =
      world.accessibleWithin room steps id := by
  induction steps generalizing id with
  | zero => rfl
  | succ steps ih =>
      simp only [accessibleWithin, ih]
      rfl

theorem heldWithin_unlisted (steps : Nat) (id : String) :
    world.unlisted.heldWithin steps id =
      world.heldWithin steps id := by
  induction steps generalizing id with
  | zero => rfl
  | succ steps ih =>
      simp only [heldWithin, ih]
      rfl

theorem isAccessible_unlisted (room id : String) :
    world.unlisted.isAccessible room id =
      world.isAccessible room id :=
  world.accessibleWithin_unlisted room world.chainLimit id

theorem isHeld_unlisted (id : String) :
    world.unlisted.isHeld id = world.isHeld id :=
  world.heldWithin_unlisted world.chainLimit id

theorem wouldContainCycle_unlisted (thing container : String) :
    world.unlisted.wouldContainCycle thing container =
      world.wouldContainCycle thing container :=
  world.chainMeets_unlisted thing world.chainLimit container

theorem targetFault?_unlisted
    (id : String)
    (target : Placement) :
    world.unlisted.targetFault? id target =
      world.targetFault? id target := by
  cases target with
  | room room =>
      simp only [targetFault?, has_room_unlisted]
  | container container =>
      simp only [targetFault?, wouldContainCycle_unlisted]
      rfl
  | carried => rfl
  | nowhere => rfl

/- Where a thing goes, it is listed or not, but no more. -/
theorem unlisted_moveTo
    (id : String)
    (origin target : Placement) :
    (world.moveTo id origin target).unlisted =
      (world.unlisted.moveTo id origin target).unlisted := by
  have hLeft := world.bare_rooms_moveTo id origin target
  have hRight :=
    world.unlisted.bare_rooms_moveTo id origin target
  rw [moveTo_rooms] at hLeft hRight
  have hBare :
      world.unlisted.rooms.map Room.bare =
        world.rooms.map Room.bare := by
    simp only [unlisted, List.map_map]
    rfl
  have hRooms := hLeft.trans (hBare.symm.trans hRight.symm)
  unfold moveTo
  rw [unlisted_markChanged, unlisted_markChanged]
  congr 1
  unfold unlisted at hRooms ⊢
  dsimp only at hRooms ⊢
  rw [hRooms]

end World

------------------------------------------------------------
-- Scenes That Are Alike
------------------------------------------------------------

namespace Scene

/- The scene without the listings of its rooms. -/
def unlisted (scene : Scene) : Scene :=
  { scene with world := scene.world.unlisted }

/- Scenes that are the same but for the listings of rooms. -/
abbrev Alike (left right : Scene) : Prop :=
  left.unlisted = right.unlisted

variable {left right : Scene}

namespace Alike

/- What does not look at listings is the same in both. -/
theorem read
    {α : Type}
    (hAlike : left.Alike right)
    (look : Scene → α)
    (hLook : ∀ scene : Scene,
      look scene.unlisted = look scene) :
    look left = look right := by
  rw [← hLook left, hAlike, hLook]

theorem session (hAlike : left.Alike right) :
    left.session = right.session :=
  hAlike.read Scene.session (fun _ => rfl)

theorem thing?
    (hAlike : left.Alike right)
    (id : String) :
    left.world.thing? id = right.world.thing? id :=
  hAlike.read (fun scene => scene.world.thing? id)
    (fun _ => rfl)

theorem isWorn
    (hAlike : left.Alike right)
    (id : String) :
    left.world.isWorn id = right.world.isWorn id :=
  hAlike.read (fun scene => scene.world.isWorn id)
    (fun _ => rfl)

------------------------------------------------------------
-- Changes
------------------------------------------------------------

theorem updateThing
    (hAlike : left.Alike right)
    (id : String)
    (change : Thing → Thing) :
    (left.updateThing id change).Alike
      (right.updateThing id change) := by
  have hUnlisted (scene : Scene) :
      (scene.updateThing id change).unlisted =
        scene.unlisted.updateThing id change := by
    simp only [Scene.updateThing, unlisted,
      World.unlisted_updateThing]
  rw [Alike, hUnlisted, hUnlisted, hAlike]

/- A change of the session alone. -/
theorem withSession
    (hAlike : left.Alike right)
    (change : Session → Session) :
    ({ left with session := change left.session }
      : Scene).Alike
        { right with session := change right.session } := by
  have hUnlisted (scene : Scene) :
      ({ scene with session := change scene.session }
          : Scene).unlisted =
        { scene.unlisted with
            session := change scene.unlisted.session } :=
    rfl
  rw [Alike, hUnlisted, hUnlisted, hAlike]

theorem afterUnworn
    (hAlike : left.Alike right)
    (thing : String) :
    (left.afterUnworn thing).Alike
      (right.afterUnworn thing) := by
  have hUnlisted (scene : Scene) :
      (scene.afterUnworn thing).unlisted =
        scene.unlisted.afterUnworn thing := by
    simp only [Scene.afterUnworn]
    split <;> rename_i hVoid
    · rw [if_pos]
      · rfl
      · exact hVoid
    · rw [if_neg]
      exact hVoid
  rw [Alike, hUnlisted, hUnlisted, hAlike]

theorem setWorn
    (hAlike : left.Alike right)
    (thing : String)
    (worn : Bool) :
    (left.setWorn thing worn).Alike
      (right.setWorn thing worn) := by
  have hMarked :=
    hAlike.updateThing thing
      (fun thing => { thing with isWorn := worn })
  cases worn with
  | true =>
      exact hMarked.withSession
        (fun session => session.putOn thing)
  | false =>
      exact (hMarked.withSession
        (fun session => session.takeOff thing)).afterUnworn
          thing

theorem enterRoom
    (hAlike : left.Alike right)
    (room : String) :
    (left.enterRoom room).Alike (right.enterRoom room) := by
  have hUnlisted (scene : Scene) :
      (scene.enterRoom room).unlisted =
        scene.unlisted.enterRoom room := by
    simp only [Scene.enterRoom, unlisted, World.unlisted_visit]
  rw [Alike, hUnlisted, hUnlisted, hAlike]

theorem setFlag
    (hAlike : left.Alike right)
    (flag : String)
    (value : Value) :
    (left.setFlag flag value).Alike
      (right.setFlag flag value) :=
  hAlike.withSession (fun session => session.setFlag flag value)

theorem setPlayerState
    (hAlike : left.Alike right)
    (state : PlayerState) :
    (left.setPlayerState state).Alike
      (right.setPlayerState state) :=
  hAlike.withSession
    (fun session => { session with playerState := state })

theorem markSolved
    (hAlike : left.Alike right)
    (puzzle : String) :
    (left.markSolved puzzle).Alike
      (right.markSolved puzzle) := by
  have hUnlisted (scene : Scene) :
      (scene.markSolved puzzle).unlisted =
        scene.unlisted.markSolved puzzle :=
    rfl
  rw [Alike, hUnlisted, hUnlisted, hAlike]

/- Things are relocated alike, or refused alike. -/
theorem relocate
    (hAlike : left.Alike right)
    (id : String)
    (target : Placement) :
    Agrees
      (fun one other => one.1.unlisted = other.1.unlisted)
      (left.world.relocate id target)
      (right.world.relocate id target) := by
  have hFault :
      left.world.targetFault? id target =
        right.world.targetFault? id target :=
    hAlike.read
      (fun scene => scene.world.targetFault? id target)
      (fun scene => scene.world.targetFault?_unlisted id target)
  have hWorld : left.world.unlisted = right.world.unlisted :=
    hAlike.read (fun scene => scene.unlisted.world)
      (fun scene => by
        simp only [unlisted, World.unlisted, List.map_map]
        rfl)
  have hMoved (origin : Placement) :
      (left.world.moveTo id origin target).unlisted =
        (right.world.moveTo id origin target).unlisted := by
    rw [World.unlisted_moveTo, hWorld,
      ← World.unlisted_moveTo]
  unfold World.relocate
  rw [hAlike.thing?, hFault]
  cases right.world.thing? id with
  | none => exact .error _
  | some thing =>
      cases right.world.targetFault? id target with
      | some fault => exact .error fault
      | none => exact .ok (hMoved thing.placement)

/- Things are placed alike, or refused alike. -/
theorem place
    (hAlike : left.Alike right)
    (id : String)
    (target : Placement) :
    Agrees Alike (left.place id target)
      (right.place id target) := by
  have hRelocate := hAlike.relocate id target
  have hScene
      {one other : World}
      (hSame : one.unlisted = other.unlisted)
      (session : Session) :
      Alike { world := one, session }
        { world := other, session } := by
    simp only [Alike, unlisted, hSame]
  unfold Scene.place
  rw [hAlike.isWorn, hAlike.session]
  revert hRelocate
  generalize left.world.relocate id target = one
  generalize right.world.relocate id target = other
  rintro (fault | hSame)
  · exact .error fault
  · dsimp only
    split
    · exact .ok (hScene hSame _)
    · split
      · exact .ok ((hScene hSame _).afterUnworn id)
      · exact .ok (hScene hSame _)

------------------------------------------------------------
-- Effects
------------------------------------------------------------

theorem unlockExit
    (hAlike : left.Alike right)
    (exit : String) :
    (left.unlockExit exit).value.Alike
      (right.unlockExit exit).value := by
  have hUnlisted (scene : Scene) :
      (scene.unlockExit exit).value.unlisted =
        (scene.unlisted.unlockExit exit).value := by
    have hOpened := scene.world.unlisted_unblockExit exit
    unfold Scene.unlockExit
    simp only [unlisted]
    rw [← hOpened]
    cases scene.world.unblockExit exit <;> rfl
  rw [Alike, hUnlisted, hUnlisted, hAlike]

theorem reveal
    (hAlike : left.Alike right)
    (thing : String) :
    (left.reveal thing).value.Alike
      (right.reveal thing).value := by
  unfold Scene.reveal
  rw [hAlike.thing?]
  cases right.world.thing? thing with
  | none => exact hAlike
  | some found => exact hAlike.updateThing thing _

theorem moveThing
    (hAlike : left.Alike right)
    (thing room : String) :
    (left.moveThing thing room).value.Alike
      (right.moveThing thing room).value := by
  have hPlace := hAlike.place thing (.room room)
  unfold Scene.moveThing
  revert hPlace
  generalize left.place thing (.room room) = one
  generalize right.place thing (.room room) = other
  rintro (fault | hMoved)
  · exact hAlike
  · exact hMoved

theorem setWornIfCarried
    (hAlike : left.Alike right)
    (id : String)
    (worn : Bool) :
    (left.setWornIfCarried id worn).value.Alike
      (right.setWornIfCarried id worn).value := by
  unfold Scene.setWornIfCarried
  rw [hAlike.thing?]
  cases right.world.thing? id with
  | none => exact hAlike
  | some thing =>
      dsimp only
      split
      · exact hAlike
      · split
        · exact hAlike
        · exact hAlike.setWorn id worn

theorem setProperty
    (hAlike : left.Alike right)
    (id path : String)
    (value : Value) :
    (left.setProperty id path value).value.Alike
      (right.setProperty id path value).value := by
  unfold Scene.setProperty
  rw [hAlike.thing?]
  have hChanged :=
    hAlike.updateThing id (writeProperty path value)
  dsimp only
  split <;> exact hChanged

theorem applyEffect
    (hAlike : left.Alike right)
    (effect : Effect) :
    (left.applyEffect effect).value.Alike
      (right.applyEffect effect).value := by
  cases effect with
  | unlockExit exit => exact hAlike.unlockExit exit
  | revealThing thing => exact hAlike.reveal thing
  | setFlag flag value => exact hAlike.setFlag flag value
  | moveThing thing room => exact hAlike.moveThing thing room
  | triggerEvent event => exact hAlike.setFlag _ _
  | setProperty thing path value =>
      simp only [Scene.applyEffect]
      split
      · exact hAlike.setWornIfCarried thing _
      · exact hAlike.setProperty thing path value
  | setPlayerState state => exact hAlike.setPlayerState state

theorem applyEffects
    (hAlike : left.Alike right)
    (effects : List Effect) :
    (left.applyEffects effects).value.Alike
      (right.applyEffects effects).value := by
  induction effects generalizing left right with
  | nil => exact hAlike
  | cons effect rest ih => exact ih (hAlike.applyEffect effect)

------------------------------------------------------------
-- Scripts
------------------------------------------------------------

theorem runScript
    (hAlike : left.Alike right)
    (script : Script) :
    (left.runScript script).value.Alike
      (right.runScript script).value := by
  have hEffects := hAlike.applyEffects script.effects
  unfold Scene.runScript Logged.map
  dsimp only
  split
  · exact hEffects.setFlag _ _
  · exact hEffects

theorem runEach
    (hAlike : left.Alike right)
    (scripts : List Script) :
    (left.runEach scripts).value.Alike
      (right.runEach scripts).value := by
  induction scripts generalizing left right with
  | nil => exact hAlike
  | cons script rest ih => exact ih (hAlike.runScript script)

/- The same scripts run and say the same. -/
theorem runScripts
    (hAlike : left.Alike right)
    (thing : String)
    (verb : Verb) :
    (left.runScripts thing verb).value.1.Alike
        (right.runScripts thing verb).value.1 ∧
      (left.runScripts thing verb).value.2 =
        (right.runScripts thing verb).value.2 := by
  have hPending :
      left.pendingScripts thing verb =
        right.pendingScripts thing verb :=
    hAlike.read (fun scene => scene.pendingScripts thing verb)
      (fun _ => rfl)
  unfold Scene.runScripts Logged.map
  dsimp only
  rw [hPending]
  exact ⟨hAlike.runEach _, rfl⟩

end Alike

end Scene

------------------------------------------------------------
-- Puzzles
------------------------------------------------------------

namespace Evaluation

variable {left right : Evaluation}

/- Evaluations that have come to the same in alike scenes. -/
structure Alike (left right : Evaluation) : Prop where
  scene : left.scene.Alike right.scene
  solved : left.solved = right.solved
  messages : left.messages = right.messages

namespace Alike

theorem consider
    (hAlike : left.Alike right)
    (puzzle : Puzzle) :
    (left.consider puzzle).Alike (right.consider puzzle) := by
  have hReady :
      left.scene.isReady puzzle = right.scene.isReady puzzle :=
    hAlike.scene.read (fun scene => scene.isReady puzzle)
      (fun _ => rfl)
  unfold Evaluation.consider
  rw [hReady]
  split
  · exact
      { scene :=
          (hAlike.scene.markSolved puzzle.id).applyEffects
            puzzle.effects
        solved := by
          simp only [Evaluation.solve, hAlike.solved]
        messages := by
          simp only [Evaluation.solve, hAlike.messages] }
  · exact hAlike

theorem foldl
    (hAlike : left.Alike right)
    (puzzles : List Puzzle) :
    (puzzles.foldl Evaluation.consider left).Alike
      (puzzles.foldl Evaluation.consider right) := by
  induction puzzles generalizing left right with
  | nil => exact hAlike
  | cons puzzle rest ih => exact ih (hAlike.consider puzzle)

theorem pass (hAlike : left.Alike right) :
    left.pass.Alike right.pass := by
  have hPuzzles :
      left.scene.world.puzzles = right.scene.world.puzzles :=
    hAlike.scene.read (fun scene => scene.world.puzzles)
      (fun _ => rfl)
  unfold Evaluation.pass
  rw [hPuzzles]
  exact hAlike.foldl right.scene.world.puzzles

theorem passes
    (hAlike : left.Alike right)
    (limit : Nat) :
    (Evaluation.passes limit left).Alike
      (Evaluation.passes limit right) := by
  induction limit generalizing left right with
  | zero =>
      exact ⟨hAlike.scene, hAlike.solved, hAlike.messages⟩
  | succ limit ih =>
      have hPass := hAlike.pass
      unfold Evaluation.passes
      dsimp only
      have hSame :
          left.pass.solved.length = left.solved.length ↔
            right.pass.solved.length =
              right.solved.length := by
        rw [hPass.solved, hAlike.solved]
      by_cases hIdle :
          left.pass.solved.length = left.solved.length
      · rw [if_pos hIdle, if_pos (hSame.mp hIdle)]
        exact ⟨hPass.scene, hPass.solved, hPass.messages⟩
      · rw [if_neg hIdle, if_neg (fun h => hIdle (hSame.mpr h))]
        exact ih hPass

end Alike

end Evaluation

/- The same puzzles are solved. -/
theorem Scene.Alike.evaluatePuzzles
    {left right : Scene}
    (hAlike : left.Alike right)
    (limit : UInt64) :
    (left.evaluatePuzzles limit).Alike
      (right.evaluatePuzzles limit) := by
  have hStart :
      Evaluation.Alike { scene := left } { scene := right } :=
    ⟨hAlike, rfl, rfl⟩
  have hPasses := hStart.passes limit.toNat
  unfold Scene.evaluatePuzzles
  dsimp only
  split <;> split <;>
    exact ⟨hPasses.scene, hPasses.solved, hPasses.messages⟩

end TextAdventure
