import TextAdventure.Proofs.Play.Edits
import TextAdventure.Proofs.Scene.Listings

/-
  Verbs in scenes that differ at most in how rooms list things.

  A verb finds, refuses and changes the same in both, and says
  the same as long as it does not describe a room. Only there
  the same things may be named in another order.

  Main declarations:
    * `Retold`
    * `Scene.Alike.target`
    * `Scene.Told`
    * `Scene.Alike.settle`
    * `Scene.Alike.take`
-/

namespace TextAdventure

open Relation (ReflTransGen)

variable {once : Prop}

------------------------------------------------------------
-- Texts
------------------------------------------------------------

/- A text stands between the same texts, whatever it is. -/
theorem Text.exists_joinWith
    (separator : String)
    (earlier later : List String) :
    ∃ before after, ∀ text,
      joinWith separator (earlier ++ text :: later) =
        before ++ text ++ after := by
  induction earlier with
  | nil =>
      cases later with
      | nil => exact ⟨"", "", by simp [joinWith]⟩
      | cons next rest =>
          refine ⟨"", separator ++
            joinWith separator (next :: rest), ?_⟩
          intro text
          simp [joinWith, String.append_assoc]
  | cons first rest ih =>
      rcases ih with ⟨before, after, hJoin⟩
      refine ⟨first ++ separator ++ before, after, ?_⟩
      intro text
      have hCons :
          joinWith separator
              (first :: (rest ++ text :: later)) =
            first ++ separator ++
              joinWith separator (rest ++ text :: later) := by
        cases rest <;> rfl
      rw [List.cons_append, hCons, hJoin]
      simp only [String.append_assoc]

/- What a description says before it comes to the things. -/
def Scene.openingText (room : Room) : String :=
  room.name ++
    (if room.description = "" then ""
      else "\n" ++ room.description)

/- What a description says of the things that a room lists. -/
def Scene.listingText
    (scene : Scene)
    (things : List Thing) : String :=
  (if things.isEmpty then ""
    else "\nYou can see: " ++ listThings things ++ ".") ++
    String.join (things.map scene.contentsText)

/-
  Two texts that are the same, but for the order in which they
  tell of the things that a room lists. On a condition they
  also tell of each thing equally often.
-/
def Retold (once : Prop) (left right : String) : Prop :=
  ∃ (scene : Scene) (before after : String)
      (things others : List Thing),
    (∀ thing, thing ∈ things ↔ thing ∈ others) ∧
      (once → things.Perm others) ∧
      left = before ++ scene.listingText things ++ after ∧
      right = before ++ scene.listingText others ++ after

namespace Retold

variable {left right : String}

theorem refl (text : String) : Retold once text text := by
  refine ⟨⟨{}, .starting default ""⟩, text, "", [], [],
    fun _ => Iff.rfl, fun _ => .refl _, ?_, ?_⟩ <;>
      simp [Scene.listingText, String.join]

theorem symm (hRetold : Retold once left right) :
    Retold once right left := by
  rcases hRetold with
    ⟨scene, before, after, things, others, hMem, hPerm, hLeft,
      hRight⟩
  exact ⟨scene, before, after, others, things,
    fun thing => (hMem thing).symm,
    fun hOnce => (hPerm hOnce).symm, hRight, hLeft⟩

theorem wrap
    (hRetold : Retold once left right)
    (before after : String) :
    Retold once (before ++ left ++ after)
      (before ++ right ++ after) := by
  rcases hRetold with
    ⟨scene, earlier, later, things, others, hMem, hPerm, rfl,
      rfl⟩
  exact ⟨scene, before ++ earlier, later ++ after, things,
    others, hMem, hPerm, by simp only [String.append_assoc],
    by simp only [String.append_assoc]⟩

theorem eq_empty
    (hRetold : Retold once left right)
    (hEmpty : left = "") :
    right = "" := by
  rcases hRetold with
    ⟨scene, before, after, things, others, hMem, -, rfl, rfl⟩
  simp only [String.append_eq_empty_iff] at hEmpty
  rcases hEmpty with ⟨⟨rfl, hListing⟩, rfl⟩
  have hNone : things = [] := by
    cases things with
    | nil => rfl
    | cons thing rest => simp [Scene.listingText] at hListing
  have hOthers : others = [] := by
    apply List.eq_nil_iff_forall_not_mem.mpr
    intro thing hOther
    have hThing := (hMem thing).mpr hOther
    rw [hNone] at hThing
    exact List.not_mem_nil hThing
  rw [hOthers]
  simp [Scene.listingText, String.join]

/- Lines of which one is told in another way. -/
theorem joinLines
    (hRetold : Retold once left right)
    (earlier later : List String) :
    Retold once (Text.joinLines (earlier ++ left :: later))
      (Text.joinLines (earlier ++ right :: later)) := by
  by_cases hLeft : left = ""
  · rw [hRetold.eq_empty hLeft, hLeft]
    exact refl _
  · have hRight : right ≠ "" :=
      fun hRight => hLeft (hRetold.symm.eq_empty hRight)
    rcases Text.exists_joinWith "\n"
        (earlier.filter (fun text => text != ""))
        (later.filter (fun text => text != "")) with
      ⟨before, after, hJoin⟩
    have hLines {text : String} (hText : text ≠ "") :
        Text.joinLines (earlier ++ text :: later) =
          before ++ text ++ after := by
      rw [← hJoin]
      simp [Text.joinLines, hText]
    rw [hLines hLeft, hLines hRight]
    exact hRetold.wrap before after

end Retold

/- Replies about the same that are told in another way. -/
structure Reply.Alike
    (once : Prop)
    (left right : Reply) : Prop where
  message : Retold once left.message right.message
  target : left.target = right.target

namespace Scene

variable {left right : Scene}

------------------------------------------------------------
-- Looking Things Up
------------------------------------------------------------

section Unlisted

variable (scene : Scene)

theorem room?_unlisted :
    scene.unlisted.room? = scene.room?.map Room.bare :=
  scene.world.room?_unlisted scene.session.currentRoom

theorem isLit_unlisted :
    scene.unlisted.isLit = scene.isLit := by
  unfold isLit
  rw [room?_unlisted]
  cases scene.room? <;> rfl

theorem canReach_unlisted :
    scene.unlisted.canReach = scene.canReach := by
  funext thing
  unfold canReach
  rw [isLit_unlisted, unlisted, World.isAccessible_unlisted,
    World.isHeld_unlisted]

theorem missing_unlisted (noun : String) :
    scene.unlisted.missing noun = scene.missing noun := by
  have hAccessible :
      (scene.unlisted.world.things.filter fun thing =>
          scene.unlisted.world.isAccessible
            scene.unlisted.session.currentRoom thing.id) =
        scene.world.things.filter fun thing =>
          scene.world.isAccessible
            scene.session.currentRoom thing.id :=
    List.filter_congr (fun thing _ =>
      scene.world.isAccessible_unlisted _ thing.id)
  unfold missing
  rw [isLit_unlisted, hAccessible]

theorem resolve_unlisted (noun : String) :
    scene.unlisted.resolve noun = scene.resolve noun := by
  have hFind (noun : String) :
      scene.unlisted.world.findWhere? noun scene.canReach =
        scene.world.findWhere? noun scene.canReach :=
    rfl
  simp only [resolve, canReach_unlisted, missing_unlisted,
    hFind]

theorem named_unlisted (noun : String) :
    scene.unlisted.named noun = scene.named noun := by
  simp only [named, resolve_unlisted]
  rfl

theorem target_unlisted (command : Command) (verb : Verb) :
    scene.unlisted.target command verb =
      scene.target command verb := by
  simp only [target, named_unlisted]

theorem fireSource_unlisted (noun : Option String) :
    scene.unlisted.fireSource noun = scene.fireSource noun := by
  cases noun with
  | none => rfl
  | some noun => simp only [fireSource, named_unlisted]

theorem checkScrews_unlisted
    (command : Command)
    (thing : Thing)
    (unscrewing : Bool) :
    scene.unlisted.checkScrews command thing unscrewing =
      scene.checkScrews command thing unscrewing := by
  have hMeans (tool : String) (noun : Option String) :
      scene.unlisted.meansTool tool noun =
        scene.meansTool tool noun := by
    cases noun with
    | none => rfl
    | some noun => simp only [meansTool, resolve_unlisted]
  simp only [checkScrews, hMeans]
  rfl

theorem usableExit_unlisted (direction : Direction) :
    scene.unlisted.usableExit direction =
      scene.usableExit direction := by
  unfold usableExit
  rw [room?_unlisted]
  cases scene.room? with
  | none => rfl
  | some room =>
      simp only [unlisted, World.has_room_unlisted]
      rfl

theorem sleepRule_unlisted :
    scene.unlisted.sleepRule = scene.sleepRule := by
  simp only [sleepRule, unlisted, World.has_room_unlisted]
  rfl

end Unlisted

namespace Alike

theorem isLit (hAlike : left.Alike right) :
    left.isLit = right.isLit :=
  hAlike.read Scene.isLit isLit_unlisted

theorem named
    (hAlike : left.Alike right)
    (noun : String) :
    left.named noun = right.named noun :=
  hAlike.read (fun scene => scene.named noun)
    (fun scene => scene.named_unlisted noun)

theorem target
    (hAlike : left.Alike right)
    (command : Command)
    (verb : Verb) :
    left.target command verb = right.target command verb :=
  hAlike.read (fun scene => scene.target command verb)
    (fun scene => scene.target_unlisted command verb)

theorem visibleContents
    (hAlike : left.Alike right)
    (container : String) :
    left.visibleContents container =
      right.visibleContents container :=
  hAlike.read (fun scene => scene.visibleContents container)
    (fun _ => rfl)

------------------------------------------------------------
-- Results Of Verbs
------------------------------------------------------------

end Alike

/- A change of alike scenes that is reported alike. -/
structure Told
    (once : Prop)
    (left right : Scene × Reply) : Prop where
  scene : left.1.Alike right.1
  reply : left.2.Alike once right.2

/- A change of alike scenes that is told in the same words. -/
theorem Alike.told
    (hAlike : left.Alike right)
    (reply : Reply) :
    Told once (left, reply) (right, reply) where
  scene := hAlike
  reply := ⟨.refl reply.message, rfl⟩

/- What a verb leaves of alike scenes, and its report. -/
structure Finished
    (once : Prop)
    (left right : Done) : Prop where
  scene : left.1.Alike right.1
  reply : Agrees (Reply.Alike once) left.2 right.2

theorem Alike.settle
    (hAlike : left.Alike right)
    {handled other : Handled}
    (hHandled : Agrees (Told once) handled other) :
    Finished once (left.settle handled)
      (right.settle other) := by
  cases hHandled with
  | error refusal => exact ⟨hAlike, .error refusal⟩
  | ok hTold => exact ⟨hTold.scene, .ok hTold.reply⟩

------------------------------------------------------------
-- Carrying
------------------------------------------------------------

namespace Alike

theorem move
    (hAlike : left.Alike right)
    (thing : Thing)
    (target : Placement) :
    Agrees Alike (left.move thing target)
      (right.move thing target) := by
  have hPlace := hAlike.place thing.id target
  unfold Scene.move
  revert hPlace
  generalize left.place thing.id target = one
  generalize right.place thing.id target = other
  rintro (fault | hMoved)
  · exact .error _
  · exact .ok hMoved

theorem pickUp
    (hAlike : left.Alike right)
    (thing : Thing) :
    Agrees Alike (left.pickUp thing) (right.pickUp thing) := by
  refine Agrees.chain (fun _ => ?_)
  refine Agrees.chain (fun _ => ?_)
  exact hAlike.move thing .carried

theorem take
    (hAlike : left.Alike right)
    (command : Command) :
    Agrees (Told once) (left.take command)
      (right.take command) := by
  unfold Scene.take
  rw [hAlike.target]
  refine Agrees.chain (fun thing => ?_)
  exact (hAlike.pickUp thing).bind
    (fun _ _ hHeld => .ok (hHeld.told _))

theorem drop
    (hAlike : left.Alike right)
    (command : Command) :
    Agrees (Told once) (left.drop command)
      (right.drop command) := by
  unfold Scene.drop
  rw [hAlike.target, hAlike.session]
  refine Agrees.chain (fun thing => ?_)
  refine Agrees.chain (fun _ => ?_)
  exact (hAlike.move thing _).bind
    (fun _ _ hMoved => .ok (hMoved.told _))

theorem put
    (hAlike : left.Alike right)
    (command : Command) :
    Agrees (Told once) (left.put command)
      (right.put command) := by
  have hCycle (thing container : String) :
      left.world.wouldContainCycle thing container =
        right.world.wouldContainCycle thing container :=
    hAlike.read
      (fun scene =>
        scene.world.wouldContainCycle thing container)
      (fun scene =>
        scene.world.wouldContainCycle_unlisted thing container)
  unfold Scene.put
  rw [hAlike.target]
  refine Agrees.chain (fun thing => ?_)
  refine Agrees.chain (fun noun => ?_)
  refine Agrees.chain (fun _ => ?_)
  rw [hAlike.named]
  refine Agrees.chain (fun container => ?_)
  rw [hCycle]
  refine Agrees.chain (fun _ => ?_)
  refine Agrees.chain (fun _ => ?_)
  refine Agrees.chain (fun _ => ?_)
  exact (hAlike.move thing _).bind
    (fun _ _ hMoved => .ok (hMoved.told _))

------------------------------------------------------------
-- Wearing
------------------------------------------------------------

theorem enterVoid (hAlike : left.Alike right) :
    left.enterVoid.Alike right.enterVoid :=
  hAlike.withSession (fun session =>
    { session with
        suspendedState := some session.playerState
        playerState := .void })

theorem turnsIntoVoid
    (hAlike : left.Alike right)
    (thing : Thing) :
    left.turnsIntoVoid thing = right.turnsIntoVoid thing :=
  hAlike.read (fun scene => scene.turnsIntoVoid thing)
    (fun _ => rfl)

theorem wearThing
    (hAlike : left.Alike right)
    (thing : Thing) :
    Agrees (Told once) (left.wearThing thing)
      (right.wearThing thing) := by
  have hHere :
      left.hasHoldHere thing = right.hasHoldHere thing :=
    hAlike.read (fun scene => scene.hasHoldHere thing)
      (fun _ => rfl)
  have hText : left.wearText thing = right.wearText thing :=
    hAlike.read (fun scene => scene.wearText thing)
      (fun _ => rfl)
  have hPutOn
      {one other : Scene}
      (hHeld : one.Alike other) :
      Alike
        (if right.turnsIntoVoid thing then
          (one.setWorn thing.id true).enterVoid
        else
          one.setWorn thing.id true)
        (if right.turnsIntoVoid thing then
          (other.setWorn thing.id true).enterVoid
        else
          other.setWorn thing.id true) := by
    have hWorn := hHeld.setWorn thing.id true
    split
    · exact hWorn.enterVoid
    · exact hWorn
  unfold Scene.wearThing
  rw [hHere, hText, hAlike.turnsIntoVoid]
  refine Agrees.chain (fun _ => ?_)
  refine Agrees.chain (fun _ => ?_)
  refine Agrees.chain (fun _ => ?_)
  dsimp only
  split
  · exact .ok ((hPutOn hAlike).told _)
  · exact (hAlike.pickUp thing).bind
      (fun _ _ hHeld => .ok ((hPutOn hHeld).told _))

theorem wear
    (hAlike : left.Alike right)
    (command : Command) :
    Agrees (Told once) (left.wear command)
      (right.wear command) := by
  unfold Scene.wear
  rw [hAlike.target]
  exact Agrees.chain (fun thing => hAlike.wearThing thing)

theorem remove
    (hAlike : left.Alike right)
    (command : Command) :
    Agrees (Told once) (left.remove command)
      (right.remove command) := by
  unfold Scene.remove
  rw [hAlike.target, hAlike.session]
  refine Agrees.chain (fun thing => ?_)
  refine Agrees.chain (fun _ => ?_)
  have hOff := hAlike.setWorn thing.id false
  dsimp only
  rw [hOff.session]
  exact .ok (hOff.told _)

------------------------------------------------------------
-- Handling
------------------------------------------------------------

theorem setOpen
    (hAlike : left.Alike right)
    (id : String)
    (isOpen : Bool) :
    (left.setOpen id isOpen).Alike (right.setOpen id isOpen) :=
  hAlike.updateThing id _

theorem mark
    (hAlike : left.Alike right)
    (thing : Thing)
    (key : String)
    (value : Bool) :
    (left.mark thing key value).Alike
      (right.mark thing key value) :=
  hAlike.updateThing thing.id _

theorem openThing
    (hAlike : left.Alike right)
    (command : Command) :
    Agrees (Told once) (left.openThing command)
      (right.openThing command) := by
  unfold Scene.openThing
  rw [hAlike.target]
  refine Agrees.chain (fun thing => ?_)
  refine Agrees.chain (fun _ => ?_)
  refine Agrees.chain (fun _ => ?_)
  refine Agrees.chain (fun _ => ?_)
  have hOpen := hAlike.setOpen thing.id true
  dsimp only
  rw [hOpen.visibleContents]
  exact .ok (hOpen.told _)

theorem closeThing
    (hAlike : left.Alike right)
    (command : Command) :
    Agrees (Told once) (left.closeThing command)
      (right.closeThing command) := by
  unfold Scene.closeThing
  rw [hAlike.target]
  refine Agrees.chain (fun thing => ?_)
  refine Agrees.chain (fun _ => ?_)
  refine Agrees.chain (fun _ => ?_)
  exact .ok ((hAlike.setOpen thing.id false).told _)

theorem burn
    (hAlike : left.Alike right)
    (command : Command) :
    Agrees (Told once) (left.burn command)
      (right.burn command) := by
  have hSource (noun : Option String) :
      left.fireSource noun = right.fireSource noun :=
    hAlike.read (fun scene => scene.fireSource noun)
      (fun scene => scene.fireSource_unlisted noun)
  unfold Scene.burn
  rw [hAlike.target, hSource]
  refine Agrees.chain (fun thing => ?_)
  refine Agrees.chain (fun _ => ?_)
  refine Agrees.chain (fun _ => ?_)
  refine Agrees.chain (fun source => ?_)
  exact .ok ((hAlike.mark thing _ true).told _)

theorem search
    (hAlike : left.Alike right)
    (command : Command) :
    Agrees (Told once) (left.search command)
      (right.search command) := by
  unfold Scene.search
  rw [hAlike.target]
  refine Agrees.chain (fun thing => ?_)
  have hMarked := hAlike.mark thing CustomKey.searched true
  dsimp only
  rw [hMarked.visibleContents]
  exact .ok (hMarked.told _)

theorem focus
    (hAlike : left.Alike right)
    (command : Command) :
    Agrees (Told once) (left.focus command)
      (right.focus command) := by
  unfold Scene.focus
  rw [hAlike.target]
  refine Agrees.chain (fun thing => ?_)
  exact .ok ((hAlike.mark thing _ true).told _)

theorem become
    (hAlike : left.Alike right)
    (command : Command) :
    Agrees (Told once) (left.become command)
      (right.become command) := by
  have hVoid (thing : String) :
      left.world.rules.isVoidThing thing =
        right.world.rules.isVoidThing thing :=
    hAlike.read
      (fun scene => scene.world.rules.isVoidThing thing)
      (fun _ => rfl)
  have hPending (thing : String) :
      left.pendingScripts thing .become =
        right.pendingScripts thing .become :=
    hAlike.read
      (fun scene => scene.pendingScripts thing .become)
      (fun _ => rfl)
  unfold Scene.become
  rw [hAlike.target]
  refine Agrees.chain (fun thing => ?_)
  rw [hVoid]
  split
  · exact hAlike.wearThing thing
  · rw [hPending]
    refine Agrees.chain (fun _ => ?_)
    exact .ok (hAlike.told _)

theorem checkScrews
    (hAlike : left.Alike right)
    (command : Command)
    (thing : Thing)
    (unscrewing : Bool) :
    left.checkScrews command thing unscrewing =
      right.checkScrews command thing unscrewing :=
  hAlike.read
    (fun scene => scene.checkScrews command thing unscrewing)
    (fun scene =>
      scene.checkScrews_unlisted command thing unscrewing)

theorem unscrew
    (hAlike : left.Alike right)
    (command : Command) :
    Agrees (Told once) (left.unscrew command)
      (right.unscrew command) := by
  unfold Scene.unscrew
  rw [hAlike.target]
  refine Agrees.chain (fun thing => ?_)
  rw [hAlike.checkScrews]
  refine Agrees.chain (fun tool => ?_)
  exact .ok ((hAlike.mark thing _ false).told _)

theorem screw
    (hAlike : left.Alike right)
    (command : Command) :
    Agrees (Told once) (left.screw command)
      (right.screw command) := by
  unfold Scene.screw
  rw [hAlike.target]
  refine Agrees.chain (fun thing => ?_)
  rw [hAlike.checkScrews]
  refine Agrees.chain (fun _ => ?_)
  exact .ok ((hAlike.mark thing _ true).told _)

------------------------------------------------------------
-- Looking
------------------------------------------------------------

theorem read_told
    (hAlike : left.Alike right)
    (command : Command) :
    Agrees (Told once) (left.read command)
      (right.read command) := by
  unfold Scene.read
  rw [hAlike.target]
  refine Agrees.chain (fun thing => ?_)
  refine Agrees.chain (fun text => ?_)
  exact .ok (hAlike.told _)

theorem takeStock (hAlike : left.Alike right) :
    Told once left.takeStock right.takeStock := by
  have hCarried : left.carriedThings = right.carriedThings :=
    hAlike.read Scene.carriedThings (fun _ => rfl)
  unfold Scene.takeStock
  rw [hCarried]
  exact hAlike.told _

end Alike

end Scene

end TextAdventure
