import TextAdventure.Proofs.Play.Listings

/-
  Turns in scenes that differ at most in how rooms list things.

  If everything is in its place in both, then their rooms list
  the same things and are described alike. So every command
  leads to scenes that are alike again and comes to the same.

  Main declarations:
    * `Scene.Twins`
    * `Scene.Twins.describeRoom`
    * `Scene.Twins.handle`
    * `Outcome.Alike`
    * `Scene.Twins.perform`
-/

namespace TextAdventure

variable {once : Prop}

namespace Scene

variable {left right : Scene}

------------------------------------------------------------
-- Describing Rooms
------------------------------------------------------------

/- Scenes that are alike and in each of which all is tidy. -/
structure Twins
    (once : Prop)
    (left right : Scene) : Prop where
  alike : left.Alike right
  left : left.IsTidy once
  right : right.IsTidy once

/- The current room lists what is placed in it. -/
theorem IsConsistent.mem_things_iff
    {scene : Scene}
    (hConsistent : scene.IsConsistent)
    {room : Room}
    (hRoom : scene.room? = some room)
    (id : String) :
    id ∈ room.things ↔
      scene.world.Places id
        (.room scene.session.currentRoom) := by
  have hFound :=
    (Catalog.find?_eq_some_iff
      hConsistent.coherent.roomIds).mp hRoom
  rw [← hConsistent.coherent.listed]
  constructor
  · intro hListed
    exact ⟨room, hFound.1, hFound.2, hListed⟩
  · rintro ⟨other, hOther, hId, hListed⟩
    have hSame : other = room :=
      Catalog.eq_of_idOf_eq hConsistent.coherent.roomIds hOther
        hFound.1 (hId.trans hFound.2.symm)
    exact hSame ▸ hListed

namespace Twins

/- The current rooms of twins list the same things. -/
theorem mem_things_iff
    (hTwins : Twins once left right)
    {room other : Room}
    (hRoom : left.room? = some room)
    (hOther : right.room? = some other)
    (id : String) :
    id ∈ room.things ↔ id ∈ other.things := by
  rw [hTwins.left.consistent.mem_things_iff hRoom,
    hTwins.right.consistent.mem_things_iff hOther]
  exact iff_of_eq (hTwins.alike.read
    (fun scene => scene.world.Places id
      (.room scene.session.currentRoom))
    (fun _ => rfl))

/- They name the same things in their descriptions. -/
theorem mem_listedThings_iff
    (hTwins : Twins once left right)
    {room other : Room}
    (hRoom : left.room? = some room)
    (hOther : right.room? = some other)
    (thing : Thing) :
    thing ∈ left.listedThings ↔
      thing ∈ right.listedThings := by
  have hListed := hTwins.mem_things_iff hRoom hOther
  unfold listedThings
  rw [thingsIn_currentRoom hRoom, thingsIn_currentRoom hOther]
  simp only [List.mem_filter, List.mem_filterMap, hListed,
    hTwins.alike.thing?]

theorem perm_listedThings
    (hTwins : Twins once left right)
    {room other : Room}
    (hRoom : left.room? = some room)
    (hOther : right.room? = some other)
    (hOnce : once) :
    left.listedThings.Perm right.listedThings := by
  have hLeft :=
    hTwins.left.listsOnce hOnce room
      (Catalog.find?_some hRoom).1
  have hRight :=
    hTwins.right.listsOnce hOnce other
      (Catalog.find?_some hOther).1
  have hPerm : room.things.Perm other.things :=
    (List.perm_ext_iff_of_nodup hLeft hRight).mpr
      (hTwins.mem_things_iff hRoom hOther)
  have hThings : left.world.thing? = right.world.thing? :=
    funext hTwins.alike.thing?
  unfold listedThings
  rw [thingsIn_currentRoom hRoom, thingsIn_currentRoom hOther,
    hThings]
  exact (hPerm.filterMap _).filter _

theorem litText
    (hTwins : Twins once left right)
    {room other : Room}
    (hRoom : left.room? = some room)
    (hOther : right.room? = some other)
    (hBare : room.bare = other.bare) :
    Retold once (left.litText room) (right.litText other) := by
  have hText (scene : Scene) (room : Room) :
      scene.litText room =
        openingText room.bare ++
          scene.listingText scene.listedThings ++
          exitsText room.bare := by
    have hOpening :
        openingText room.bare = openingText room :=
      rfl
    have hExits : exitsText room.bare = exitsText room := rfl
    rw [hOpening, hExits]
    simp only [Scene.litText, listedText, listingText,
      openingText, String.append_assoc]
  have hListing :
      left.listingText right.listedThings =
        right.listingText right.listedThings :=
    hTwins.alike.read
      (fun scene => scene.listingText right.listedThings)
      (fun _ => rfl)
  refine ⟨left, openingText other.bare, exitsText other.bare,
    left.listedThings, right.listedThings,
    hTwins.mem_listedThings_iff hRoom hOther,
    hTwins.perm_listedThings hRoom hOther, ?_, ?_⟩
  · rw [hText, hBare]
  · rw [hText, hListing]

/- Twins are described alike. -/
theorem describeRoom (hTwins : Twins once left right) :
    Agrees (Retold once) left.describeRoom
      right.describeRoom := by
  have hRooms :
      left.room?.map Room.bare = right.room?.map Room.bare := by
    rw [← room?_unlisted, hTwins.alike, room?_unlisted]
  unfold Scene.describeRoom
  cases hRoom : left.room? with
  | none =>
      cases hOther : right.room? with
      | none => exact .error Refusal.nowhere
      | some other => simp [hRoom, hOther] at hRooms
  | some room =>
      cases hOther : right.room? with
      | none => simp [hRoom, hOther] at hRooms
      | some other =>
          rw [hRoom, hOther] at hRooms
          have hBare : room.bare = other.bare :=
            Option.some.inj hRooms
          have hDark : darkText room = darkText other := by
            have hSame := congrArg darkText hBare
            exact hSame
          refine Agrees.ok ?_
          rw [hTwins.alike.isLit, hDark]
          split
          · exact hTwins.litText hRoom hOther hBare
          · exact .refl _

theorem lookAround (hTwins : Twins once left right) :
    Agrees (Told once) left.lookAround right.lookAround :=
  hTwins.describeRoom.bind
    (fun _ _ hText => .ok ⟨hTwins.alike, hText, rfl⟩)

theorem examine
    (hTwins : Twins once left right)
    (command : Command) :
    Agrees (Told once) (left.examine command)
      (right.examine command) := by
  have hLines (thing : Thing) :
      left.thingLines thing = right.thingLines thing :=
    hTwins.alike.read (fun scene => scene.thingLines thing)
      (fun _ => rfl)
  unfold Scene.examine
  split
  · exact hTwins.lookAround
  · rw [hTwins.alike.target]
    refine Agrees.chain (fun thing => ?_)
    rw [hLines]
    exact .ok (hTwins.alike.told _)

theorem look
    (hTwins : Twins once left right)
    (command : Command) :
    Agrees (Told once) (left.look command)
      (right.look command) := by
  unfold Scene.look
  split
  · exact hTwins.examine command
  · exact hTwins.lookAround

------------------------------------------------------------
-- Describing What Has Changed
------------------------------------------------------------

/-
  A change leads from twins to twins, since it is made of
  edits, and then a report on the changed scenes is alike.
-/
theorem carryOut
    {α : Type}
    {may : Value → Prop}
    (hTwins : Twins once left right)
    {change other : Except Refusal (Scene × α)}
    (hChange :
      Agrees (fun one two => one.1.Alike two.1 ∧ one.2 = two.2)
        change other)
    (hLeft : ∀ after told, change = .ok (after, told) →
      PlainEdits may left after)
    (hRight : ∀ after told, other = .ok (after, told) →
      PlainEdits may right after)
    {report retell : Scene → α → Except Refusal Reply}
    (hReport : ∀ one two told, Twins once one two →
      Agrees (Reply.Alike once) (report one told)
        (retell two told)) :
    Finished once (left.carryOut change report)
      (right.carryOut other retell) := by
  cases hChange with
  | error refusal => exact ⟨hTwins.alike, .error refusal⟩
  | @ok one two hAlike =>
      rcases one with ⟨one, told⟩
      rcases two with ⟨two, other⟩
      rcases hAlike with ⟨hAlike, rfl⟩
      exact
        { scene := hAlike
          reply := hReport one two told
            { alike := hAlike
              left := hTwins.left.edits (hLeft _ _ rfl).edits
              right :=
                hTwins.right.edits (hRight _ _ rfl).edits } }

theorem passExit
    (hAlike : left.Alike right)
    (command : Command) :
    Agrees (fun one two => one.1.Alike two.1 ∧ one.2 = two.2)
      (left.passExit command) (right.passExit command) := by
  have hExit (direction : Direction) :
      left.usableExit direction = right.usableExit direction :=
    hAlike.read (fun scene => scene.usableExit direction)
      (fun scene => scene.usableExit_unlisted direction)
  have hOpen (exit : Exit) :
      Agrees
        (fun one two => one.1.Alike two.1 ∧ one.2 = two.2)
        (left.openDoor exit) (right.openDoor exit) := by
    have hDoor : left.door? exit = right.door? exit :=
      hAlike.read (fun scene => scene.door? exit)
        (fun _ => rfl)
    unfold openDoor
    rw [hDoor]
    split
    · exact .ok ⟨hAlike, rfl⟩
    · refine Agrees.chain (fun _ => ?_)
      split
      · exact .ok ⟨hAlike.updateThing _ _, rfl⟩
      · exact .ok ⟨hAlike, rfl⟩
  unfold Scene.passExit
  refine Agrees.chain (fun noun => ?_)
  refine Agrees.chain (fun direction => ?_)
  rw [hExit]
  refine Agrees.chain (fun exit => ?_)
  refine (hOpen exit).bind (fun one two hOpened => ?_)
  exact .ok ⟨hOpened.1.enterRoom _, hOpened.2⟩

theorem reportRoom
    (hTwins : Twins once left right)
    (told : String) :
    Agrees (Reply.Alike once) (left.reportRoom told)
      (right.reportRoom told) := by
  refine hTwins.describeRoom.bind (fun one two hText => ?_)
  have hWhole := hText.wrap told ""
  rw [String.append_empty, String.append_empty] at hWhole
  exact .ok ⟨hWhole, rfl⟩

theorem go
    (hTwins : Twins once left right)
    (command : Command) :
    Finished once (left.go command) (right.go command) := by
  have hEdits {scene after : Scene} {told : String}
      (hOk : scene.passExit command = .ok (after, told)) :
      PlainEdits (fun _ => True) scene after :=
    (passExit_works hOk).edits (fun _ => trivial)
  refine hTwins.carryOut (passExit hTwins.alike command)
    (fun _ _ => hEdits) (fun _ _ => hEdits) ?_
  intro one two told hAfter
  refine hAfter.describeRoom.bind (fun text other hText => ?_)
  exact .ok ⟨hText.joinLines [told] [], rfl⟩

/- A change of condition that leads into another room. -/
theorem changeCondition
    (hTwins : Twins once left right)
    (rule? : Except Refusal DreamRule)
    (state : PlayerState)
    (room : DreamRule → String)
    (told : String) :
    let change (scene : Scene) :
        Except Refusal (Scene × String) := do
      let rule ← rule?
      return ((scene.setPlayerState state).enterRoom
        (room rule), told)
    Finished once
      (left.carryOut (change left) Scene.reportRoom)
      (right.carryOut (change right) Scene.reportRoom) := by
  intro change
  have hEdits {scene after : Scene} {told : String}
      (hOk : change scene = .ok (after, told)) :
      PlainEdits (fun _ => True) scene after := by
    rcases bind_eq_ok_iff.mp hOk with ⟨rule, -, hReturn⟩
    cases hReturn
    exact setPlayerState_enterRoom_edits scene _ _
  refine hTwins.carryOut ?_ (fun _ _ => hEdits)
    (fun _ _ => hEdits) (fun _ _ told hAfter =>
      hAfter.reportRoom told)
  refine Agrees.chain (fun rule => ?_)
  exact .ok
    ⟨(hTwins.alike.setPlayerState _).enterRoom _, rfl⟩

theorem sleep (hTwins : Twins once left right) :
    Finished once left.sleep right.sleep := by
  have hRule : left.sleepRule = right.sleepRule :=
    hTwins.alike.read Scene.sleepRule sleepRule_unlisted
  unfold Scene.sleep fallAsleep
  rw [hRule]
  exact hTwins.changeCondition _ .dreaming
    DreamRule.dreamingRoom _

theorem wake (hTwins : Twins once left right) :
    Finished once left.wake right.wake := by
  have hRule : left.wakeRule = right.wakeRule :=
    hTwins.alike.read Scene.wakeRule (fun _ => rfl)
  unfold Scene.wake wakeUp
  rw [hRule]
  exact hTwins.changeCondition _ .normal
    DreamRule.wakingRoom _

theorem switch
    (hTwins : Twins once left right)
    (command : Command)
    (on : Bool) :
    Finished once (left.switch command on)
      (right.switch command on) := by
  have hEdits {scene after : Scene} {thing : Thing}
      (hOk : scene.flipSwitch command on = .ok (after, thing)) :
      PlainEdits (fun _ => True) scene after := by
    have hWorks : Works scene command .switchOn after :=
      flipSwitch_works .switchOn hOk
    exact hWorks.edits (fun _ => trivial)
  refine hTwins.carryOut ?_ (fun _ _ => hEdits)
    (fun _ _ => hEdits) ?_
  · unfold flipSwitch
    rw [hTwins.alike.target]
    refine Agrees.chain (fun thing => ?_)
    refine Agrees.chain (fun _ => ?_)
    refine Agrees.chain (fun _ => ?_)
    exact .ok ⟨hTwins.alike.updateThing _ _, rfl⟩
  · intro one two thing hAfter
    have hLit :
        (left.isLit == one.isLit) =
          (right.isLit == two.isLit) := by
      rw [hTwins.alike.isLit, hAfter.alike.isLit]
    dsimp only
    rw [hLit]
    split
    · exact .ok ⟨.refl _, rfl⟩
    · refine hAfter.describeRoom.bind (fun _ _ hText => ?_)
      exact .ok ⟨hText.joinLines [_] [], rfl⟩

------------------------------------------------------------
-- Turns
------------------------------------------------------------

/- Twins take every verb alike. -/
theorem handle
    (hTwins : Twins once left right)
    (verb : Verb)
    (command : Command) :
    Finished once (left.handle verb command)
      (right.handle verb command) := by
  have hAlike := hTwins.alike
  cases verb with
  | look => exact hAlike.settle (hTwins.look command)
  | examine => exact hAlike.settle (hTwins.examine command)
  | inventory => exact hAlike.settle (.ok hAlike.takeStock)
  | go => exact hTwins.go command
  | take => exact hAlike.settle (hAlike.take command)
  | drop => exact hAlike.settle (hAlike.drop command)
  | put => exact hAlike.settle (hAlike.put command)
  | «open» => exact hAlike.settle (hAlike.openThing command)
  | close => exact hAlike.settle (hAlike.closeThing command)
  | wear => exact hAlike.settle (hAlike.wear command)
  | remove => exact hAlike.settle (hAlike.remove command)
  | switchOn => exact hTwins.switch command true
  | switchOff => exact hTwins.switch command false
  | burn => exact hAlike.settle (hAlike.burn command)
  | search => exact hAlike.settle (hAlike.search command)
  | focus => exact hAlike.settle (hAlike.focus command)
  | become => exact hAlike.settle (hAlike.become command)
  | wait => exact hAlike.settle (.ok (hAlike.told _))
  | sleep => exact hTwins.sleep
  | wake => exact hTwins.wake
  | unscrew => exact hAlike.settle (hAlike.unscrew command)
  | screw => exact hAlike.settle (hAlike.screw command)
  | read => exact hAlike.settle (hAlike.read_told command)
  | help => exact hAlike.settle (.ok (hAlike.told _))

end Twins

end Scene

/- Outcomes that are the same, if told in another way. -/
structure Outcome.Alike
    (once : Prop)
    (left right : Outcome) : Prop where
  success : left.success = right.success
  message : Retold once left.message right.message
  solvedPuzzle : left.solvedPuzzle = right.solvedPuzzle

/- Turns that lead to alike scenes, with alike outcomes. -/
structure Turn.Alike
    (once : Prop)
    (left right : Turn) : Prop where
  scene : left.scene.Alike right.scene
  outcome : left.outcome.Alike once right.outcome

namespace Scene

variable {left right : Scene}

theorem Alike.refused
    (hAlike : left.Alike right)
    (refusal : Refusal) :
    (Turn.refused left refusal).Alike once
      (.refused right refusal) where
  scene := hAlike
  outcome := ⟨rfl, .refl refusal.message, rfl⟩

theorem Alike.runScriptsFor
    (hAlike : left.Alike right)
    (verb : Verb)
    {reply other : Reply}
    (hTarget : reply.target = other.target) :
    (left.runScriptsFor verb reply).value.1.Alike
        (right.runScriptsFor verb other).value.1 ∧
      (left.runScriptsFor verb reply).value.2 =
        (right.runScriptsFor verb other).value.2 := by
  unfold Scene.runScriptsFor
  rw [hTarget]
  cases other.target with
  | none => exact ⟨hAlike, rfl⟩
  | some thing => exact hAlike.runScripts thing verb

/- What follows a verb is the same, and told after it. -/
theorem Alike.complete
    (hAlike : left.Alike right)
    (limit : UInt64)
    (verb : Verb)
    {reply other : Reply}
    (hReply : reply.Alike once other) :
    (left.complete limit verb reply).Alike once
      (right.complete limit verb other) := by
  rcases hAlike.runScriptsFor verb hReply.target with
    ⟨hScripts, hMessages⟩
  have hPuzzles := hScripts.evaluatePuzzles limit
  exact
    { scene := hPuzzles.scene
      outcome :=
        { success := rfl
          message := by
            unfold Scene.complete
            dsimp only
            rw [hMessages, hPuzzles.messages]
            exact hReply.message.joinLines [] _
          solvedPuzzle :=
            congrArg List.head? hPuzzles.solved } }

/- Twins take every command alike. -/
theorem Twins.perform
    (hTwins : Twins once left right)
    (limit : UInt64)
    (command : Command) :
    (left.perform limit command).Alike once
      (right.perform limit command) := by
  have hState :
      left.session.playerState = right.session.playerState :=
    congrArg Session.playerState hTwins.alike.session
  unfold Scene.perform
  rw [hState]
  split
  · exact hTwins.alike.refused _
  · rename_i verb hVerb
    split
    · exact hTwins.alike.refused _
    · have hHandled := hTwins.handle verb command
      revert hHandled
      generalize left.handle verb command = one
      generalize right.handle verb command = two
      rcases one with ⟨one, handled⟩
      rcases two with ⟨two, other⟩
      rintro ⟨hScene, hReply⟩
      cases hReply with
      | error refusal => exact hScene.refused refusal
      | ok hReply => exact hScene.complete limit verb hReply

end Scene

end TextAdventure
