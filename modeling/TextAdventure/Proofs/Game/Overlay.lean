import TextAdventure.Proofs.Game.Restoring
import TextAdventure.Proofs.Scene.Listings

/-
  What a session that is laid over a world leaves alone.

  A session is laid over a world in steps of a few kinds. No
  step touches what a save leaves out: the rules, the scripts
  and the puzzles but for being solved, and of every thing
  its texts and what can be done with it. So a thing of the
  new world is made up of the content's and of the saved one.

  Main declarations:
    * `World.Lays`
    * `World.lays_resumed`
    * `Flag.isSaved_iff`
    * `World.HasFlagsOf`
    * `Thing.template`
    * `World.templates_resumed`
    * `World.plot_resumed`
    * `World.ListsOnce.resumed`
-/

namespace TextAdventure

open Relation (ReflTransGen)

------------------------------------------------------------
-- Steps
------------------------------------------------------------

/- One step of laying a session over a world. -/
inductive World.Lays : World → World → Prop where
| relocate
    {world moved : World}
    {id : String}
    {target old : Placement}
    (hOk : world.relocate id target = .ok (moved, old)) :
    Lays world moved
| flags
    (world : World)
    (id : String)
    (state : ThingState) :
    Lays world (world.updateThing id state.applyFlags)
| solve
    (world : World)
    (puzzle : String) :
    Lays world (world.markSolved puzzle)
| unblock
    {world after : World}
    {exit : String}
    {blocked : Bool}
    (hOk : world.unblockExit exit = .ok (after, blocked)) :
    Lays world after
| visit
    (world : World)
    (room : String) :
    Lays world (world.visit room)
| takeOff
    (world : World)
    (id : String) :
    Lays world
      (world.updateThing id
        (fun thing => { thing with isWorn := false }))
| forget
    (world : World) :
    Lays world world.forgetChanges

namespace World

variable {before after : World}

theorem lays_liftOut (world : World) (id : String) :
    ReflTransGen Lays world (world.liftOut id) := by
  unfold liftOut
  split
  · rename_i lifted old hOk
    exact ReflTransGen.single (.relocate hOk)
  · exact ReflTransGen.refl

theorem lays_restoreThing
    (world : World)
    (id : String)
    (state : ThingState) :
    ReflTransGen Lays world
      (world.restoreThing id state).value := by
  unfold restoreThing Logged.map
  dsimp only
  split
  · rename_i moved old hOk
    exact (ReflTransGen.single (.relocate hOk)).tail
      (.flags moved id state)
  · exact ReflTransGen.single (.flags world id state)

theorem lays_restoreEach
    (world : World)
    (entries : List (String × ThingState)) :
    ReflTransGen Lays world
      (world.restoreEach entries).value := by
  induction entries generalizing world with
  | nil => exact ReflTransGen.refl
  | cons entry rest ih =>
      exact (lays_restoreThing world entry.1 entry.2).trans
        (ih _)

/- A fold of steps is a number of steps. -/
theorem lays_foldl
    {α : Type}
    {change : World → α → World}
    (hChange :
      ∀ world item, ReflTransGen Lays world (change world item))
    (world : World)
    (items : List α) :
    ReflTransGen Lays world (items.foldl change world) := by
  induction items generalizing world with
  | nil => exact ReflTransGen.refl
  | cons item rest ih => exact (hChange world item).trans (ih _)

theorem lays_restoreThings
    (world : World)
    (session : Session) :
    ReflTransGen Lays world
      (world.restoreThings session).value :=
  (lays_foldl
    (fun world (entry : String × ThingState) =>
      lays_liftOut world entry.1)
    world _).trans (lays_restoreEach _ _)

theorem lays_restorePuzzles
    (world : World)
    (ids : List String) :
    ReflTransGen Lays world
      (world.restorePuzzles ids).value := by
  induction ids generalizing world with
  | nil => exact ReflTransGen.refl
  | cons id rest ih =>
      unfold restorePuzzles Logged.bind
      dsimp only
      split
      · exact ReflTransGen.head (.solve world id) (ih _)
      · exact ih world

theorem lays_restoreExits
    (world : World)
    (keys : List String) :
    ReflTransGen Lays world
      (world.restoreExits keys).value := by
  induction keys generalizing world with
  | nil => exact ReflTransGen.refl
  | cons key rest ih =>
      unfold restoreExits Logged.bind
      dsimp only
      split
      · rename_i opened blocked hOk
        exact ReflTransGen.head (.unblock hOk) (ih opened)
      · exact ih world

/- A session is laid over a world in steps. -/
theorem lays_resumed (world : World) (session : Session) :
    ReflTransGen Lays world (world.resumed session) := by
  have hOverlaid :
      ReflTransGen Lays world (world.overlaid session) :=
    (((lays_restoreThings world session).trans
      (lays_restorePuzzles _ _)).trans
        (lays_restoreExits _ _)).trans
          (lays_foldl
            (fun world room =>
              ReflTransGen.single (.visit world room)) _ _)
  have hTakenOff :
      ReflTransGen Lays (world.overlaid session)
        (world.overlaid session).takeOffStray.value :=
    lays_foldl
      (fun world id =>
        ReflTransGen.single (.takeOff world id)) _ _
  exact (hOverlaid.trans hTakenOff).tail (.forget _)

end World

------------------------------------------------------------
-- What No Step Touches
------------------------------------------------------------

/- Whether a save keeps a flag. -/
def Flag.isSaved : Flag → Bool
| .hidden => true
| .open => true
| .locked => true
| .lit => true
| .switchedOn => true
| .wearable => false
| .openable => false
| .lockable => false
| .fixed => false
| .scenery => false
| .container => false
| .switchable => false

/-
  No thing of a world has a flag that a save leaves out other
  than in the content.
-/
def World.HasFlagsOf (content : Content) (world : World) :
    Prop :=
  ∀ thing ∈ world.things, ∀ original ∈ content.things,
    original.id = thing.id →
      ∀ flag : Flag, flag.isSaved = false →
        flag.get thing = flag.get original

/- Setting another flag leaves no trace in a save. -/
theorem Flag.capture_set
    {flag : Flag}
    (hUnsaved : flag.isSaved = false)
    (value : Bool)
    (thing : Thing) :
    ThingState.capture (flag.set value thing) =
      ThingState.capture thing := by
  cases flag <;> first | rfl | exact absurd hUnsaved (by decide)

/- The saved flags are those that a saved state tells. -/
theorem Flag.isSaved_iff (flag : Flag) :
    flag.isSaved = true ↔
      ∀ left right : Thing,
        ThingState.capture left = ThingState.capture right →
          flag.get left = flag.get right := by
  constructor
  · intro hSaved left right hCapture
    cases flag with
    | hidden => exact congrArg ThingState.hidden hCapture
    | «open» => exact congrArg ThingState.isOpen hCapture
    | locked => exact congrArg ThingState.isLocked hCapture
    | lit => exact congrArg ThingState.isLit hCapture
    | switchedOn =>
        exact congrArg ThingState.isSwitchedOn hCapture
    | wearable | openable | lockable | fixed | scenery
    | container | switchable => exact absurd hSaved (by decide)
  · intro hTold
    rw [← Bool.not_eq_false]
    intro hUnsaved
    have hSame :=
      hTold (flag.set true {}) (flag.set false {})
        ((capture_set hUnsaved true {}).trans
          (capture_set hUnsaved false {}).symm)
    simp at hSame

/- A thing without all that a save keeps of it. -/
def Thing.template (thing : Thing) : Thing :=
  { (ThingState.capture {}).applyFlags thing with
      placement := .nowhere }

/- A template is made up of texts and flags not saved. -/
theorem Thing.template_eq_iff (left right : Thing) :
    left.template = right.template ↔
      left.words = right.words ∧
        ∀ flag : Flag, flag.isSaved = false →
          flag.get left = flag.get right := by
  constructor
  · intro hTemplate
    have hWords := congrArg Thing.words hTemplate
    refine ⟨hWords, ?_⟩
    intro flag hUnsaved
    have hGet := congrArg flag.get hTemplate
    cases flag <;>
      first | exact hGet | exact absurd hUnsaved (by decide)
  · rintro ⟨hWords, hFlags⟩
    have hWearable := hFlags .wearable rfl
    have hOpenable := hFlags .openable rfl
    have hLockable := hFlags .lockable rfl
    have hFixed := hFlags .fixed rfl
    have hScenery := hFlags .scenery rfl
    have hContainer := hFlags .container rfl
    have hSwitchable := hFlags .switchable rfl
    simp_all [Thing.template, Thing.words, Flag.get,
      ThingState.applyFlags]

/- A template does not tell where a thing is. -/
theorem Thing.template_placeWhereListed
    (thing : Thing)
    (rooms : List Room) :
    (Content.placeWhereListed rooms thing).template =
      thing.template := by
  unfold Content.placeWhereListed
  split <;> rfl

/- A thing is made up of its template and its saved state. -/
theorem Thing.eq_of_template_eq
    {left right : Thing}
    (hTemplate : left.template = right.template)
    (hCapture :
      ThingState.capture left = ThingState.capture right) :
    left = right := by
  have hApply (thing : Thing) :
      { (ThingState.capture thing).applyFlags thing.template with
          placement := (ThingState.capture thing).placement } =
        thing :=
    rfl
  rw [← hApply left, ← hApply right, hTemplate, hCapture]

namespace World

variable {before after : World}

namespace Lays

theorem template
    (hLays : Lays before after) :
    after.things.map Thing.template =
      before.things.map Thing.template := by
  cases hLays with
  | relocate hOk =>
      exact map_things_relocate (fun _ _ => rfl) hOk
  | flags id state =>
      apply map_things_updateThing
      intro thing
      rfl
  | solve puzzle => rfl
  | unblock hOk =>
      rcases (unblockExit_eq_ok_iff before).mp hOk with
        ⟨key, -, -, -, -, -, -, rfl⟩
      rfl
  | visit room => rfl
  | takeOff id =>
      apply map_things_updateThing
      intro thing
      rfl
  | forget => rfl

theorem plot_eq (hLays : Lays before after) :
    after.plot = before.plot := by
  cases hLays with
  | relocate hOk => exact plot_relocate hOk
  | flags id state => exact plot_updateThing before id _
  | solve puzzle => exact plot_markSolved before puzzle
  | unblock hOk => exact plot_unblockExit hOk
  | visit room => rfl
  | takeOff id => exact plot_updateThing before id _
  | forget => rfl

theorem listsOnce
    (hLays : Lays before after)
    (hOnce : before.ListsOnce) :
    after.ListsOnce := by
  cases hLays with
  | relocate hOk => exact hOnce.relocate hOk
  | flags id state =>
      exact hOnce.of_layout_eq
        (layout_applyFlags before id state)
  | solve puzzle =>
      exact hOnce.of_layout_eq (layout_markSolved before puzzle)
  | unblock hOk =>
      exact hOnce.of_layout_eq (layout_unblockExit before hOk)
  | visit room =>
      exact hOnce.of_layout_eq (layout_visit before room)
  | takeOff id =>
      exact hOnce.of_layout_eq
        (layout_updateThing before (by simp) (by simp) id)
  | forget => exact hOnce

end Lays

/- What a view of every step keeps is kept by all steps. -/
theorem eq_of_lays
    {α : Type}
    (view : World → α)
    (hKeeps :
      ∀ before after, Lays before after →
        view after = view before)
    (hLays : ReflTransGen Lays before after) :
    view after = view before := by
  induction hLays with
  | refl => rfl
  | tail _ hLast ih => rw [hKeeps _ _ hLast, ih]

variable (world : World)
variable (session : Session)

theorem templates_resumed :
    (world.resumed session).things.map Thing.template =
      world.things.map Thing.template :=
  eq_of_lays (fun world => world.things.map Thing.template)
    (fun _ _ hStep => hStep.template)
    (lays_resumed world session)

theorem plot_resumed :
    (world.resumed session).plot = world.plot :=
  eq_of_lays plot (fun _ _ hStep => hStep.plot_eq)
    (lays_resumed world session)

theorem ListsOnce.resumed
    {world : World}
    (hOnce : world.ListsOnce)
    (session : Session) :
    (world.resumed session).ListsOnce := by
  have hAll {after : World}
      (hLays : ReflTransGen Lays world after) :
      after.ListsOnce := by
    induction hLays with
    | refl => exact hOnce
    | tail _ hLast ih => exact hLast.listsOnce ih
  exact hAll (lays_resumed world session)

end World

end TextAdventure
