import TextAdventure.Proofs.Command.Noun
import TextAdventure.Proofs.Game.Viewing
import TextAdventure.Proofs.World.Naming

/-
  Calling a thing by its name.

  Where there is light, a thing in reach can be examined by
  typing its name, and then something is examined. It has the
  name that was typed, in some case, unless a preposition or a
  filler is in the way. Then only a part of the name is looked
  up, and a thing that is called by just that part comes
  before the one that was meant.

  Main declarations:
    * `Game.Arises`
    * `Game.Examines`
    * `Game.things_are_found_by_name`
-/

namespace TextAdventure

open Relation (ReflTransGen)

------------------------------------------------------------
-- Examining
------------------------------------------------------------

namespace Scene

variable {scene : Scene}
variable {command : Command}
variable {noun : String}
variable {thing : Thing}

/- What is found under a noun is what the noun names. -/
theorem named_eq_ok_of_findWhere?
    (hIds : (Catalog.ids scene.world.things).Nodup)
    (hFind :
      scene.world.findWhere? (Noun.stripFillers noun)
        scene.canReach = some thing) :
    scene.named noun = .ok thing := by
  have hKnown := (World.means_of_findWhere? hFind).known
  have hThing : scene.world.thing? thing.id = some thing :=
    (Catalog.find?_eq_some_iff hIds).mpr ⟨hKnown, rfl⟩
  have hId : scene.resolve noun = .ok thing.id := by
    simp [resolve, hFind]
  rw [named, hId]
  exact demand_eq_ok_iff.mpr hThing

/- What a noun names is told of. -/
theorem examine_eq_ok
    (hNoun : command.noun = some noun)
    (hNamed : scene.named noun = .ok thing) :
    scene.examine command =
      .ok (scene, .about thing
        (Text.joinWith " " (scene.thingLines thing))) := by
  have hTarget : scene.target command .examine = .ok thing :=
    demand_bind_eq_ok_iff.mpr ⟨noun, hNoun, hNamed⟩
  have hPresent : ¬ command.noun.isNone = true := by
    simp [hNoun]
  rw [examine, if_neg hPresent]
  exact bind_eq_ok_iff.mpr ⟨thing, hTarget, rfl⟩

end Scene

------------------------------------------------------------
-- Games
------------------------------------------------------------

namespace Game

variable {game : Game}

/-
  A game that can come about: one that was started, anew or
  with a session from before, and then was played and added
  to.
-/
inductive Arises : Game → Prop where
| started
    {settings : Settings}
    {disk : Disk}
    {id : SessionId}
    {game : Game}
    (hStart : (start settings disk id).value = .ok game) :
    Arises game
| resumed
    {settings : Settings}
    {disk : Disk}
    {session : Session}
    {game : Game}
    (hResume :
      (resume settings disk session).value = .ok game) :
    Arises game
| step
    {before after : Game}
    (hBefore : Arises before)
    (hStep : AnyStep before after) :
    Arises after

theorem Arises.reaches
    (hArises : Arises game)
    {after : Game}
    (hReaches : ReflTransGen AnyStep game after) :
    Arises after := by
  induction hReaches with
  | refl => exact hArises
  | tail _ hLast ih => exact .step ih hLast

/- An offer makes no difference, accepted or not. -/
theorem Arises.add
    (hArises : Arises game)
    (addition : Addition) :
    Arises (game.add addition) :=
  hArises.reaches (reaches_add game addition)

/- In all of them listings and placements agree. -/
theorem Arises.isCoherent
    (hArises : Arises game) :
    game.world.IsCoherent := by
  induction hArises with
  | started hStart =>
      rcases start_eq_ok_iff.mp hStart with ⟨hValid, rfl⟩
      exact (comesFrom_fresh hValid _ _).coherent
  | resumed hResume =>
      rcases begins_of_resume hResume with ⟨hValid, hBegins⟩
      exact (hBegins.isConsistent hValid).coherent
  | step _ hStep ih =>
      rcases hStep.execute_or_grows with
        ⟨line, rfl⟩ | ⟨may, world, hGrows, rfl⟩
      · exact isCoherent_execute ih line
      · exact ih.grows hGrows

/- A line by which a thing is examined. -/
def Examines (game : Game) (line : String) (thing : Thing) :
    Prop :=
  game.turn line =
    (nextTurn game.scene).complete game.settings.maxPasses
      .examine
      (.about thing
        (Text.joinWith " "
          ((nextTurn game.scene).thingLines thing)))

/- The things that the player has access to. -/
def hasAccess (game : Game) (thing : Thing) : Bool :=
  game.world.isAccessible game.session.currentRoom thing.id

/- Where there is light all of them can be acted on. -/
theorem canReach_eq_hasAccess
    (hLit : game.scene.isLit = true) :
    (nextTurn game.scene).canReach = game.hasAccess := by
  have hNext : (nextTurn game.scene).isLit = true := hLit
  funext thing
  rw [Scene.canReach, hNext, Bool.true_or, Bool.and_true]
  rfl

/- A noun by which a thing is found is enough to examine it. -/
theorem examines_of_findWhere?
    {text noun : String}
    {thing : Thing}
    (hIds : (Catalog.ids game.world.things).Nodup)
    (hNoun :
      (Command.ofLine ("examine " ++ text)).noun = some noun)
    (hFind :
      game.world.findWhere? (Noun.stripFillers noun)
        (nextTurn game.scene).canReach = some thing) :
    game.Examines ("examine " ++ text) thing := by
  have hNamed : (nextTurn game.scene).named noun = .ok thing :=
    Scene.named_eq_ok_of_findWhere? hIds hFind
  have hExamine := Scene.examine_eq_ok hNoun hNamed
  have hVerb := Command.verb_ofLine_examine text
  have hHandled :
      (nextTurn game.scene).handle .examine
          (.ofLine ("examine " ++ text)) =
        (nextTurn game.scene,
          .ok (.about thing
            (Text.joinWith " "
              ((nextTurn game.scene).thingLines thing)))) := by
    simp only [Scene.handle, hExamine, Scene.settle]
  exact Scene.perform_of_query_ok hVerb rfl hHandled _

/-
  In the light the line that examines a thing by its name, of
  plain words, examines what the words mean that are looked up.
  With nothing in the way these are all the words, and what is
  examined is called by the whole name.
-/
theorem things_are_found_by_name
    (hArises : Arises game)
    (hLit : game.scene.isLit = true)
    {thing : Thing}
    (hThing : thing ∈ game.world.things)
    (hAccess : game.hasAccess thing = true)
    {words : List String}
    (hWords : ∀ word ∈ words, Text.IsPlainWord word)
    (hSome : words ≠ [])
    (hName : thing.name = Text.joinWith " " words) :
    ∃ other,
      game.Examines ("examine " ++ thing.name) other ∧
        game.world.Means game.hasAccess
          (Text.joinWith " " (Noun.wordsOf words)) other ∧
        (Noun.ArePlain words →
          other.matchesExactly thing.name = true) := by
  rcases Noun.stripFillers_noun_ofLine_examine hWords hSome
    with ⟨noun, hNoun, hStrip⟩
  rcases World.exists_means_of_infix hThing hAccess hWords
      hName (Noun.wordsOf_infix words)
      (Noun.wordsOf_ne_nil hSome) with
    ⟨other, hFind, hMeans⟩
  rw [← canReach_eq_hasAccess hLit, ← hStrip] at hFind
  rw [← hName] at hNoun
  have hExamines :=
    examines_of_findWhere? hArises.isCoherent.thingIds hNoun
      hFind
  refine ⟨other, hExamines, hMeans, ?_⟩
  intro hPlain
  rw [Noun.wordsOf_eq_self hPlain, ← hName] at hMeans
  exact hMeans.matchesExactly hThing hAccess
    (Thing.matchesExactly_name hWords hName)

/- The leaves are found by a name of three words. -/
theorem pile_of_leaves_is_found_by_name :
    let game := fresh {} .embedded ⟨0⟩
    let leaves := EmbeddedStory.pileOfLeaves
    Arises game ∧ game.scene.isLit = true ∧
      leaves ∈ game.world.things ∧
      game.hasAccess leaves = true ∧
      leaves.name =
        Text.joinWith " " ["pile", "of", "leaves"] ∧
      Noun.ArePlain ["pile", "of", "leaves"] ∧
      ∃ other,
        game.Examines "examine pile of leaves" other ∧
          other.matchesExactly "pile of leaves" = true := by
  intro game leaves
  have hArises : Arises game := .started start_embedded
  have hFacts :
      game.scene.isLit = true ∧ leaves ∈ game.world.things ∧
        game.hasAccess leaves = true := by
    decide +kernel
  have hPlain : Noun.ArePlain ["pile", "of", "leaves"] := by
    have hNone : ∀ word ∈ ["of", "leaves"],
        Command.isPreposition word = false := by
      decide
    exact ⟨Or.inr (by decide), hNone⟩
  rcases hFacts with ⟨hLit, hLeaves, hAccess⟩
  have hWords : ∀ word ∈ ["pile", "of", "leaves"],
      Text.IsPlainWord word := by
    decide
  have hName :
      leaves.name =
        Text.joinWith " " ["pile", "of", "leaves"] := by
    decide
  rcases things_are_found_by_name hArises hLit hLeaves hAccess
      hWords (by decide) hName with
    ⟨other, hExamines, -, hCalled⟩
  exact ⟨hArises, hLit, hLeaves, hAccess, hName, hPlain,
    other, hExamines, hCalled hPlain⟩

/- Things with names that are not looked up as a whole. -/
def man : Thing where
  id := "man"
  name := "man"
  placement := .room "forest"

def manInHat : Thing where
  id := "gentleman"
  name := "man in hat"
  placement := .room "forest"

def orb : Thing where
  id := "orb"
  name := "orb"
  placement := .room "forest"

def theOrb : Thing where
  id := "famous-orb"
  name := "the orb"
  placement := .room "forest"

def capitalEgg : Thing where
  id := "great-egg"
  name := "Egg"
  placement := .room "forest"

def egg : Thing where
  id := "small-egg"
  name := "egg"
  placement := .room "forest"

def crowdedForest : Game :=
  (fresh {} .embedded ⟨0⟩).add
    (.content
      { things :=
          [man, manInHat, orb, theOrb, capitalEgg, egg] })

/-
  The first of two things is called by its name, and another
  one is examined that does not bear this very name.
-/
theorem names_are_mistaken_in_crowdedForest :
    crowdedForest.Arises ∧
      crowdedForest.scene.isLit = true ∧
      ∀ pair ∈
          [(manInHat, man), (theOrb, orb), (egg, capitalEgg)],
        pair.1 ∈ crowdedForest.world.things ∧
          crowdedForest.hasAccess pair.1 = true ∧
          crowdedForest.Examines ("examine " ++ pair.1.name)
            pair.2 ∧
          pair.2.name ≠ pair.1.name ∧
          pair.2.id ≠ pair.1.name ∧
          pair.1.name ∉ pair.2.aliases := by
  have hArises : crowdedForest.Arises :=
    (Arises.started start_embedded).add _
  have hFacts :
      ∀ pair ∈
          [(manInHat, man), (theOrb, orb), (egg, capitalEgg)],
        pair.1 ∈ crowdedForest.world.things ∧
          crowdedForest.hasAccess pair.1 = true ∧
          pair.2.name ≠ pair.1.name ∧
          pair.2.id ≠ pair.1.name ∧
          pair.1.name ∉ pair.2.aliases := by
    decide +kernel
  have hFind :
      ∀ pair ∈
          [(manInHat, man), (theOrb, orb), (egg, capitalEgg)],
        ∃ noun,
          (Command.ofLine ("examine " ++ pair.1.name)).noun =
              some noun ∧
            crowdedForest.world.findWhere?
                (Noun.stripFillers noun)
                (nextTurn crowdedForest.scene).canReach =
              some pair.2 := by
    simp only [List.forall_mem_cons]
    refine ⟨⟨"man", ?_⟩, ⟨"the orb", ?_⟩, ⟨"egg", ?_⟩, ?_⟩
    all_goals decide +kernel
  refine ⟨hArises, by decide +kernel, ?_⟩
  intro pair hPair
  rcases hFind pair hPair with ⟨noun, hNoun, hFound⟩
  rcases hFacts pair hPair with ⟨hMem, hAccess, hDiffers⟩
  exact ⟨hMem, hAccess,
    examines_of_findWhere? hArises.isCoherent.thingIds hNoun
      hFound, hDiffers⟩

end Game

end TextAdventure
