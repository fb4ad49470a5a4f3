import TextAdventure.Proofs.Game.Restoring
import TextAdventure.Proofs.Game.Run

/-
  Games stay consistent, whatever is played and added.

  The scene of a game is consistent as the game begins. A
  turn counts, edits and records: the edits keep the scene
  consistent and the rest does not touch places and lists.
  An addition brings new things that no list has to hold.

  Main declarations:
    * `Game.Begins.isConsistent`
    * `Game.Step.isConsistent`
    * `Game.isConsistent_of_reaches`
-/

namespace TextAdventure

open Relation (ReflTransGen)

namespace Game

variable {content : Content}
variable {before after : Game}

------------------------------------------------------------
-- Beginnings
------------------------------------------------------------

/- Where nothing is carried or worn yet, lists are empty. -/
theorem opening_isConsistent
    (hValid : content.IsValid)
    (hLoose : ∀ thing ∈ content.things, thing.IsLoose)
    (id : SessionId) :
    (opening id (World.ofContent content)).IsConsistent := by
  have hPlaced :
      ∀ thing ∈ (World.ofContent content).things,
        thing.IsLoose := by
    intro placed hMem
    rw [World.ofContent_things, List.mem_map] at hMem
    rcases hMem with ⟨thing, hThing, rfl⟩
    exact (hLoose thing hThing).placeWhereListed content.rooms
  have hNotWorn :
      ∀ id : String,
        ¬ (World.ofContent content).Wears id := by
    rintro id ⟨thing, hMem, -, hWorn⟩
    rw [(hPlaced thing hMem).2] at hWorn
    simp at hWorn
  have hNotCarried :
      ∀ id : String,
        ¬ (World.ofContent content).Places id .carried := by
    rintro id ⟨thing, hMem, -, hCarried⟩
    exact (hPlaced thing hMem).1 hCarried
  exact
    { coherent :=
        (World.ofContent_isCoherent hValid).of_layout_eq
          (World.layout_visit _ _)
      inventoryNodup := List.nodup_nil
      mem_inventory_iff := by
        intro id
        exact iff_of_false List.not_mem_nil (hNotCarried id)
      wornNodup := List.nodup_nil
      mem_worn_iff := by
        intro id
        exact iff_of_false List.not_mem_nil (hNotWorn id)
      carried := by
        intro id hWorn
        exact absurd hWorn (hNotWorn id) }

theorem Begins.isConsistent
    (hValid : content.IsValid)
    {game : Game}
    (hBegins : Begins content game) :
    game.scene.IsConsistent := by
  cases hBegins with
  | opened settings id hLoose =>
      exact opening_isConsistent hValid hLoose id
  | resumed settings session hRestore =>
      have hScene :=
        (Scene.restore_eq_ok_iff.mp ⟨_, hRestore⟩).2
      rw [hScene]
      exact Scene.resumed_isConsistent
        (World.ofContent_isCoherent hValid) session

------------------------------------------------------------
-- Steps
------------------------------------------------------------

/- Counting and recording leave places and lists alone. -/
theorem isConsistent_nextTurn
    {scene : Scene}
    (hConsistent : scene.IsConsistent) :
    (nextTurn scene).IsConsistent :=
  hConsistent.of_layout_eq rfl (fun _ => Iff.rfl) rfl rfl

theorem isConsistent_recordChanges
    {scene : Scene}
    (hConsistent : scene.IsConsistent) :
    (recordChanges scene).IsConsistent := by
  rw [recordChanges_eq]
  exact hConsistent.of_layout_eq
    (World.layout_forgetChanges _) (fun _ => Iff.rfl) rfl rfl

/- No value is excluded here, so all that is written may be. -/
theorem isConsistent_execute
    {game : Game}
    (hConsistent : game.scene.IsConsistent)
    (line : String) :
    (game.execute line).value.1.scene.IsConsistent := by
  rw [execute_value]
  exact isConsistent_recordChanges
    ((isConsistent_nextTurn hConsistent).edits
      (turn_edits (World.grants_any game.world) line))

/- A world that grows by loose things keeps a game right. -/
theorem isConsistent_withWorld
    {game : Game}
    (hConsistent : game.scene.IsConsistent)
    {may : Thing → Prop}
    {world : World}
    (hGrows : ReflTransGen (World.Grows may) game.world world)
    (hLoose :
      ∀ thing, may thing →
        thing.id ∉ Catalog.ids game.world.things →
          thing.IsLoose) :
    (game.withWorld world).scene.IsConsistent :=
  hConsistent.grows hGrows hLoose

/- Every step keeps the scene consistent. -/
theorem Step.isConsistent
    (hConsistent : before.scene.IsConsistent)
    (hStep : Step before after) :
    after.scene.IsConsistent := by
  -- An addition of anything but a thing grows the world in
  -- one step that puts no thing to the test.
  have hGrow {world : World}
      (hGrows :
        World.Grows Thing.IsLoose before.world world) :
      (before.withWorld world).scene.IsConsistent :=
    isConsistent_withWorld hConsistent
      (ReflTransGen.single hGrows) (fun _ hLoose _ => hLoose)
  cases hStep with
  | execute line => exact isConsistent_execute hConsistent line
  | merge content hLoose =>
      apply isConsistent_withWorld hConsistent
        (World.merge_grows before.world content)
      intro placed hMem hNew
      rcases List.mem_map.mp hMem with ⟨thing, hThing, rfl⟩
      rw [Content.placeWhereListed_id] at hNew
      exact (hLoose thing hThing hNew).placeWhereListed
        content.rooms
  | addRoom room hAdd =>
      rcases Option.map_eq_some_iff.mp hAdd with
        ⟨world, hWorld, rfl⟩
      exact hGrow (.room room hWorld)
  | addThing thing hLoose hAdd =>
      rcases addThing_eq_ok_some_iff.mp hAdd with
        ⟨world, hWorld, rfl⟩
      exact hGrow (.thing thing hLoose hWorld)
  | addPuzzle puzzle hAdd =>
      rcases Option.map_eq_some_iff.mp hAdd with
        ⟨world, hWorld, rfl⟩
      exact hGrow (.puzzle puzzle hWorld)
  | addScript script hAdd =>
      rcases Option.map_eq_some_iff.mp hAdd with
        ⟨world, hWorld, rfl⟩
      exact hGrow (.script script hWorld)
  | connect source target direction hAdd =>
      rcases connect_eq_ok_iff.mp hAdd with
        ⟨world, hWorld, rfl⟩
      exact hGrow (.exits source target direction hWorld)

------------------------------------------------------------
-- Runs
------------------------------------------------------------

/-
  In every game that begins in accepted content, whatever is
  played and added, rooms list what is placed in them and
  placements name what is there, nothing is inside itself,
  and the lists of the session hold exactly what is carried
  and what is worn.
-/
theorem isConsistent_of_reaches
    (hValid : content.IsValid)
    {first last : Game}
    (hBegins : Begins content first)
    (hReaches : Reaches first last) :
    last.scene.IsConsistent := by
  induction hReaches with
  | refl => exact hBegins.isConsistent hValid
  | tail _ hLast ih => exact hLast.isConsistent ih

/- A coin that lies in the box. -/
def coinInBox : Content where
  things :=
    [{ id := "coin"
       name := "coin"
       placement := .container "box" }]

/-
  The key is taken and put on, a coin comes into the box, and
  the key is put there as well.
-/
theorem isConsistent_of_boxedKey :
    let first : Game :=
      { settings := {}
        scene :=
          opening default (World.ofContent Scene.boxedKey) }
    let grown : Game :=
      ((first.execute "wear key").value.1.merge
        coinInBox).value.1
    let last : Game :=
      (grown.execute "put key in box").value.1
    Scene.boxedKey.IsValid ∧
      Begins Scene.boxedKey first ∧
      Reaches first last ∧
      last.scene.IsConsistent := by
  intro first grown last
  have hValid : Scene.boxedKey.IsValid := by rfl
  have hBegins : Begins Scene.boxedKey first := by
    refine .opened {} default ?_
    simp [Scene.boxedKey, Thing.IsLoose]
  have hLast : Reaches first last := by
    refine ((ReflTransGen.refl.tail (.execute _ _)).tail
      (.merge _ coinInBox ?_)).tail (.execute _ _)
    intro thing hMem _
    rw [coinInBox, List.mem_singleton] at hMem
    rw [hMem]
    exact ⟨by decide, rfl⟩
  exact ⟨hValid, hBegins, hLast,
    isConsistent_of_reaches hValid hBegins hLast⟩

end Game

end TextAdventure
