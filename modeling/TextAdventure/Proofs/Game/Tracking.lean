import TextAdventure.Proofs.Content.Finite
import TextAdventure.Proofs.Game.Consistency
import TextAdventure.Proofs.Scene.Tracking

/-
  What a session knows of its world from turn to turn.

  At the end of a turn the states of all marked things are
  recorded and the marks are gone. So from the start of a new
  session on, the session says after every turn all that
  tells its world from the one that was built.

  Main declarations:
    * `Game.holds_execute`
    * `Game.tracks_opening`
    * `Game.tracks_execute`
-/

namespace TextAdventure

namespace Game

open Scene (remembered)

variable {may : Value → Prop}
variable {base : World}

------------------------------------------------------------
-- Values
------------------------------------------------------------

/- What is recorded are the values of the things. -/
theorem recordedStates_all
    {world : World}
    (hThings :
      ∀ thing ∈ world.things, thing.customState.All may)
    {states : Dict ThingState}
    (hStates :
      states.All (fun state => state.customState.All may)) :
    (recordedStates world states).All (fun state =>
      state.customState.All may) := by
  unfold recordedStates
  generalize world.changed = ids
  induction ids generalizing states with
  | nil => exact hStates
  | cons id rest ih =>
      rw [List.foldl_cons]
      apply ih
      unfold recordedState
      split
      · rename_i thing hThing
        exact hStates.insert
          (hThings thing (Catalog.find?_some hThing).1) id
      · exact hStates

theorem holds_recordChanges
    {scene : Scene}
    (hHolds : scene.Holds may) :
    (recordChanges scene).Holds may := by
  rw [recordChanges_eq]
  exact
    { things := hHolds.things
      flags := hHolds.flags
      states :=
        recordedStates_all hHolds.things hHolds.states }

/- A turn brings only granted values into a scene. -/
theorem holds_execute
    {game : Game}
    (hGrants : game.world.Grants may)
    (hHolds : game.scene.Holds may)
    (line : String) :
    (game.execute line).value.1.scene.Holds may := by
  have hNext : (nextTurn game.scene).Holds may :=
    { things := hHolds.things
      flags := hHolds.flags
      states := hHolds.states }
  rw [execute_value]
  exact holds_recordChanges
    (hNext.edits (turn_edits hGrants line))

------------------------------------------------------------
-- Recorded States
------------------------------------------------------------

/- What has been recorded of a thing after some of them. -/
theorem get?_foldl_recordedState
    (world : World)
    (ids : List String)
    (states : Dict ThingState)
    (id : String) :
    (ids.foldl (recordedState world) states).get? id =
      if id ∈ ids then
        ((world.thing? id).map .capture).or (states.get? id)
      else
        states.get? id := by
  induction ids generalizing states with
  | nil => rfl
  | cons first rest ih =>
      rw [List.foldl_cons, ih]
      unfold recordedState
      by_cases hSame : id = first
      · subst hSame
        cases hThing : world.thing? id with
        | none => simp
        | some thing => simp
      · cases hThing : world.thing? first with
        | none => simp [hSame]
        | some thing =>
            simp [hSame, Dict.get?_insert_of_ne states hSame]

/- Recording the changed things leaves none unrecorded. -/
theorem tracks_recordChanges
    {scene : Scene}
    (hTracks : scene.Tracks base) :
    (recordChanges scene).Tracks base := by
  rw [recordChanges_eq]
  refine
    { thingIds := hTracks.thingIds
      known := by simp [World.forgetChanges]
      states := ?_
      rooms := hTracks.rooms
      puzzles := hTracks.puzzles }
  intro id _
  have hThing :
      scene.world.forgetChanges.thing? id =
        scene.world.thing? id :=
    rfl
  unfold remembered recordedStates
  rw [hThing, get?_foldl_recordedState]
  by_cases hChanged : id ∈ scene.world.changed
  · have hKnown := hTracks.known id hChanged
    rw [← hTracks.thingIds,
      ← Catalog.has_eq_true_iff_mem_ids] at hKnown
    rcases Catalog.exists_find?_of_has hKnown with
      ⟨thing, hFind⟩
    have hSome : scene.world.thing? id = some thing := hFind
    simp [hChanged, hSome]
  · have hState := hTracks.states id hChanged
    unfold remembered at hState
    simp [hChanged, hState]

theorem tracks_execute
    {game : Game}
    (hTracks : game.scene.Tracks base)
    (hCoherent : game.world.IsCoherent)
    (line : String) :
    (game.execute line).value.1.scene.Tracks base := by
  have hNext : (nextTurn game.scene).Tracks base :=
    { thingIds := hTracks.thingIds
      known := hTracks.known
      states := hTracks.states
      rooms := hTracks.rooms
      puzzles := hTracks.puzzles }
  rw [execute_value]
  exact tracks_recordChanges
    (hNext.edits hCoherent
      (turn_edits (World.grants_any game.world) line))

/- A new session remembers the visit to its first room. -/
theorem tracks_opening
    {content : Content}
    (hValid : content.IsValid)
    (id : SessionId) :
    (opening id (World.ofContent content)).Tracks
      (World.ofContent content) where
  thingIds := rfl
  known := by
    intro other hMem
    cases hMem
  states := by
    intro other _
    rfl
  rooms := by
    have hRooms :=
      World.rooms_visit
        (World.ofContent_isCoherent hValid).roomIds
        (World.ofContent content).rules.startRoom
    unfold opening
    dsimp only
    rw [hRooms, List.map_map]
    rfl
  puzzles := (List.map_id' _).symm

end Game

end TextAdventure
