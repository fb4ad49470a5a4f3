import TextAdventure.Proofs.Play.Capability
import TextAdventure.Proofs.Play.Listings
import TextAdventure.Proofs.Play.Refusal
import TextAdventure.Proofs.World.Chains

/-
  What is shown can be acted on.

  Descriptions go by what rooms list and containers hold, and
  nouns by what can be reached along chains of containers. Of
  what a description names, each thing is in reach when the
  text is composed. In the dark nothing is named but what is
  inside a thing that was itself in hand.

  Main declarations:
    * `World.ListsPlaced`
    * `Scene.canReach_of_mem_visibleContents`
    * `Scene.Unveils`
    * `Scene.DescribesInReach`
    * `Scene.shown_things_are_in_reach`
-/

namespace TextAdventure

open Relation (ReflTransGen)

namespace World

variable {world before after : World}
variable {id : String}

------------------------------------------------------------
-- Listings And Placements
------------------------------------------------------------

/- Every room lists the things that are placed in it. -/
def ListsPlaced (world : World) : Prop :=
  ∀ id room, world.room? id = some room →
    ∀ thing, thing ∈ room.things ↔
      world.Places thing (.room id)

/- A room is found with the same listing in like lists. -/
theorem things_find?_of_forall₂
    {rooms others : List Room}
    (hAlike :
      List.Forall₂
        (fun old new =>
          (new.id, new.things) = (old.id, old.things))
        rooms others)
    (id : String) :
    (Catalog.find? id others).map Room.things =
      (Catalog.find? id rooms).map Room.things := by
  induction hAlike with
  | nil => rfl
  | @cons old new olds news hHead _ ih =>
      simp only [Prod.mk.injEq] at hHead
      rcases hHead with ⟨hId, hThings⟩
      cases hOlds : Catalog.find? id olds with
      | some found =>
          rcases Option.map_eq_some_iff.mp
            (ih.trans (by rw [hOlds, Option.map_some])) with
            ⟨other, hOther, hSame⟩
          simp [Catalog.find?, hOlds, hOther, hSame]
      | none =>
          rw [hOlds, Option.map_none,
            Option.map_eq_none_iff] at ih
          by_cases hHere : old.id = id
          · simp [Catalog.find?, hOlds, ih, hId, hHere,
              hThings]
          · simp [Catalog.find?, hOlds, ih, hId, hHere]

/- The listing of a room is part of the layout. -/
theorem things_room?_of_layout_eq
    (hLayout : after.layout = before.layout)
    (id : String) :
    (after.room? id).map Room.things =
      (before.room? id).map Room.things :=
  things_find?_of_forall₂
    (Catalog.forall₂_of_map_eq (congrArg Prod.fst hLayout)) id

theorem ListsPlaced.of_layout_eq
    (hListed : before.ListsPlaced)
    (hLayout : after.layout = before.layout) :
    after.ListsPlaced := by
  intro id room hRoom thing
  have hThings := things_room?_of_layout_eq hLayout id
  rw [hRoom] at hThings
  rcases Option.map_eq_some_iff.mp hThings.symm with
    ⟨old, hOld, hSame⟩
  rw [← hSame, places_of_layout_eq hLayout]
  exact hListed id old hOld thing

end World

namespace Scene

variable {scene after : Scene}
variable {command : Command}
variable {reply : Reply}
variable {thing content : Thing}
variable {room : Room}

/- The listed things are those that lie there to be seen. -/
theorem mem_listedThings_iff
    (hIds : (Catalog.ids scene.world.things).Nodup)
    (hListed : scene.world.ListsPlaced)
    (hRoom : scene.room? = some room)
    (thing : Thing) :
    thing ∈ scene.listedThings ↔
      thing ∈ scene.world.things ∧
        thing.placement = .room scene.session.currentRoom ∧
        thing.hidden = false ∧
        thing.isScenery = false := by
  have hHere (id : String) := hListed _ room hRoom id
  simp only [listedThings, thingsIn_currentRoom hRoom,
    List.mem_filter, List.mem_filterMap, hHere,
    Bool.and_eq_true, Bool.not_eq_true']
  constructor
  · rintro ⟨⟨id, hPlaces, hThing⟩, hSeen⟩
    rcases (World.places_iff hIds).mp hPlaces with
      ⟨found, hFound, hPlacement⟩
    have hSame : found = thing :=
      Option.some.inj (hFound.symm.trans hThing)
    subst hSame
    exact ⟨(Catalog.find?_some hThing).1, hPlacement, hSeen⟩
  · rintro ⟨hMem, hPlacement, hSeen⟩
    exact ⟨⟨thing.id, ⟨thing, hMem, rfl, hPlacement⟩,
      (Catalog.find?_eq_some_iff hIds).mpr ⟨hMem, rfl⟩⟩, hSeen⟩

------------------------------------------------------------
-- Reach
------------------------------------------------------------

theorem canReach_iff :
    scene.canReach thing = true ↔
      scene.world.Accessible scene.session.currentRoom
          thing.id ∧
        (scene.isLit = true ∨
          scene.world.isHeld thing.id = true) := by
  simp [canReach, World.isAccessible_iff]

theorem mem_visibleContents_iff
    {id : String} :
    content ∈ scene.visibleContents id ↔
      (∃ outer, scene.world.thing? id = some outer ∧
        outer.isOpenContainer = true) ∧
      content ∈ scene.world.things ∧
        content.placement = .container id ∧
        content.hidden = false := by
  have hInside :
      content.placement.container? = some id ↔
        content.placement = .container id := by
    cases content.placement <;> simp [Placement.container?]
  unfold visibleContents
  split
  · rename_i hOpen
    rw [World.isOpenContainer_eq_true_iff] at hOpen
    rw [and_iff_right hOpen]
    simp [World.contentsOf, hInside,
      and_comm (a := content.hidden = false)]
  · rename_i hClosed
    rw [World.isOpenContainer_eq_true_iff] at hClosed
    simp [hClosed]

/- What is seen in a thing in reach is itself in reach. -/
theorem canReach_of_mem_visibleContents
    (hIds : (Catalog.ids scene.world.things).Nodup)
    (hReach : scene.canReach thing = true)
    (hMem : content ∈ scene.visibleContents thing.id) :
    scene.canReach content = true := by
  rcases mem_visibleContents_iff.mp hMem with
    ⟨⟨outer, hOuter, hOpen⟩, hKnown, hInside, hSeen⟩
  rcases canReach_iff.mp hReach with ⟨hAccessible, hLight⟩
  have hFound :
      scene.world.thing? content.id = some content :=
    (Catalog.find?_eq_some_iff hIds).mpr ⟨hKnown, rfl⟩
  refine canReach_iff.mpr
    ⟨.inside hFound hInside hSeen hOuter hOpen hAccessible,
      hLight.imp_right ?_⟩
  intro hHeld
  rw [World.isHeld_iff] at hHeld ⊢
  rcases hHeld with ⟨last, hChain, hCarried⟩
  exact ⟨last,
    .head (inside_iff.mpr ⟨content, hFound, hInside⟩) hChain,
    hCarried⟩

/- What a lit room shows to lie in it is in reach. -/
theorem canReach_of_mem_listedThings
    (hIds : (Catalog.ids scene.world.things).Nodup)
    (hListed : scene.world.ListsPlaced)
    (hRoom : scene.room? = some room)
    (hLit : scene.isLit = true)
    (hMem : thing ∈ scene.listedThings) :
    scene.canReach thing = true := by
  rcases (mem_listedThings_iff hIds hListed hRoom thing).mp
    hMem with ⟨hKnown, hHere, hSeen, -⟩
  have hFound :
      scene.world.thing? thing.id = some thing :=
    (Catalog.find?_eq_some_iff hIds).mpr ⟨hKnown, rfl⟩
  exact canReach_iff.mpr
    ⟨.here hFound hHere hSeen, Or.inl hLit⟩

------------------------------------------------------------
-- Changes That Put Nothing Out Of Reach
------------------------------------------------------------

/-
  A change of a thing that leaves it where it is and as it is
  seen, with the same light, and closes nothing.
-/
structure Unveils (change : Thing → Thing) : Prop where
  id : ∀ thing, (change thing).id = thing.id
  placement :
    ∀ thing, (change thing).placement = thing.placement
  hidden : ∀ thing, (change thing).hidden = thing.hidden
  light :
    ∀ thing, (change thing).givesLight = thing.givesLight
  openness :
    ∀ thing, thing.isOpenContainer = true →
      (change thing).isOpenContainer = true

theorem unveils_open :
    Unveils (fun thing => { thing with isOpen := true }) where
  id _ := rfl
  placement _ := rfl
  hidden _ := rfl
  light _ := rfl
  openness thing hOpen := by
    have hContainer : thing.isContainer = true :=
      (Thing.isOpenContainer_iff.mp hOpen).1
    simp [Thing.isOpenContainer, hContainer]

theorem unveils_withState (key : String) (value : Value) :
    Unveils (fun thing => thing.withState key value) where
  id _ := rfl
  placement _ := rfl
  hidden _ := rfl
  light _ := rfl
  openness _ hOpen := hOpen

namespace Unveils

variable {change : Thing → Thing}
variable {world : World}

/- A known thing is found where it was and no less open. -/
theorem exists_thing?
    (hUnveils : Unveils change)
    (key : String)
    {id : String}
    (hThing : world.thing? id = some thing) :
    ∃ new, (world.updateThing key change).thing? id =
        some new ∧
      new.placement = thing.placement ∧
      new.hidden = thing.hidden ∧
      (thing.isOpenContainer = true →
        new.isOpenContainer = true) := by
  by_cases hId : id = key
  · subst hId
    rw [World.thing?_updateThing_self world hUnveils.id,
      hThing]
    exact ⟨change thing, rfl, hUnveils.placement thing,
      hUnveils.hidden thing, hUnveils.openness thing⟩
  · rw [World.thing?_updateThing_of_ne world hUnveils.id hId,
      hThing]
    exact ⟨thing, rfl, rfl, rfl, fun hOpen => hOpen⟩

theorem accessible
    (hUnveils : Unveils change)
    (key : String)
    {room id : String}
    (hReach : world.Accessible room id) :
    (world.updateThing key change).Accessible room id := by
  induction hReach with
  | carried hThing hCarried =>
      rcases hUnveils.exists_thing? key hThing with
        ⟨new, hNew, hPlacement, -, -⟩
      exact .carried hNew (hPlacement.trans hCarried)
  | here hThing hHere hSeen =>
      rcases hUnveils.exists_thing? key hThing with
        ⟨new, hNew, hPlacement, hHidden, -⟩
      exact .here hNew (hPlacement.trans hHere)
        (hHidden.trans hSeen)
  | inside hThing hInside hSeen hOuter hOpen _ ih =>
      rcases hUnveils.exists_thing? key hThing with
        ⟨new, hNew, hPlacement, hHidden, -⟩
      rcases hUnveils.exists_thing? key hOuter with
        ⟨outer, hFound, -, -, hOpens⟩
      exact .inside hNew (hPlacement.trans hInside)
        (hHidden.trans hSeen) hFound (hOpens hOpen) ih

theorem isHeld
    (hUnveils : Unveils change)
    (key : String)
    {id : String}
    (hHeld : world.isHeld id = true) :
    (world.updateThing key change).isHeld id = true := by
  rw [World.isHeld_iff] at hHeld ⊢
  rcases hHeld with ⟨outer, hChain, hCarried⟩
  refine ⟨outer, ReflTransGen.mono ?_ _ _ hChain, ?_⟩
  · intro inner next hInside
    rcases inside_iff.mp hInside with
      ⟨thing, hThing, hPlaced⟩
    rcases hUnveils.exists_thing? key hThing with
      ⟨new, hNew, hPlacement, -, -⟩
    exact inside_iff.mpr
      ⟨new, hNew, hPlacement.trans hPlaced⟩
  · cases hThing : world.thing? outer with
    | none => simp [World.isCarried, hThing] at hCarried
    | some thing =>
        rcases hUnveils.exists_thing? key hThing with
          ⟨new, hNew, hPlacement, -, -⟩
        simpa [World.isCarried, hThing, hNew, hPlacement]
          using hCarried

theorem hasLight
    (hUnveils : Unveils change)
    (key room : String) :
    (world.updateThing key change).hasLight room =
      world.hasLight room := by
  -- Light goes by two fields of each thing only.
  let view (thing : Thing) : Bool × Placement :=
    (thing.givesLight, thing.placement)
  have hLight (world : World) :
      world.hasLight room =
        (world.things.map view).any (fun seen =>
          seen.1 &&
            (seen.2.isCarried ||
              seen.2.room? == some room)) := by
    simp [World.hasLight, List.any_map, Function.comp_def,
      view]
  have hKeeps (thing : Thing) :
      view (change thing) = view thing := by
    simp [view, hUnveils.light, hUnveils.placement]
  rw [hLight, hLight,
    World.map_things_updateThing world hKeeps key]

theorem isLit
    (hUnveils : Unveils change)
    (scene : Scene)
    (key : String) :
    (scene.updateThing key change).isLit = scene.isLit := by
  simp [Scene.isLit, Scene.room?, World.room?,
    Scene.updateThing, hUnveils.hasLight]

/- What was in reach is so also after the change. -/
theorem canReach
    (hUnveils : Unveils change)
    (key : String)
    (hReach : scene.canReach thing = true) :
    (scene.updateThing key change).canReach thing = true := by
  rcases canReach_iff.mp hReach with ⟨hAccessible, hLight⟩
  refine canReach_iff.mpr
    ⟨hUnveils.accessible key hAccessible, ?_⟩
  rw [hUnveils.isLit]
  exact hLight.imp_right (hUnveils.isHeld key)

end Unveils

------------------------------------------------------------
-- Descriptions
------------------------------------------------------------

/-
  What the description of a scene names. In a lit room it
  lists exactly the things that lie there to be seen, each of
  them in reach with all that is seen in it. Without light it
  is about the room alone.
-/
structure DescribesInReach
    (scene : Scene)
    (room : Room) : Prop where
  lit :
    scene.isLit = true →
      ∃ things,
        scene.describeRoom =
            .ok (openingText room ++ scene.listingText things ++
              exitsText room) ∧
          (∀ thing, thing ∈ things ↔
            thing ∈ scene.world.things ∧
              thing.placement =
                .room scene.session.currentRoom ∧
              thing.hidden = false ∧
              thing.isScenery = false) ∧
          ∀ thing ∈ things,
            scene.canReach thing = true ∧
              ∀ content ∈ scene.visibleContents thing.id,
                scene.canReach content = true
  unlit :
    scene.isLit = false →
      scene.describeRoom = .ok (darkText room)

theorem describesInReach
    (hIds : (Catalog.ids scene.world.things).Nodup)
    (hListed : scene.world.ListsPlaced)
    (hRoom : scene.room? = some room) :
    scene.DescribesInReach room where
  lit hLit := by
    refine ⟨scene.listedThings, ?_,
      mem_listedThings_iff hIds hListed hRoom, ?_⟩
    · simp only [describeRoom, hRoom, hLit, demand, if_true,
        litText, listedText, listingText, openingText,
        String.append_assoc]
      rfl
    · intro thing hMem
      have hReach := canReach_of_mem_listedThings hIds hListed
        hRoom hLit hMem
      exact ⟨hReach, fun content =>
        canReach_of_mem_visibleContents hIds hReach⟩
  unlit hUnlit := by
    simp [describeRoom, hRoom, hUnlit, demand, bind,
      Except.bind, pure, Except.pure]

------------------------------------------------------------
-- Contents
------------------------------------------------------------

/- The sentence on what is inside, if anything is seen. -/
def insideLines (contents : List Thing) : List String :=
  if contents.isEmpty then []
  else ["Inside you see: " ++ listThings contents ++ "."]

/- What is told of a thing apart from what is inside. -/
def ownLines (thing : Thing) : List String :=
  (if thing.description = "" then
      "You see nothing special about the " ++ thing.name ++ "."
    else
      thing.description) ::
    ((if thing.isOpenable then
        [if thing.isOpen then "It is open."
          else "It is closed."]
      else
        []) ++
      (if thing.isSwitchable then
        [if thing.isSwitchedOn then "It is switched on."
          else "It is switched off."]
      else
        []) ++
      (if thing.isWorn then ["You are wearing it."] else []) ++
      (if thing.text.isSome then
        ["There is something written on it."]
      else
        []))

/- What a search finds. -/
def searchText (thing : Thing) (contents : List Thing) :
    String :=
  if contents.isEmpty then
    if thing.hasState CustomKey.searched then
      "You search the " ++ thing.name ++
        " again, but find nothing new."
    else
      "You search the " ++ thing.name ++ "."
  else
    "You search the " ++ thing.name ++ " and find: " ++
      listThings contents ++ "."

/- What a verb tells of a thing and of what is inside it. -/
def insideText
    (verb : Verb)
    (thing : Thing)
    (contents : List Thing) : String :=
  match verb with
  | .open =>
      Text.joinWith " "
        (("You open the " ++ thing.name ++ ".") ::
          insideLines contents)
  | .search => searchText thing contents
  | _ =>
      Text.joinWith " "
        (ownLines thing ++ insideLines contents)

theorem thingLines_eq
    (scene : Scene)
    (thing : Thing) :
    scene.thingLines thing =
      ownLines thing ++
        insideLines (scene.visibleContents thing.id) := by
  cases hEmpty : (scene.visibleContents thing.id).isEmpty <;>
    simp [thingLines, ownLines, insideLines, hEmpty]

/-
  What looking, examining, opening and searching tell: how the
  room looks, or what is inside a thing that is in reach, with
  all of it in reach.
-/
inductive Shows
    (scene : Scene)
    (verb : Verb)
    (after : Scene)
    (reply : Reply) : Prop where
| room
    (hSame : after = scene)
    (hText : scene.describeRoom = .ok reply.message)
| inside
    {thing : Thing}
    (hReach : scene.InReach thing)
    (hTarget : reply.target = some thing.id)
    (hText :
      reply.message =
        insideText verb thing (after.visibleContents thing.id))
    (hInside :
      ∀ content ∈ after.visibleContents thing.id,
        after.canReach content = true)

theorem shows_of_lookAround
    (verb : Verb)
    (hOk : scene.lookAround = .ok (after, reply)) :
    scene.Shows verb after reply := by
  rcases bind_eq_ok_iff.mp hOk with ⟨text, hText, hReturn⟩
  cases hReturn
  exact .room rfl hText

theorem examine_shows
    (hIds : (Catalog.ids scene.world.things).Nodup)
    (hOk : scene.examine command = .ok (after, reply)) :
    scene.Shows .examine after reply := by
  unfold examine at hOk
  split at hOk
  · exact shows_of_lookAround .examine hOk
  · rcases bind_eq_ok_iff.mp hOk with
      ⟨thing, hTarget, hReturn⟩
    cases hReturn
    have hReach := inReach_of_target hTarget
    refine .inside hReach rfl ?_ ?_
    · exact congrArg (Text.joinWith " ")
        (scene.thingLines_eq thing)
    · exact fun content =>
        canReach_of_mem_visibleContents hIds hReach.reach

/- To look at a thing is to examine it. -/
theorem look_shows
    (hIds : (Catalog.ids scene.world.things).Nodup)
    (hOk : scene.look command = .ok (after, reply)) :
    scene.Shows .look after reply := by
  unfold look at hOk
  split at hOk
  · cases examine_shows hIds hOk with
    | room hSame hText => exact .room hSame hText
    | inside hReach hTarget hText hInside =>
        exact .inside hReach hTarget hText hInside
  · exact shows_of_lookAround .look hOk

/- What is seen in a thing after it was changed. -/
theorem Unveils.canReach_of_mem_visibleContents
    {change : Thing → Thing}
    (hUnveils : Unveils change)
    (hIds : (Catalog.ids scene.world.things).Nodup)
    (hReach : scene.InReach thing)
    (hMem :
      content ∈
        (scene.updateThing thing.id change).visibleContents
          thing.id) :
    (scene.updateThing thing.id change).canReach content =
      true := by
  have hNodup :
      (Catalog.ids (scene.updateThing thing.id
        change).world.things).Nodup := by
    rw [updateThing,
      World.ids_updateThing_things _ hUnveils.id]
    exact hIds
  exact Scene.canReach_of_mem_visibleContents hNodup
    (hUnveils.canReach thing.id hReach.reach) hMem

/- The sentence on what is inside follows after a space. -/
theorem openText_eq
    (name : String)
    (contents : List Thing) :
    "You open the " ++ name ++ "." ++
        (if contents.isEmpty then ""
          else
            " Inside you see: " ++ listThings contents ++
              ".") =
      Text.joinWith " "
        (("You open the " ++ name ++ ".") ::
          insideLines contents) := by
  apply String.toList_inj.mp
  cases hEmpty : contents.isEmpty <;>
    simp [insideLines, hEmpty, Text.joinWith]

theorem openThing_shows
    (hIds : (Catalog.ids scene.world.things).Nodup)
    (hOk : scene.openThing command = .ok (after, reply)) :
    scene.Shows .open after reply := by
  simp only [openThing, bind_eq_ok_iff, pure_eq_ok_iff] at hOk
  rcases hOk with
    ⟨thing, hTarget, -, -, -, -, -, -, hReturn⟩
  cases hReturn
  have hReach := inReach_of_target hTarget
  refine .inside hReach rfl ?_ ?_
  · exact openText_eq thing.name _
  · exact fun content =>
      unveils_open.canReach_of_mem_visibleContents hIds hReach

theorem search_shows
    (hIds : (Catalog.ids scene.world.things).Nodup)
    (hOk : scene.search command = .ok (after, reply)) :
    scene.Shows .search after reply := by
  rcases bind_eq_ok_iff.mp hOk with
    ⟨thing, hTarget, hReturn⟩
  cases hReturn
  have hReach := inReach_of_target hTarget
  refine .inside hReach rfl ?_ ?_
  · generalize
      (scene.mark thing CustomKey.searched
        true).visibleContents thing.id = contents
    cases hEmpty : contents.isEmpty <;>
      simp [Reply.about, insideText, searchText, hEmpty]
  · exact fun content =>
      (unveils_withState _ _).canReach_of_mem_visibleContents
        hIds hReach

------------------------------------------------------------
-- Rooms Described After A Change
------------------------------------------------------------

/- A reply ends with the description of a scene. -/
def EndsWithRoom (after : Scene) (reply : Reply) : Prop :=
  ∃ front text,
    after.describeRoom = .ok text ∧
      reply.message = front ++ text

theorem exists_joinLines_pair (told text : String) :
    ∃ front, Text.joinLines [told, text] = front ++ text := by
  by_cases hTold : told = ""
  · refine ⟨"", ?_⟩
    by_cases hText : text = "" <;>
      simp [Text.joinLines, Text.joinWith, hTold, hText]
  · by_cases hText : text = ""
    · exact ⟨told,
        by simp [Text.joinLines, Text.joinWith, hTold, hText]⟩
    · exact ⟨told ++ "\n",
        by simp [Text.joinLines, Text.joinWith, hTold, hText]⟩

/-
  A reply ends with the description of a scene, which names
  what is in reach there.
-/
def TellsInReach (after : Scene) (reply : Reply) : Prop :=
  EndsWithRoom after reply ∧
    ∃ room, after.room? = some room ∧
      after.DescribesInReach room

/- Everything is still in its place when the room is told of. -/
theorem EndsWithRoom.tellsInReach
    (hEnds : EndsWithRoom after reply)
    (hIds : (Catalog.ids scene.world.things).Nodup)
    (hListed : scene.world.ListsPlaced)
    (hLayout : after.world.layout = scene.world.layout) :
    after.TellsInReach reply := by
  refine ⟨hEnds, ?_⟩
  rcases hEnds with ⟨front, text, hText, -⟩
  rcases demand_bind_eq_ok_iff.mp hText with ⟨room, hRoom, -⟩
  refine ⟨room, hRoom,
    describesInReach ?_ (hListed.of_layout_eq hLayout) hRoom⟩
  rw [World.ids_things_of_layout_eq hLayout]
  exact hIds

@[simp] theorem layout_enterRoom
    (scene : Scene)
    (room : String) :
    (scene.enterRoom room).world.layout = scene.world.layout :=
  World.layout_visit scene.world room

theorem layout_of_openDoor
    {exit : Exit}
    {told : String}
    (hOk : scene.openDoor exit = .ok (after, told)) :
    after.world.layout = scene.world.layout := by
  rcases eq_or_opened_of_openDoor hOk with rfl | ⟨door, rfl⟩
  · rfl
  · exact World.layout_updateThing scene.world
      (Thing.written_id (some (.flag .open)) _)
      (Thing.written_placement (some (.flag .open)) _) door

/- Going leaves all things in their places. -/
theorem go_tells_room
    (hOk : scene.go command = (after, .ok reply)) :
    after.world.layout = scene.world.layout ∧
      EndsWithRoom after reply := by
  rcases carryOut_eq_ok_iff.mp hOk with
    ⟨told, hPass, hReport⟩
  rcases bind_eq_ok_iff.mp hReport with
    ⟨text, hText, hReturn⟩
  cases hReturn
  simp only [passExit, bind_eq_ok_iff, pure_eq_ok_iff] at hPass
  rcases hPass with
    ⟨-, -, -, -, exit, -, ⟨opened, word⟩, hDoor, hReturn⟩
  cases hReturn
  rcases exists_joinLines_pair word text with ⟨front, hJoin⟩
  refine ⟨?_, front, text, hText, hJoin⟩
  rw [layout_enterRoom, layout_of_openDoor hDoor]

/- A report on the room around ends with it. -/
theorem reportRoom_tells_room
    {told : String}
    (hOk : scene.reportRoom told = .ok reply) :
    EndsWithRoom scene reply := by
  rcases bind_eq_ok_iff.mp hOk with ⟨text, hText, hReturn⟩
  cases hReturn
  exact ⟨told, text, hText, rfl⟩

theorem sleep_tells_room
    (hOk : scene.sleep = (after, .ok reply)) :
    after.world.layout = scene.world.layout ∧
      EndsWithRoom after reply := by
  rcases carryOut_eq_ok_iff.mp hOk with
    ⟨told, hAsleep, hReport⟩
  rcases bind_eq_ok_iff.mp hAsleep with ⟨rule, -, hChange⟩
  cases hChange
  exact ⟨layout_enterRoom _ _, reportRoom_tells_room hReport⟩

theorem wake_tells_room
    (hOk : scene.wake = (after, .ok reply)) :
    after.world.layout = scene.world.layout ∧
      EndsWithRoom after reply := by
  rcases carryOut_eq_ok_iff.mp hOk with
    ⟨told, hAwake, hReport⟩
  rcases bind_eq_ok_iff.mp hAwake with ⟨rule, -, hChange⟩
  cases hChange
  exact ⟨layout_enterRoom _ _, reportRoom_tells_room hReport⟩

/- New light or new dark is told of when it has come. -/
theorem switch_tells_room
    {on : Bool}
    (hOk : scene.switch command on = (after, .ok reply)) :
    after.world.layout = scene.world.layout ∧
      (after.isLit ≠ scene.isLit →
        EndsWithRoom after reply) := by
  rcases carryOut_eq_ok_iff.mp hOk with
    ⟨thing, hFlip, hReport⟩
  constructor
  · simp only [flipSwitch, bind_eq_ok_iff,
      pure_eq_ok_iff] at hFlip
    rcases hFlip with ⟨found, -, -, -, -, -, hReturn⟩
    cases hReturn
    refine World.layout_updateThing scene.world ?_ ?_ thing.id
    · exact fun _ => rfl
    · exact fun _ => rfl
  · intro hLight
    dsimp only at hReport
    rw [if_neg (by simpa using hLight.symm)] at hReport
    rcases bind_eq_ok_iff.mp hReport with
      ⟨text, hText, hReturn⟩
    cases hReturn
    rcases exists_joinLines_pair
      ("You switch " ++ (if on then "on" else "off") ++
        " the " ++ thing.name ++ ".") text with ⟨front, hJoin⟩
    exact ⟨front, text, hText, hJoin⟩

------------------------------------------------------------
-- All That Is Shown
------------------------------------------------------------

theorem eq_of_settle_eq_ok
    {handled : Handled}
    (hOk : scene.settle handled = (after, .ok reply)) :
    handled = .ok (after, reply) := by
  cases handled with
  | error refusal => simp [settle] at hOk
  | ok result =>
      cases hOk
      rfl

theorem handle_shows
    {verb : Verb}
    (hVerb : verb ∈ [Verb.look, .examine, .open, .search])
    (hIds : (Catalog.ids scene.world.things).Nodup)
    (hOk : scene.handle verb command = (after, .ok reply)) :
    scene.Shows verb after reply := by
  simp only [List.mem_cons, List.not_mem_nil, or_false]
    at hVerb
  rcases hVerb with rfl | rfl | rfl | rfl
  · exact look_shows hIds (eq_of_settle_eq_ok hOk)
  · exact examine_shows hIds (eq_of_settle_eq_ok hOk)
  · exact openThing_shows hIds (eq_of_settle_eq_ok hOk)
  · exact search_shows hIds (eq_of_settle_eq_ok hOk)

/-
  What is shown can be acted on, in the scene in which the
  text is composed: what the description of a room lists, what
  it tells to be inside of that, and what examining, opening
  and searching tell to be inside of a thing. This holds also
  where the player arrives and when the light has changed.
-/
theorem shown_things_are_in_reach
    (hIds : (Catalog.ids scene.world.things).Nodup)
    (hListed : scene.world.ListsPlaced)
    (hRoom : scene.room? = some room) :
    scene.DescribesInReach room ∧
      (∀ verb ∈ [Verb.look, .examine, .open, .search],
        ∀ command after reply,
          scene.handle verb command = (after, .ok reply) →
            scene.Shows verb after reply) ∧
      (∀ verb ∈ [Verb.go, .sleep, .wake],
        ∀ command after reply,
          scene.handle verb command = (after, .ok reply) →
            after.TellsInReach reply) ∧
      ∀ verb ∈ [Verb.switchOn, .switchOff],
        ∀ command after reply,
          scene.handle verb command = (after, .ok reply) →
            after.isLit ≠ scene.isLit →
              after.TellsInReach reply := by
  refine ⟨describesInReach hIds hListed hRoom, ?_, ?_, ?_⟩
  · intro verb hVerb command after reply hOk
    exact handle_shows hVerb hIds hOk
  · intro verb hVerb command after reply hOk
    have hTells :
        after.world.layout = scene.world.layout ∧
          EndsWithRoom after reply := by
      simp only [List.mem_cons, List.not_mem_nil, or_false]
        at hVerb
      rcases hVerb with rfl | rfl | rfl
      · exact go_tells_room hOk
      · exact sleep_tells_room hOk
      · exact wake_tells_room hOk
    exact hTells.2.tellsInReach hIds hListed hTells.1
  · intro verb hVerb command after reply hOk hLight
    have hTells :
        after.world.layout = scene.world.layout ∧
          (after.isLit ≠ scene.isLit →
            EndsWithRoom after reply) := by
      simp only [List.mem_cons, List.not_mem_nil, or_false]
        at hVerb
      rcases hVerb with rfl | rfl
      · exact switch_tells_room hOk
      · exact switch_tells_room hOk
    exact (hTells.2 hLight).tellsInReach hIds hListed hTells.1

/- A coin in a closed jar in hand, in a dark hall. -/
def jarInTheDark : Scene where
  world :=
    { rooms :=
        [{ id := "hall"
           name := "Hall"
           isDark := true
           things := ["table"] }]
      things :=
        [{ id := "table"
           name := "table"
           placement := .room "hall" },
          { id := "jar"
            name := "jar"
            isContainer := true
            isOpenable := true
            placement := .carried },
          { id := "coin"
            name := "coin"
            placement := .container "jar" }] }
  session :=
    { Session.starting default "hall" with
        inventory := ["jar"] }

/- The table is not told of; the coin is, and is in reach. -/
theorem opening_jarInTheDark :
    (Catalog.ids jarInTheDark.world.things).Nodup ∧
      jarInTheDark.world.ListsPlaced ∧
      (∃ room, jarInTheDark.room? = some room ∧
        jarInTheDark.describeRoom = .ok (darkText room)) ∧
      ∃ after reply,
        jarInTheDark.handle .open (.ofLine "open jar") =
            (after, .ok reply) ∧
          reply.message =
            "You open the jar. Inside you see: coin." ∧
          jarInTheDark.Shows .open after reply := by
  have hIds :
      (Catalog.ids jarInTheDark.world.things).Nodup := by
    decide
  have hListed : jarInTheDark.world.ListsPlaced := by
    intro id room hRoom thing
    simp only [jarInTheDark, World.room?, Catalog.find?,
      Option.ite_none_right_eq_some, Option.some.injEq]
      at hRoom
    rcases hRoom with ⟨hId, rfl⟩
    have hHall : "hall" = id := hId
    subst hHall
    simp [jarInTheDark, World.Places, eq_comm]
  have hOpened :
      jarInTheDark.handle .open (.ofLine "open jar") =
        (jarInTheDark.setOpen "jar" true,
          .ok
            { message :=
                "You open the jar. Inside you see: coin."
              target := some "jar" }) := by
    decide +kernel
  have hRoom :
      jarInTheDark.room? =
        some
          { id := "hall"
            name := "Hall"
            isDark := true
            things := ["table"] } :=
    rfl
  have hShown :=
    shown_things_are_in_reach hIds hListed hRoom
  exact ⟨hIds, hListed, ⟨_, hRoom, hShown.1.unlit (by decide)⟩,
    _, _, hOpened, rfl,
    hShown.2.1 .open (by decide) _ _ _ hOpened⟩

end Scene

end TextAdventure
