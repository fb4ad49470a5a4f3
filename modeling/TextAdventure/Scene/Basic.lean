import TextAdventure.Session.Basic
import TextAdventure.World.Relocation

/-
  Scenes: a world and the session that is played in it.

  What is seen depends on the light. In an unlit room the
  player can only act on what is in hand.

  Key definitions include:
    * `Scene`
    * `Scene.isLit`
    * `Scene.canReach`
    * `Scene.listedThings`
    * `Scene.visibleContents`
-/

namespace TextAdventure

------------------------------------------------------------
-- Scenes
------------------------------------------------------------

/- A world and the progress made in it. -/
structure Scene where
  world : World
  session : Session
deriving DecidableEq

namespace Scene

/- The room the player is in, if the world has it. -/
def room? (scene : Scene) : Option Room :=
  scene.world.room? scene.session.currentRoom

/- Whether the player can see; nowhere there is no dark. -/
def isLit (scene : Scene) : Bool :=
  match scene.room? with
  | some room =>
      !room.isDark ||
        scene.world.hasLight scene.session.currentRoom
  | none => true

/- Whether the player can act on a thing. -/
def canReach (scene : Scene) (thing : Thing) : Bool :=
  scene.world.isAccessible scene.session.currentRoom
      thing.id &&
    (scene.isLit || scene.world.isHeld thing.id)

/- The things in the room that a description lists. -/
def listedThings (scene : Scene) : List Thing :=
  (scene.world.thingsIn scene.session.currentRoom).filter
    (fun thing => !thing.hidden && !thing.isScenery)

/- What can be seen inside a thing, if it is open for that. -/
def visibleContents (scene : Scene) (container : String) :
    List Thing :=
  if scene.world.isOpenContainer container then
    (scene.world.contentsOf container).filter
      (fun thing => !thing.hidden)
  else
    []

/- The things in the inventory that the world has. -/
def carriedThings (scene : Scene) : List Thing :=
  scene.session.inventory.filterMap scene.world.thing?

/- The scene with a known thing changed. -/
def updateThing
    (scene : Scene)
    (id : String)
    (change : Thing → Thing) : Scene :=
  { scene with world := scene.world.updateThing id change }

end Scene

end TextAdventure
