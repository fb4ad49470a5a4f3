import TextAdventure.Play.Basic

/-
  Verbs that only look: look, examine, read, inventory, help
  and wait.

  Key definitions include:
    * `Scene.describeRoom`
    * `Scene.examine`
    * `helpText`
-/

namespace TextAdventure

namespace Scene

------------------------------------------------------------
-- The Room
------------------------------------------------------------

/- What is said of a dark room without words of its own. -/
def darknessText : String :=
  "It is pitch dark. You can't see a thing."

/- What an unlit room looks like. -/
def darkText (room : Room) : String :=
  room.name ++ "\n" ++
    room.darkDescription.getD darknessText

/- The sentence on the things that lie in the room. -/
def listedText (scene : Scene) : String :=
  if scene.listedThings.isEmpty then
    ""
  else
    "\nYou can see: " ++ listThings scene.listedThings ++ "."

/- The sentence on what a container in the room holds. -/
def contentsText (scene : Scene) (container : Thing) :
    String :=
  let contents := scene.visibleContents container.id
  if contents.isEmpty then
    ""
  else
    "\nThe " ++ container.name ++ " contains: " ++
      listThings contents ++ "."

/- The sentence on the ways out. -/
def exitsText (room : Room) : String :=
  if room.exits.isEmpty then
    ""
  else
    "\nExits: " ++
      Text.joinWith ", "
        (room.exits.map (fun exit => exit.direction.name)) ++
      "."

/- What a lit room looks like. -/
def litText (scene : Scene) (room : Room) : String :=
  let description :=
    if room.description = "" then ""
    else "\n" ++ room.description
  room.name ++ description ++ scene.listedText ++
    String.join (scene.listedThings.map scene.contentsText) ++
    exitsText room

/- What the current room looks like. -/
def describeRoom (scene : Scene) : Except Refusal String := do
  let room ← demand scene.room? .nowhere
  return if scene.isLit then scene.litText room
    else darkText room

/- The report that describes the current room. -/
def lookAround (scene : Scene) : Handled := do
  let text ← scene.describeRoom
  return (scene, { message := text })

------------------------------------------------------------
-- Things
------------------------------------------------------------

/- What can be told of a thing by looking at it. -/
def thingLines (scene : Scene) (thing : Thing) : List String :=
  let contents := scene.visibleContents thing.id
  let when (condition : Bool) (line : String) : List String :=
    if condition then [line] else []
  (if thing.description = "" then
      "You see nothing special about the " ++ thing.name ++ "."
    else
      thing.description) ::
    (when thing.isOpenable
        (if thing.isOpen then "It is open."
          else "It is closed.") ++
      when thing.isSwitchable
        (if thing.isSwitchedOn then "It is switched on."
          else "It is switched off.") ++
      when thing.isWorn "You are wearing it." ++
      when thing.text.isSome
        "There is something written on it." ++
      when (!contents.isEmpty)
        ("Inside you see: " ++ listThings contents ++ "."))

/- Examine a thing, or look around. -/
def examine (scene : Scene) (command : Command) : Handled :=
  if command.noun.isNone then
    scene.lookAround
  else do
    let thing ← scene.target command .examine
    let text := Text.joinWith " " (scene.thingLines thing)
    return (scene, .about thing text)

/- Look around, or examine a thing. -/
def look (scene : Scene) (command : Command) : Handled :=
  if command.noun.isSome then
    scene.examine command
  else
    scene.lookAround

/- Read what is written on a thing. -/
def read (scene : Scene) (command : Command) : Handled := do
  let thing ← scene.target command .read
  let text ← demand thing.text (.nothingToRead thing.name)
  return (scene, .about thing text)

------------------------------------------------------------
-- The Player
------------------------------------------------------------

/- A carried thing as the inventory names it. -/
def carriedName (thing : Thing) : String :=
  if thing.isWorn then thing.name ++ " (worn)" else thing.name

/- List what the player carries. -/
def takeStock (scene : Scene) : Scene × Reply :=
  let names := scene.carriedThings.map carriedName
  let message :=
    if names.isEmpty then
      "You are empty-handed."
    else
      "You are carrying: " ++ listNames names ++ "."
  (scene, { message })

/- Let time pass. -/
def wait (scene : Scene) : Scene × Reply :=
  (scene, { message := "Time passes." })

end Scene

/- The commands there are. -/
def helpText : String :=
  "Movement:  go <direction>, or just " ++
    "n/s/e/w/ne/nw/se/sw/u/d/in/out\n" ++
  "Looking:   look, examine <thing>, read <thing>, " ++
    "search <thing>, inventory\n" ++
  "Objects:   take, drop, put <thing> in <container>, " ++
    "open, close\n" ++
  "Wearing:   wear, remove\n" ++
  "Devices:   switch on <thing>, switch off <thing>, " ++
    "unscrew, screw\n" ++
  "Other:     burn <thing>, focus on <thing>, " ++
    "become <thing>, sleep, wake, wait, help"

/- Tell what commands there are. -/
def Scene.help (scene : Scene) : Scene × Reply :=
  (scene, { message := helpText })

end TextAdventure
