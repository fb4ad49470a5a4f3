import TextAdventure.Play.Carrying
import TextAdventure.Play.Looking
import TextAdventure.Scene.Scripts

/-
  Verbs that change the state of a thing: open, close, switch
  on and off, burn, search, focus, become, unscrew and screw.

  What such verbs find and leave behind beyond the flags of a
  thing are entries of its custom state.

  Key definitions include:
    * `CustomKey`
    * `Scene.openThing`
    * `Scene.switch`
    * `Scene.burn`
    * `Scene.unscrew` and `Scene.screw`
-/

namespace TextAdventure

------------------------------------------------------------
-- Custom State
------------------------------------------------------------

namespace CustomKey

/- Whether a thing has been searched. -/
def searched : String := "searched"

/- Whether a thing has been burned. -/
def burned : String := "burned"

/- Whether a thing can be burned. -/
def flammable : String := "flammable"

/- Whether a thing can set others on fire. -/
def fireSource : String := "fireSource"

/- Whether the screws of a thing are in; only if it has any. -/
def screwed : String := "screwed"

/- The id of the tool that the screws need. -/
def tool : String := "tool"

/- Whether the player has focused on a thing. -/
def focused : String := "focused"

end CustomKey

namespace Scene

/- The scene with a truth value in a thing's custom state. -/
def mark
    (scene : Scene)
    (thing : Thing)
    (key : String)
    (value : Bool) : Scene :=
  scene.updateThing thing.id
    (fun thing => thing.withState key (.boolean value))

------------------------------------------------------------
-- Opening
------------------------------------------------------------

/- The scene with a thing opened or closed. -/
def setOpen (scene : Scene) (id : String) (isOpen : Bool) :
    Scene :=
  scene.updateThing id (fun thing => { thing with isOpen })

/- Open a thing. -/
def openThing (scene : Scene) (command : Command) :
    Handled := do
  let thing ← scene.target command .open
  check thing.isOpenable (.notOpenable thing.name)
  check (!thing.isOpen) (.alreadyOpen thing.name)
  check (!thing.isLocked) (.locked thing.name)
  let after := scene.setOpen thing.id true
  let contents := after.visibleContents thing.id
  return (after,
    .about thing
      ("You open the " ++ thing.name ++ "." ++
        if contents.isEmpty then ""
        else " Inside you see: " ++ listThings contents ++ "."))

/- Close a thing. -/
def closeThing (scene : Scene) (command : Command) :
    Handled := do
  let thing ← scene.target command .close
  check thing.isOpenable (.notOpenable thing.name)
  check thing.isOpen (.alreadyClosed thing.name)
  return (scene.setOpen thing.id false,
    .about thing ("You close the " ++ thing.name ++ "."))

------------------------------------------------------------
-- Switching
------------------------------------------------------------

/- Why a thing cannot be switched, if it is as asked for. -/
def switchRefusal (on : Bool) (thing : Thing) : Refusal :=
  if on then .alreadyOn thing.name else .alreadyOff thing.name

/- The scene with a thing switched on or off, and the thing. -/
def flipSwitch
    (scene : Scene)
    (command : Command)
    (on : Bool) : Except Refusal (Scene × Thing) := do
  let thing ←
    scene.target command (if on then .switchOn else .switchOff)
  check thing.isSwitchable (.notSwitchable thing.name)
  check (thing.isSwitchedOn != on) (switchRefusal on thing)
  let after :=
    scene.updateThing thing.id
      (fun thing => { thing with isSwitchedOn := on })
  return (after, thing)

/- Switch a thing on or off; new light shows the room. -/
def switch
    (scene : Scene)
    (command : Command)
    (on : Bool) : Done :=
  scene.carryOut (scene.flipSwitch command on)
    (fun after thing => do
      let surroundings ←
        if scene.isLit == after.isLit then .ok ""
        else after.describeRoom
      let switched :=
        "You switch " ++ (if on then "on" else "off") ++
          " the " ++ thing.name ++ "."
      return .about thing
        (Text.joinLines [switched, surroundings]))

------------------------------------------------------------
-- Burning
------------------------------------------------------------

/- The carried thing that is to set others on fire. -/
def fireSource (scene : Scene) :
    Option String → Except Refusal Thing
| some noun => do
    let tool ← scene.named noun
    check tool.placement.isCarried (.notCarried tool.name)
    check (tool.hasState CustomKey.fireSource)
      (.notAFireSource tool.name)
    return tool
| none =>
    demand
      (scene.carriedThings.find? (fun thing =>
        thing.hasState CustomKey.fireSource))
      .noFireSource

/- Burn a thing. -/
def burn (scene : Scene) (command : Command) : Handled := do
  let thing ← scene.target command .burn
  check (thing.hasState CustomKey.flammable)
    (.notFlammable thing.name)
  check (!thing.hasState CustomKey.burned)
    (.alreadyBurned thing.name)
  let source ← scene.fireSource command.secondNoun
  return (scene.mark thing CustomKey.burned true,
    .about thing
      ("You hold the " ++ source.name ++ " to the " ++
        thing.name ++ ". It catches at once."))

------------------------------------------------------------
-- Searching And Focusing
------------------------------------------------------------

/- Search a thing. -/
def search (scene : Scene) (command : Command) : Handled := do
  let thing ← scene.target command .search
  let after := scene.mark thing CustomKey.searched true
  let contents := after.visibleContents thing.id
  let message :=
    if !contents.isEmpty then
      "You search the " ++ thing.name ++ " and find: " ++
        listThings contents ++ "."
    else if thing.hasState CustomKey.searched then
      "You search the " ++ thing.name ++
        " again, but find nothing new."
    else
      "You search the " ++ thing.name ++ "."
  return (after, .about thing message)

/- Focus on a thing. -/
def focus (scene : Scene) (command : Command) : Handled := do
  let thing ← scene.target command .focus
  return (scene.mark thing CustomKey.focused true,
    .about thing
      ("You focus all your attention on the " ++ thing.name ++
        "."))

------------------------------------------------------------
-- Becoming
------------------------------------------------------------

/-
  Become a thing: the void by wearing its thing, and others
  only if a script says what happens.
-/
def become (scene : Scene) (command : Command) : Handled := do
  let thing ← scene.target command .become
  if scene.world.rules.isVoidThing thing.id then
    scene.wearThing thing
  else
    check (!(scene.pendingScripts thing.id .become).isEmpty)
      (.cannotBecome thing.name)
    return (scene, .about thing "")

------------------------------------------------------------
-- Screws
------------------------------------------------------------

/- The name of a tool, or its id if the world lacks it. -/
def toolName (scene : Scene) (tool : String) : String :=
  match scene.world.thing? tool with
  | some thing => thing.name
  | none => tool

/- Whether a noun, if there is one, means a tool. -/
def meansTool
    (scene : Scene)
    (tool : String) :
    Option String → Except Refusal Bool
| some noun => do
    let id ← scene.resolve noun
    return id == tool
| none => .ok true

/-
  Check that the screws of a thing are as they have to be and
  that the tool for them is carried, and name the tool.
-/
def checkScrews
    (scene : Scene)
    (command : Command)
    (thing : Thing)
    (unscrewing : Bool) : Except Refusal (Option String) := do
  let screwed ←
    demand (thing.customState.get? CustomKey.screwed)
      (.noScrews thing.name)
  check (screwed.isTruthy == unscrewing)
    (if unscrewing then .alreadyUnscrewed thing.name
      else .alreadyScrewed thing.name)
  match (thing.customState.get? CustomKey.tool).bind
      Value.asText? with
  | none => return none
  | some tool =>
      let name := scene.toolName tool
      let isMeant ← scene.meansTool tool command.secondNoun
      check isMeant (.needsTool name)
      check (scene.world.isCarried tool) (.needsTool name)
      return some name

/- Unscrew a thing. -/
def unscrew (scene : Scene) (command : Command) : Handled := do
  let thing ← scene.target command .unscrew
  let tool ← scene.checkScrews command thing true
  let withTool :=
    match tool with
    | some tool => " with the " ++ tool
    | none => ""
  return (scene.mark thing CustomKey.screwed false,
    .about thing
      ("You unscrew the " ++ thing.name ++ withTool ++ "."))

/- Screw a thing back in place. -/
def screw (scene : Scene) (command : Command) : Handled := do
  let thing ← scene.target command .screw
  let _ ← scene.checkScrews command thing false
  return (scene.mark thing CustomKey.screwed true,
    .about thing
      ("You screw the " ++ thing.name ++ " back in place."))

end Scene

end TextAdventure
