import TextAdventure.Direction
import TextAdventure.Verb

/-
  Warnings: what content or a save gets wrong without
  stopping the game.

  Key definitions include:
    * `Warning`
    * `Warning.message`
    * `Warning.fields`
    * `Logged`
-/

namespace TextAdventure

------------------------------------------------------------
-- Warnings
------------------------------------------------------------

/- A mistake that is passed over, with what it concerns. -/
inductive Warning where
| exitToUnknownRoom
    (room : String) (exit : Direction) (destination : String)
| unknownDoor (room : String) (door : String)
| unknownDependency (puzzle : String) (dependency : String)
| unknownScriptThing (thing : String) (verb : Verb)
| unresolvedPlacement (thing : String)
| embeddedFallback
| relocationRefused (thing : String)
| wornStateOfUnknown (thing : String)
| wearingUncarried (thing : String)
| exitNotUnlocked (exit : String)
| unknownRevealed (thing : String)
| thingNotMoved (thing : String) (room : String)
| propertyNotSet (thing : String) (property : String)
| exitLeadsNowhere (destination : String)
| passLimitHit (passes : UInt64)
| savedUnknownThing (thing : String)
| savedPlacementRefused (thing : String)
| savedUnknownPuzzle (puzzle : String)
| savedUnknownExit (exit : String)
| savedWornUncarried (thing : String)
| inventoryEntryDropped (thing : String)
| inventoryEntryAdded (thing : String)
deriving DecidableEq

namespace Warning

/- What a warning says. -/
def message : Warning → String
| .exitToUnknownRoom .. => "exit leads to an unknown room"
| .unknownDoor .. => "exit door is not a known object"
| .unknownDependency .. =>
    "puzzle depends on an unknown puzzle"
| .unknownScriptThing .. => "script targets an unknown object"
| .unresolvedPlacement _ =>
    "skipping dynamic object with unresolved placement"
| .embeddedFallback => "falling back to embedded content"
| .relocationRefused _ => "relocation refused"
| .wornStateOfUnknown _ =>
    "cannot set worn state of unknown object"
| .wearingUncarried _ =>
    "cannot wear an object that isn't carried"
| .exitNotUnlocked _ => "cannot unlock exit"
| .unknownRevealed _ => "cannot reveal unknown object"
| .thingNotMoved .. => "cannot move object"
| .propertyNotSet .. => "cannot set property"
| .exitLeadsNowhere _ => "exit leads nowhere"
| .passLimitHit _ => "puzzle evaluation hit the pass limit"
| .savedUnknownThing _ => "save refers to an unknown object"
| .savedPlacementRefused _ =>
    "saved placement no longer valid"
| .savedUnknownPuzzle _ => "save refers to an unknown puzzle"
| .savedUnknownExit _ => "saved exit no longer exists"
| .savedWornUncarried _ => "saved as worn but not carried"
| .inventoryEntryDropped _ =>
    "dropping inventory entry the world doesn't carry"
| .inventoryEntryAdded _ =>
    "adding carried object missing from inventory"

/- The names and texts of what a warning concerns. -/
def fields : Warning → List (String × String)
| .exitToUnknownRoom room exit destination =>
    [("room", room), ("exit", exit.name),
      ("destination", destination)]
| .unknownDoor room door => [("room", room), ("door", door)]
| .unknownDependency puzzle dependency =>
    [("puzzle", puzzle), ("dependency", dependency)]
| .unknownScriptThing thing verb =>
    [("object", thing), ("verb", verb.prompt)]
| .unresolvedPlacement thing => [("object", thing)]
| .embeddedFallback => []
| .relocationRefused thing => [("object", thing)]
| .wornStateOfUnknown thing => [("object", thing)]
| .wearingUncarried thing => [("object", thing)]
| .exitNotUnlocked exit => [("exit", exit)]
| .unknownRevealed thing => [("object", thing)]
| .thingNotMoved thing room =>
    [("object", thing), ("room", room)]
| .propertyNotSet thing property =>
    [("object", thing), ("property", property)]
| .exitLeadsNowhere destination =>
    [("destination", destination)]
| .passLimitHit passes =>
    [("passes", toString passes.toNat)]
| .savedUnknownThing thing => [("object", thing)]
| .savedPlacementRefused thing => [("object", thing)]
| .savedUnknownPuzzle puzzle => [("puzzle", puzzle)]
| .savedUnknownExit exit => [("exit", exit)]
| .savedWornUncarried thing => [("object", thing)]
| .inventoryEntryDropped thing => [("object", thing)]
| .inventoryEntryAdded thing => [("object", thing)]

end Warning

------------------------------------------------------------
-- Logged Results
------------------------------------------------------------

/- A result with the warnings given on the way, in order. -/
structure Logged (α : Type) where
  value : α
  warnings : List Warning
deriving DecidableEq

namespace Logged

variable {α β : Type}

/- A result without warnings. -/
def silent (value : α) : Logged α where
  value := value
  warnings := []

/- Another result with the same warnings. -/
def map (change : α → β) (logged : Logged α) : Logged β where
  value := change logged.value
  warnings := logged.warnings

/- Go on with a result, after the warnings it came with. -/
def bind (logged : Logged α) (next : α → Logged β) :
    Logged β where
  value := (next logged.value).value
  warnings := logged.warnings ++ (next logged.value).warnings

/- The result after some earlier warnings. -/
def after (warnings : List Warning) (logged : Logged α) :
    Logged α where
  value := logged.value
  warnings := warnings ++ logged.warnings

end Logged

end TextAdventure
