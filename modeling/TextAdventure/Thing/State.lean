import TextAdventure.Thing.Basic

/-
  The part of a thing that play changes and a save keeps.

  Names and descriptions are left out, so that content can be
  edited without spoiling saves.

  Key definitions include:
    * `ThingState`
    * `ThingState.capture`
    * `ThingState.applyFlags`
-/

namespace TextAdventure

------------------------------------------------------------
-- Saved State
------------------------------------------------------------

/- The placement, changing flags and custom state of a thing. -/
structure ThingState where
  placement : Placement
  hidden : Bool
  isWorn : Bool
  isOpen : Bool
  isLocked : Bool
  isLit : Bool
  isSwitchedOn : Bool
  customState : Dict Value
deriving DecidableEq

namespace ThingState

/- The state of a thing as it is. -/
def capture (thing : Thing) : ThingState where
  placement := thing.placement
  hidden := thing.hidden
  isWorn := thing.isWorn
  isOpen := thing.isOpen
  isLocked := thing.isLocked
  isLit := thing.isLit
  isSwitchedOn := thing.isSwitchedOn
  customState := thing.customState

/- A thing with all of a state but the placement. -/
def applyFlags (state : ThingState) (thing : Thing) : Thing :=
  { thing with
      hidden := state.hidden
      isWorn := state.isWorn
      isOpen := state.isOpen
      isLocked := state.isLocked
      isLit := state.isLit
      isSwitchedOn := state.isSwitchedOn
      customState := state.customState }

/- Applying a thing's own state changes nothing. -/
@[simp] theorem applyFlags_capture (thing : Thing) :
    (capture thing).applyFlags thing = thing := rfl

end ThingState

end TextAdventure
