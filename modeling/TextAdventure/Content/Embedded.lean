import TextAdventure.Content.Basic

/-
  The built-in story: a fairground in the woods, a dream and
  the dark.

  It is played when no other content is given, or when the
  content that is given cannot be read.

  Key definitions include:
    * `Content.embedded`
-/

namespace TextAdventure

namespace EmbeddedStory

------------------------------------------------------------
-- Rooms
------------------------------------------------------------

/- The room "Forest Edge". -/
def forest : Room where
  id := "forest"
  name := "Forest Edge"
  region := "woods"
  description :=
    "Tall pines crowd around a patch of bare earth. A heap " ++
    "of dead leaves has drifted against a fallen trunk. A " ++
    "narrow path leads north."
  exits :=
    [{ direction := .north
       destination := "clearing" }]

/- The room "Clearing". -/
def clearing : Room where
  id := "clearing"
  name := "Clearing"
  region := "woods"
  description :=
    "The trees fall back around a circle of trampled grass. " ++
    "To the east, the faint glow of a fairground shows " ++
    "through a wall of thorny vines."
  exits :=
    [{ direction := .south
       destination := "forest" },
     { direction := .east
       destination := "turnstile-gate"
       blocked := true
       blockedMessage :=
         some "A wall of thorny vines blocks the way east." }]

/- The room "Fairground Gate". -/
def turnstileGate : Room where
  id := "turnstile-gate"
  name := "Fairground Gate"
  region := "fairground"
  description :=
    "A rusted archway spells out LUNA PARK in dead bulbs. A " ++
    "wooden turnstile bars the way east; beside it, a small " ++
    "panel is set into the post."
  exits :=
    [{ direction := .west
       destination := "clearing" },
     { direction := .east
       destination := "midway"
       door := some "wooden-turnstile" }]

/- The room "Midway". -/
def midway : Room where
  id := "midway"
  name := "Midway"
  region := "fairground"
  description :=
    "Empty stalls line the midway, their awnings sagging. A " ++
    "caravan stands at the far end to the north."
  darkDescription :=
    some ("It is too dark to see. Somewhere ahead, canvas " ++
      "flaps in the wind.")
  isDark := true
  exits :=
    [{ direction := .west
       destination := "turnstile-gate" },
     { direction := .north
       destination := "caravan" }]

/- The room "Fortune Teller's Caravan". -/
def caravan : Room where
  id := "caravan"
  name := "Fortune Teller's Caravan"
  region := "fairground"
  description :=
    "A cramped caravan that smells of incense and damp. A " ++
    "narrow bed fills one end; a vent cover is screwed to " ++
    "the wall above it."
  exits :=
    [{ direction := .south
       destination := "midway" }]

/- The room "The Caravan, Dreaming". -/
def dreamCaravan : Room where
  id := "dream-caravan"
  name := "The Caravan, Dreaming"
  region := "dream"
  description :=
    "The caravan again, but wrong: the walls breathe, and a " ++
    "cracked mirror hangs where the vent should be. The " ++
    "door opens onto fog."
  exits :=
    [{ direction := .outward
       destination := "empty-space"
       blocked := true
       blockedMessage :=
         some ("Beyond the door there is only fog. You need " ++
           "something to hold your attention.") }]
  layer := 1

/- The room "Empty Space". -/
def emptySpace : Room where
  id := "empty-space"
  name := "Empty Space"
  region := "dream"
  description :=
    "Nothing. No floor, no sky, only a darkness so complete " ++
    "it feels like cloth."
  exits :=
    [{ direction := .inward
       destination := "dream-caravan" }]
  layer := 1

------------------------------------------------------------
-- Things
------------------------------------------------------------

/- The thing "pine trees". -/
def pineTrees : Thing where
  id := "pine-trees"
  name := "pine trees"
  aliases := ["pines", "trees"]
  description := "Old, dark, and uninterested in you."
  placement := .room "forest"
  isScenery := true

/- The thing "pile of leaves". -/
def pileOfLeaves : Thing where
  id := "pile-of-leaves"
  name := "pile of leaves"
  aliases := ["leaves", "pile", "heap"]
  description :=
    "A damp heap of dead leaves. Something might be buried " ++
    "in it."
  placement := .room "forest"
  isFixed := true
  isContainer := true

/- The thing "lighter". -/
def lighter : Thing where
  id := "lighter"
  name := "lighter"
  aliases := ["zippo"]
  description := "A battered brass lighter. It still sparks."
  placement := .container "pile-of-leaves"
  hidden := true
  customState :=
    .ofList [("fireSource", .boolean true)]

/- The thing "thorny vines". -/
def vines : Thing where
  id := "vines"
  name := "thorny vines"
  aliases := ["vines", "thorns"]
  description :=
    "Brittle, dry vines as thick as your wrist, bristling " ++
    "with thorns."
  placement := .room "clearing"
  isFixed := true
  customState :=
    .ofList [("flammable", .boolean true)]

/- The thing "turnstile panel". -/
def turnstilePanel : Thing where
  id := "turnstile-panel"
  name := "turnstile panel"
  aliases := ["panel"]
  description := "A small tin panel held shut by a bent clip."
  placement := .room "turnstile-gate"
  isOpenable := true
  isFixed := true
  isContainer := true

/- The thing "brass actuator". -/
def turnstileActuator : Thing where
  id := "turnstile-actuator"
  name := "brass actuator"
  aliases := ["actuator", "switch"]
  description := "A brass lever marked OFF and ON."
  placement := .container "turnstile-panel"
  hidden := true
  isFixed := true
  isSwitchable := true

/- The thing "wooden turnstile". -/
def woodenTurnstile : Thing where
  id := "wooden-turnstile"
  name := "wooden turnstile"
  aliases := ["turnstile"]
  description := "Four worn wooden arms on an iron post."
  placement := .room "turnstile-gate"
  isOpenable := true
  isLockable := true
  isLocked := true
  isFixed := true

/- The thing "old lantern". -/
def lantern : Thing where
  id := "lantern"
  name := "old lantern"
  aliases := ["lantern", "lamp"]
  description := "A tin lantern with a fresh battery."
  placement := .room "turnstile-gate"
  isLit := true
  isSwitchable := true

/- The thing "tarnished coin". -/
def coin : Thing where
  id := "coin"
  name := "tarnished coin"
  aliases := ["coin"]
  description := "A fairground token, thin at the edge."
  placement := .room "midway"

/- The thing "faded poster". -/
def poster : Thing where
  id := "poster"
  name := "faded poster"
  aliases := ["poster"]
  description := "A poster pasted to one of the stalls."
  text :=
    some ("MADAME ZORA SEES ALL. Dreams read nightly. Bring " ++
      "your own darkness.")
  placement := .room "midway"
  isFixed := true

/- The thing "narrow bed". -/
def bed : Thing where
  id := "bed"
  name := "narrow bed"
  aliases := ["bed"]
  description := "The mattress sags invitingly."
  placement := .room "caravan"
  isFixed := true

/- The thing "vent cover". -/
def ventCover : Thing where
  id := "vent-cover"
  name := "vent cover"
  aliases := ["vent", "cover"]
  description :=
    "A grille held by four slotted screws. A coin would fit " ++
    "them."
  placement := .room "caravan"
  isFixed := true
  customState :=
    .ofList [("screwed", .boolean true), ("tool", .text "coin")]

/- The thing "old photograph". -/
def photograph : Thing where
  id := "photograph"
  name := "old photograph"
  aliases := ["photograph", "photo"]
  description :=
    "A fortune teller, a little girl, and a mirror."
  text :=
    some ("On the back, in pencil: 'Look into it until it " ++
      "looks back.'")
  placement := .room "caravan"
  hidden := true

/- The thing "cracked mirror". -/
def mirror : Thing where
  id := "mirror"
  name := "cracked mirror"
  aliases := ["mirror"]
  description := "Your reflection is a half-second late."
  placement := .room "dream-caravan"
  isFixed := true

/- The thing "void". -/
def darkness : Thing where
  id := "void"
  name := "void"
  aliases := ["darkness", "nothing"]
  description :=
    "A fold of darkness, soft as velvet. It looks like it " ++
    "could be worn."
  placement := .room "empty-space"
  isWearable := true

------------------------------------------------------------
-- Puzzles
------------------------------------------------------------

/- The puzzle "Find the Lighter". -/
def findLighter : Puzzle where
  id := "find-lighter"
  name := "Find the Lighter"
  conditions :=
    [{ kind := .thingState
       target := "pile-of-leaves"
       property := some "customState.searched" }]
  effects :=
    [.revealThing "lighter",
     .moveThing "lighter" "forest"]
  hint :=
    some "The leaves look recently disturbed."
  message :=
    some "Buried under the leaves, you find a lighter!"

/- The puzzle "Burn the Vines". -/
def burnVines : Puzzle where
  id := "burn-vines"
  name := "Burn the Vines"
  conditions :=
    [{ kind := .thingState
       target := "vines"
       property := some "customState.burned" }]
  effects :=
    [.unlockExit "clearing:east",
     .setProperty "vines" "hidden"
       (.boolean true),
     .triggerEvent "vines-burned"]
  hint :=
    some "The vines are dry as tinder."
  message :=
    some ("The vines crackle and shrivel to ash. The way " ++
      "east is clear.")
  dependsOn := ["find-lighter"]

/- The puzzle "Unlock the Turnstile". -/
def unlockTurnstile : Puzzle where
  id := "unlock-turnstile"
  name := "Unlock the Turnstile"
  conditions :=
    [{ kind := .thingState
       target := "turnstile-panel"
       property := some "isOpen" },
     { kind := .thingState
       target := "turnstile-actuator"
       property := some "isSwitchedOn" }]
  effects :=
    [.setProperty "wooden-turnstile" "isLocked"
       (.boolean false)]
  hint :=
    some "The panel by the turnstile might hide a mechanism."
  message :=
    some "With a heavy clunk, the wooden turnstile unlocks."

/- The puzzle "Open the Vent". -/
def openVent : Puzzle where
  id := "open-vent"
  name := "Open the Vent"
  conditions :=
    [{ kind := .thingState
       target := "vent-cover"
       property := some "customState.screwed"
       value := .boolean false }]
  effects :=
    [.revealThing "photograph"]
  hint :=
    some "The vent screws are slotted."
  message :=
    some ("Behind the vent cover, an old photograph is " ++
      "wedged against the duct.")

/- The puzzle "Enter the Dream". -/
def enterDream : Puzzle where
  id := "enter-dream"
  name := "Enter the Dream"
  conditions :=
    [{ kind := .room
       target := "dream-caravan" }]
  effects :=
    [.setFlag "dreamed" (.boolean true)]
  hint :=
    some "The bed in the caravan looks inviting."
  layer := 1

/- The puzzle "Become the Void". -/
def becomeVoid : Puzzle where
  id := "become-void"
  name := "Become the Void"
  conditions :=
    [{ kind := .thingState
       target := "void"
       property := some "isWorn" },
     { kind := .room
       target := "empty-space" }]
  effects :=
    [.setFlag "becameVoid" (.boolean true),
     .triggerEvent "void"]
  hint :=
    some "Some darkness can be worn."
  message :=
    some "You are nothing, and nothing is everywhere."
  layer := 1

------------------------------------------------------------
-- Scripts
------------------------------------------------------------

/- What opening the turnstile panel does besides. -/
def openTurnstilePanel : Script where
  thing := "turnstile-panel"
  verb := .open
  once := true
  message :=
    some "Behind the panel sits a brass actuator switch."
  effects :=
    [.revealThing "turnstile-actuator"]

/- What focusing on the mirror does besides. -/
def focusMirror : Script where
  thing := "mirror"
  verb := .focus
  once := true
  message :=
    some ("The mirror ripples. When it stills, the fog " ++
      "beyond the door has parted.")
  effects :=
    [.unlockExit "dream-caravan:out"]

------------------------------------------------------------
-- Rules
------------------------------------------------------------

/- Where the story starts, and how the player may change. -/
def storyRules : StoryRules where
  startRoom := "forest"
  dream :=
    some
      { wakingRoom := "caravan"
        dreamingRoom := "dream-caravan" }
  void :=
    some { thing := "void", room := "empty-space" }

------------------------------------------------------------
-- Content
------------------------------------------------------------

/- The entities and rules of the story. -/
def content : Content where
  rules := storyRules
  rooms :=
    [forest, clearing, turnstileGate, midway, caravan,
     dreamCaravan, emptySpace]
  things :=
    [pineTrees, pileOfLeaves, lighter, vines, turnstilePanel,
     turnstileActuator, woodenTurnstile, lantern, coin, poster,
     bed, ventCover, photograph, mirror, darkness]
  puzzles :=
    [findLighter, burnVines, unlockTurnstile, openVent,
     enterDream, becomeVoid]
  scripts := [openTurnstilePanel, focusMirror]

end EmbeddedStory

/- The built-in story. -/
def Content.embedded : Content :=
  EmbeddedStory.content

end TextAdventure
