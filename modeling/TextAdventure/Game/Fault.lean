import TextAdventure.Content.Basic

/-
  Why a game cannot be started or a saved one resumed.

  Key definitions include:
    * `GameFault`
    * `GameFault.message`
-/

namespace TextAdventure

/- A fault of content or of a saved game. -/
inductive GameFault where
| content (fault : WorldFault)
| corruptSave
| unknownCurrentRoom (room : String)
| unsupportedVersion (version : UInt32)
deriving DecidableEq

/- What a fault says. -/
def GameFault.message : GameFault → String
| .content fault => fault.message
| .corruptSave => "corrupt save data"
| .unknownCurrentRoom room =>
    "invalid save data: unknown current room '" ++ room ++ "'"
| .unsupportedVersion version =>
    "unsupported save version " ++ toString version.toNat

end TextAdventure
