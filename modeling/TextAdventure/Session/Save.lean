import TextAdventure.Session.Basic
import TextAdventure.Session.Timestamp

/-
  Saved games: a session, stamped with a time and the version
  of the format.

  Key definitions include:
    * `SavedGame`
    * `SavedGame.version`
-/

namespace TextAdventure

/- A session as it is stored. -/
structure SavedGame where
  version : UInt32
  savedAt : Timestamp
  session : Session
deriving DecidableEq

namespace SavedGame

/- The version of the format that is written and read. -/
def currentVersion : UInt32 := 1

/- A session stamped with a time. -/
def ofSession (time : Timestamp) (session : Session) :
    SavedGame where
  version := currentVersion
  savedAt := time
  session := session

end SavedGame

end TextAdventure
