import TextAdventure.Verb
import TextAdventure.Warning

/-
  Refusals: why a command does not do what it asks.

  A refusal is what the player reads. Only two of them are
  also a mistake of the content and give a warning.

  Key definitions include:
    * `Refusal`
    * `Refusal.message`
    * `Refusal.warnings`
    * `check`
-/

namespace TextAdventure

------------------------------------------------------------
-- Refusals
------------------------------------------------------------

/-
  A condition of a command that is not met. A text names the
  thing, noun or direction it is about.
-/
inductive Refusal where
| unknownVerb (word : String)
| missingNoun (verb : Verb)
| missingDestination (thing : String)
| notHere (noun : String)
| notHereSuggesting (noun suggestion : String)
| tooDark
| nowhere
| notADirection (noun : String)
| noExit (direction : String)
| exitLeadsNowhere (direction destination : String)
| blocked (message : String)
| locked (thing : String)
| alreadyCarried (thing : String)
| cannotTake (thing : String)
| notCarried (thing : String)
| notOpenable (thing : String)
| alreadyOpen (thing : String)
| alreadyClosed (thing : String)
| notWearable (thing : String)
| alreadyWorn (thing : String)
| notWorn (thing : String)
| notSwitchable (thing : String)
| alreadyOn (thing : String)
| alreadyOff (thing : String)
| noFireSource
| notAFireSource (tool : String)
| notFlammable (thing : String)
| alreadyBurned (thing : String)
| notAContainer (container : String)
| containerClosed (container : String)
| insideItself (thing : String)
| noScrews (thing : String)
| alreadyUnscrewed (thing : String)
| alreadyScrewed (thing : String)
| needsTool (tool : String)
| nothingToRead (thing : String)
| cannotBecome (thing : String)
| noHoldHere (thing : String)
| cannotSleep
| alreadyDreaming
| notDreaming
| dead
| relocationRefused (id : String)
deriving DecidableEq

namespace Refusal

/- What the player reads. -/
def message : Refusal → String
| .unknownVerb word =>
    "I don't understand \"" ++ word ++
      "\". Type 'help' for a list of commands."
| .missingNoun verb =>
    "What do you want to " ++ verb.prompt ++ "?"
| .missingDestination thing =>
    "Where do you want to put the " ++ thing ++ "?"
| .notHere noun => "You don't see any " ++ noun ++ " here."
| .notHereSuggesting noun suggestion =>
    "You don't see any " ++ noun ++
      " here. Did you mean the " ++ suggestion ++ "?"
| .tooDark => "It's too dark to see anything here."
| .nowhere => "You are nowhere at all."
| .notADirection noun =>
    "\"" ++ noun ++ "\" isn't a direction you can go."
| .noExit direction =>
    "You can't go " ++ direction ++ " from here."
| .exitLeadsNowhere direction _ =>
    "You can't go " ++ direction ++ " from here."
| .blocked message => message
| .locked thing => "The " ++ thing ++ " is locked."
| .alreadyCarried thing =>
    "You already have the " ++ thing ++ "."
| .cannotTake thing => "You can't take the " ++ thing ++ "."
| .notCarried thing =>
    "You're not carrying the " ++ thing ++ "."
| .notOpenable thing =>
    "The " ++ thing ++ " can't be opened or closed."
| .alreadyOpen thing => "The " ++ thing ++ " is already open."
| .alreadyClosed thing =>
    "The " ++ thing ++ " is already closed."
| .notWearable thing => "You can't wear the " ++ thing ++ "."
| .alreadyWorn thing =>
    "You're already wearing the " ++ thing ++ "."
| .notWorn thing => "You're not wearing the " ++ thing ++ "."
| .notSwitchable thing =>
    "The " ++ thing ++ " can't be switched on or off."
| .alreadyOn thing => "The " ++ thing ++ " is already on."
| .alreadyOff thing => "The " ++ thing ++ " is already off."
| .noFireSource => "You have nothing to light it with."
| .notAFireSource tool =>
    "You can't light anything with the " ++ tool ++ "."
| .notFlammable thing => "The " ++ thing ++ " won't burn."
| .alreadyBurned thing =>
    "The " ++ thing ++ " has already burned."
| .notAContainer container =>
    "You can't put things in the " ++ container ++ "."
| .containerClosed container =>
    "The " ++ container ++ " is closed."
| .insideItself thing =>
    "You can't put the " ++ thing ++ " inside itself."
| .noScrews thing =>
    "There's nothing to unscrew on the " ++ thing ++ "."
| .alreadyUnscrewed thing =>
    "The " ++ thing ++ " is already unscrewed."
| .alreadyScrewed thing =>
    "The " ++ thing ++ " is already screwed tight."
| .needsTool tool => "You need the " ++ tool ++ " for that."
| .nothingToRead thing =>
    "There's nothing written on the " ++ thing ++ "."
| .cannotBecome thing =>
    "You can't become the " ++ thing ++ "."
| .noHoldHere thing =>
    "The " ++ thing ++ " slips through your fingers. " ++
      "It has no hold here."
| .cannotSleep => "You can't sleep here."
| .alreadyDreaming => "You are already dreaming."
| .notDreaming => "You aren't dreaming."
| .dead =>
    "You are dead. You can look, examine, check your " ++
      "inventory, or wait."
| .relocationRefused _ => "You can't do that."

/- The warnings that come with a refusal. -/
def warnings : Refusal → List Warning
| .exitLeadsNowhere _ destination =>
    [.exitLeadsNowhere destination]
| .relocationRefused id => [.relocationRefused id]
| _ => []

end Refusal

------------------------------------------------------------
-- Checks
------------------------------------------------------------

/- Go on only if a condition is met. -/
def check
    (condition : Bool)
    (refusal : Refusal) : Except Refusal Unit :=
  if condition then .ok () else .error refusal

/- What follows a check is done only if the check is met. -/
theorem check_bind_eq_ok_iff
    {α : Type}
    {condition : Bool}
    {refusal : Refusal}
    {next : Unit → Except Refusal α}
    {result : α} :
    (check condition refusal >>= next) = .ok result ↔
      condition = true ∧ next () = .ok result := by
  cases condition <;> simp [check, bind, Except.bind]

/- A value that has to be there. -/
def demand
    {α : Type}
    (value : Option α)
    (refusal : Refusal) : Except Refusal α :=
  match value with
  | some value => .ok value
  | none => .error refusal

/- What follows a demand is done only if the value is there. -/
theorem demand_bind_eq_ok_iff
    {α β : Type}
    {value : Option α}
    {refusal : Refusal}
    {next : α → Except Refusal β}
    {result : β} :
    (demand value refusal >>= next) = .ok result ↔
      ∃ found, value = some found ∧
        next found = .ok result := by
  cases value <;> simp [demand, bind, Except.bind]

end TextAdventure
