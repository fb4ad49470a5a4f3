import Mathlib.Tactic.Basic

/-
  Chains of steps that may fail.

  Two chains agree if they fail in the same way or come to
  related results; that is shown step by step.

  Main declarations:
    * `bind_eq_ok_iff`
    * `bind_eq_error_iff`
    * `Agrees`
    * `Agrees.bind`
    * `Agrees.chain`
-/

namespace TextAdventure

variable {ε α β γ δ : Type}

------------------------------------------------------------
-- Results Of Chains
------------------------------------------------------------

/- A chain of steps goes through if each of them does. -/
theorem bind_eq_ok_iff
    {first : Except ε α}
    {next : α → Except ε β}
    {result : β} :
    (first >>= next) = .ok result ↔
      ∃ value, first = .ok value ∧
        next value = .ok result := by
  cases first <;> simp [bind, Except.bind]

/- A chain of steps fails where one of them fails. -/
theorem bind_eq_error_iff
    {first : Except ε α}
    {next : α → Except ε β}
    {failure : ε} :
    (first >>= next) = .error failure ↔
      first = .error failure ∨
        ∃ value, first = .ok value ∧
          next value = .error failure := by
  cases first <;> simp [bind, Except.bind]

theorem pure_eq_ok_iff
    {value result : α} :
    (pure value : Except ε α) = .ok result ↔
      value = result := by
  simp [pure, Except.pure]

------------------------------------------------------------
-- Chains That Agree
------------------------------------------------------------

/- The same failure, or results that are related. -/
inductive Agrees (related : α → β → Prop) :
    Except ε α → Except ε β → Prop where
| error
    (failure : ε) :
    Agrees related (.error failure) (.error failure)
| ok
    {left : α}
    {right : β}
    (hRelated : related left right) :
    Agrees related (.ok left) (.ok right)

namespace Agrees

variable {related : α → β → Prop}
variable {relatedNext : γ → δ → Prop}

/- Chains agree if their first and their next steps do. -/
theorem bind
    {left : Except ε α}
    {right : Except ε β}
    {next : α → Except ε γ}
    {other : β → Except ε δ}
    (hFirst : Agrees related left right)
    (hNext :
      ∀ one two, related one two →
        Agrees relatedNext (next one) (other two)) :
    Agrees relatedNext (left >>= next) (right >>= other) := by
  cases hFirst with
  | error failure => exact .error failure
  | ok hRelated => exact hNext _ _ hRelated

/- Chains that begin alike agree if they go on alike. -/
theorem chain
    {first : Except ε α}
    {next : α → Except ε γ}
    {other : α → Except ε δ}
    (hNext :
      ∀ value, Agrees relatedNext (next value) (other value)) :
    Agrees relatedNext (first >>= next) (first >>= other) := by
  cases first with
  | error failure => exact .error failure
  | ok value => exact hNext value

end Agrees

end TextAdventure
