/-!
# How a call of a collaborator ends

Launchers, substitution actions and task sources are written by others.  A call of one of them
returns, fails with an error of its kind, or panics with a message.
-/

namespace CompositeBuild

/-- The three ways in which a call ends. -/
inductive Outcome (ε α : Type) where
  /-- The call returned a value. -/
  | returned (value : α)
  /-- The call reported an error. -/
  | failed (error : ε)
  /-- The call panicked. -/
  | panicked (message : String)
  deriving DecidableEq, Repr

namespace Outcome

variable {ε α : Type}

/-- The outcome of a call that cannot panic. -/
def ofExcept : Except ε α → Outcome ε α
  | .ok value => .returned value
  | .error error => .failed error

end Outcome

end CompositeBuild
