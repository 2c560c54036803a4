/-!
# Log events

Operations report what they do as log events.  An event belongs to a level, carries named fields
and lists the spans that are open around it.  A computation that logs is a `Logged` value: its
result together with the events, in order.  The result of a chain of logged computations does not
depend on what they log (`Logged.bind_value`).
-/

namespace CompositeBuild

/-- How much an event matters. -/
inductive Level where
  | trace | debug | info | warn | error
  deriving DecidableEq, Repr

/-- A stretch of work that events happen in. -/
structure Span where
  name : String
  fields : List (String × String)
  deriving DecidableEq, Repr

/-- One log event; its spans are listed from the outermost to the innermost. -/
structure LogEvent where
  level : Level
  message : String
  fields : List (String × String)
  spans : List Span := []
  deriving DecidableEq, Repr

/-- The result of a computation and the events it logged, oldest first. -/
structure Logged (α : Type) where
  value : α
  events : List LogEvent := []

namespace Logged

variable {α β : Type}

instance : Monad Logged where
  pure value := { value }
  bind first next :=
    { value := (next first.value).value
      events := first.events ++ (next first.value).events }

instance [Inhabited α] : Inhabited (Logged α) := ⟨pure default⟩

/-- Log one event. -/
def emit (level : Level) (message : String) (fields : List (String × String)) : Logged Unit :=
  { value := (), events := [{ level, message, fields }] }

/-- The same computation inside the given spans, listed from the outermost to the innermost. -/
def within (spans : List Span) (body : Logged α) : Logged α :=
  { body with events := body.events.map fun event => { event with spans := spans ++ event.spans } }

@[simp] theorem pure_value (value : α) : (pure value : Logged α).value = value := rfl

@[simp] theorem bind_value (first : Logged α) (next : α → Logged β) :
    (first >>= next).value = (next first.value).value := rfl

@[simp] theorem within_value (spans : List Span) (body : Logged α) :
    (within spans body).value = body.value := rfl

@[simp] theorem emit_value (level : Level) (message : String) (fields : List (String × String)) :
    (emit level message fields).value = () := rfl

end Logged

end CompositeBuild
