/-!
# Build failures

A failure of a build is a chain of links: the failure itself, then its cause, the cause of that,
and so on.  Each link has a message, an optional location in a build script, and a mark that says
whether it has already been shown to the user.

A failure that crosses from one build to another is put into the context of the consuming build by
`BuildFailure.recontextualize`.
-/

namespace CompositeBuild

/-- A place in a build script. -/
structure SourceLocation where
  file : String
  line : Option Nat := none
  deriving DecidableEq, Repr

instance : ToString SourceLocation where
  toString location :=
    match location.line with
    | some line => s!"{location.file} line: {line}"
    | none => location.file

/-- One link in the chain of a failure. -/
structure FailureLink where
  message : String
  location : Option SourceLocation := none
  reported : Bool := false
  deriving DecidableEq, Repr

instance : ToString FailureLink where
  toString link :=
    match link.location with
    | some location => s!"{location}: {link.message}"
    | none => link.message

/-- A failure raised while a build is configured or run. -/
structure BuildFailure where
  outermost : FailureLink
  causes : List FailureLink := []
  deriving DecidableEq, Repr

instance : ToString BuildFailure := ⟨fun failure => toString failure.outermost⟩

namespace BuildFailure

/-- A failure without location or cause that nobody has seen yet. -/
def ofMessage (message : String) : BuildFailure where
  outermost := { message }

/-- The failure itself and its causes, outermost first. -/
def chain (failure : BuildFailure) : List FailureLink :=
  failure.outermost :: failure.causes

/-- Raise a failure again under a new message.

The location of a failure that has been reported and has one moves to a new outermost link, which
counts as reported too, so the chain shows the location once.  Any other failure stays as it is. -/
def recontextualize (failure : BuildFailure) (message : String) : BuildFailure :=
  match failure.outermost.reported, failure.outermost.location with
  | true, some location =>
    { outermost := { message, location := some location, reported := true }
      causes := { failure.outermost with location := none } :: failure.causes }
  | _, _ => failure

end BuildFailure

end CompositeBuild
