import CompositeBuild.Task.Basic
import Mathlib.Data.List.Induction

/-!
# Failures that cross builds

A failed run of an included build is raised again by the delegate that awaited the build.  If the
consuming build is awaited by a delegate as well, its run fails in turn, and so on, and each
delegate puts the failure into one more context (`Delegate.crossAll`).

A failure travels if it has been reported and has a location.  Putting it into a context gives it a
new outermost link, which takes the location along, so what comes out travels again
(`BuildFailure.chain_recontextualize`).  After any number of contexts the location is on the newest
link only, whatever the causes of the failure are (`BuildFailure.chain_recontextualizeAll`).  A
failure that does not travel stays as it is.
-/

namespace CompositeBuild

namespace BuildFailure

/-- Raise a failure again under one message after the other. -/
def recontextualizeAll (failure : BuildFailure) (messages : List String) : BuildFailure :=
  messages.foldl recontextualize failure

/-- The number of links in the chain of a failure that have a location. -/
def located (failure : BuildFailure) : Nat :=
  failure.chain.countP (·.location.isSome)

variable {failure : BuildFailure} {location : SourceLocation}

/-! ### One context -/

/-- A failure that travels gets a new outermost link, and its own one hands the location over. -/
theorem chain_recontextualize (reported : failure.outermost.reported = true)
    (place : failure.outermost.location = some location) (message : String) :
    (failure.recontextualize message).chain =
      { message, location := some location, reported := true } ::
        { failure.outermost with location := none } :: failure.causes := by
  simp only [recontextualize, reported, place, chain]

/-- A failure that does not travel stays as it is. -/
theorem recontextualize_of_stays
    (stays : failure.outermost.reported = false ∨ failure.outermost.location = none)
    (message : String) : failure.recontextualize message = failure := by
  unfold recontextualize
  rcases stays with silent | nowhere
  · rw [silent]
  · rw [nowhere]
    cases failure.outermost.reported <;> rfl

/-! ### Many contexts -/

/-- After some messages and a last one, the last message is on the outermost link, with the
location, and below it come the links of the other messages, newest first, and the failure without
its location. -/
theorem chain_recontextualizeAll (reported : failure.outermost.reported = true)
    (place : failure.outermost.location = some location) (messages : List String)
    (last : String) :
    (failure.recontextualizeAll (messages ++ [last])).chain =
      { message := last, location := some location, reported := true } ::
        messages.reverse.map (fun message => { message, reported := true }) ++
        { failure.outermost with location := none } :: failure.causes := by
  induction messages using List.reverseRecOn generalizing last with
  | nil => exact chain_recontextualize reported place last
  | append_singleton messages message ih =>
    -- The link of the message before the last one is what travels now.
    let before := failure.recontextualizeAll (messages ++ [message])
    obtain ⟨outer, below⟩ := List.cons.inj (ih message)
    have travels : before.outermost.reported = true ∧ before.outermost.location = some location :=
      ⟨congrArg FailureLink.reported outer, congrArg FailureLink.location outer⟩
    calc (failure.recontextualizeAll (messages ++ [message] ++ [last])).chain
      _ = (before.recontextualize last).chain := by
        rw [recontextualizeAll, List.foldl_append]
        rfl
      _ = _ := by
        rw [chain_recontextualize travels.1 travels.2, outer, below, List.reverse_append]
        rfl

/-- A failure that does not travel stays as it is, however many messages there are. -/
theorem recontextualizeAll_of_stays
    (stays : failure.outermost.reported = false ∨ failure.outermost.location = none)
    (messages : List String) : failure.recontextualizeAll messages = failure := by
  induction messages with
  | nil => rfl
  | cons message messages ih =>
    rw [recontextualizeAll, List.foldl_cons, recontextualize_of_stays stays]
    exact ih

end BuildFailure

namespace Delegate

/-- What a delegate says about a failed run of its build. -/
def context (delegate : Delegate) : String :=
  s!"Failed to build artifacts for {delegate.build}"

/-- What comes of a run that is awaited by a delegate, where that fails the run of a consuming build
that is awaited by the next delegate, and so on. -/
def crossAll (delegates : List Delegate) (outcome : Outcome BuildFailure Unit) :
    Outcome BuildFailure Unit :=
  delegates.foldl (fun outcome delegate => delegate.conclude (awaitResult outcome)) outcome

/-- A failure that crosses builds is raised again under what each delegate says. -/
theorem crossAll_failed (delegates : List Delegate) (failure : BuildFailure) :
    crossAll delegates (.failed failure) =
      .failed (failure.recontextualizeAll (delegates.map context)) := by
  induction delegates generalizing failure with
  | nil => rfl
  | cons delegate delegates ih => exact ih (failure.recontextualize delegate.context)

end Delegate

namespace BuildFailure

/-- **Contexts keep what a failure says.**  Let a failure be raised again under any messages, at
least one, for instance because it crosses builds with delegates that say so.

If it has been reported and has a location, the chain of the result shows all messages, newest
first, and then what the chain of the failure showed.  The outermost link has the location, all new
links are reported, and the other new ones have no location.  Below them is the failure, which is
without its location and otherwise as it was, with its causes, so there are as many locations in the
chain as before.

If it has not been reported or has no location, the result is the failure itself. -/
theorem contexts_keep_content (failure : BuildFailure) {messages : List String}
    (some_message : messages ≠ []) :
    let result := failure.recontextualizeAll messages
    let wrappers := result.chain.take messages.length
    (∀ location, failure.outermost.reported = true →
      failure.outermost.location = some location →
      result.chain.map (·.message) = messages.reverse ++ failure.chain.map (·.message) ∧
      result.outermost.location = some location ∧
      (∀ link ∈ wrappers, link.reported = true) ∧
      (∀ link ∈ wrappers.tail, link.location = none) ∧
      result.chain.drop messages.length =
        { failure.outermost with location := none } :: failure.causes ∧
      result.located = failure.located) ∧
    (failure.outermost.reported = false ∨ failure.outermost.location = none →
      result = failure) ∧
    ∀ delegates : List Delegate, delegates.map Delegate.context = messages →
      Delegate.crossAll delegates (.failed failure) = .failed result := by
  intro result wrappers
  refine ⟨fun location reported place => ?_,
    fun stays => recontextualizeAll_of_stays stays messages, fun delegates said => ?_⟩
  · obtain ⟨earlier, last, rfl⟩ : ∃ earlier last, messages = earlier ++ [last] :=
      ⟨_, _, (List.dropLast_concat_getLast some_message).symm⟩
    let newest : FailureLink := { message := last, location := some location, reported := true }
    let older : List FailureLink :=
      earlier.reverse.map fun message => { message, reported := true }
    let below : List FailureLink := { failure.outermost with location := none } :: failure.causes
    have links : result.chain = (newest :: older) ++ below :=
      chain_recontextualizeAll reported place earlier last
    have count : (earlier ++ [last]).length = (newest :: older).length := by simp [older]
    have wrapped : wrappers = newest :: older := by
      simp only [wrappers, links, count, List.take_left]
    have bare : ∀ link ∈ older, link.reported = true ∧ link.location = none := by
      intro link member
      obtain ⟨message, -, rfl⟩ := List.mem_map.mp member
      exact ⟨rfl, rfl⟩
    refine ⟨?_, ?_, ?_, ?_, ?_, ?_⟩
    · rw [links]
      simp [newest, older, below, chain, Function.comp_def]
    · exact congrArg FailureLink.location (List.cons.inj links).1
    · rw [wrapped]
      exact List.forall_mem_cons.mpr ⟨rfl, fun link member => (bare link member).1⟩
    · rw [wrapped]
      exact fun link member => (bare link member).2
    · rw [links, count, List.drop_left]
    · -- The newest link has the location that the failure had, and the older ones have none.
      have none_older : older.countP (·.location.isSome) = 0 :=
        List.countP_eq_zero.mpr fun link member => by simp [(bare link member).2]
      simp only [located, links, List.countP_append, List.countP_cons, none_older]
      simp [newest, below, chain, place, Nat.add_comm]
  · simp only [result, ← said]
    exact Delegate.crossAll_failed delegates failure

/-- A failure of `tools` that was shown at a line of its script, with a cause that has a place of
its own. -/
def misspelt : BuildFailure where
  outermost :=
    { message := "cannot assemble", location := some ⟨"tools/build", some 12⟩, reported := true }
  causes := [{ message := "unknown option", location := some ⟨"tools/options", none⟩ }]

/-- If `lib` awaits `tools` and `app` awaits `lib`, the failure of `tools` shows both contexts, the
line of the script stands beside the outer one, and the place of the cause is kept. -/
theorem contexts_keep_content_twice :
    let delegates : List Delegate := [⟨0, ⟨"tools"⟩⟩, ⟨1, ⟨"lib"⟩⟩]
    let messages := ["Failed to build artifacts for tools", "Failed to build artifacts for lib"]
    let result := misspelt.recontextualizeAll messages
    messages ≠ [] ∧
    misspelt.outermost.reported = true ∧
    misspelt.outermost.location = some ⟨"tools/build", some 12⟩ ∧
    Delegate.crossAll delegates (.failed misspelt) = .failed result ∧
    result.chain.map (·.message) =
      ["Failed to build artifacts for lib", "Failed to build artifacts for tools",
        "cannot assemble", "unknown option"] ∧
    result.outermost.location = some ⟨"tools/build", some 12⟩ ∧
    result.located = misspelt.located := by
  intro delegates messages result
  have some_message : messages ≠ [] := by simp [messages]
  have said : delegates.map Delegate.context = messages := by decide
  obtain ⟨travels, -, crosses⟩ := contexts_keep_content misspelt some_message
  obtain ⟨shown, placed, -, -, -, located⟩ := travels ⟨"tools/build", some 12⟩ rfl rfl
  exact ⟨some_message, rfl, rfl, crosses delegates said, shown, placed, located⟩

end BuildFailure

end CompositeBuild
