import CompositeBuild.Proofs.Await.Coverage
import CompositeBuild.Proofs.Session.Concourse

/-!
# What awaits and delegates have seen to

A thread that awaits a build, by itself or by executing a delegate, goes on when everything that was
queued on the build before has been taken care of.  For a delegate that is the build that its name
stands for when it is executed, whatever is registered under the name later.

`Concourse.awaits_cover` carries this over from single builds (`Chronicle.covered`): what happens to
a build of a concourse is a run of its own.
-/

namespace CompositeBuild

variable {σ ρ : Type}

namespace Concourse

/-- A turn in which a call of await begins on a build: somebody awaits the build, or executes a
delegate that finds it.  A delegate that has found its build may as well begin the call later, in a
turn of its own. -/
def Begins (concourse : Concourse σ ρ) (ref : BuildRef) (turn : Turn σ ρ) : Prop :=
  turn = .act ref .enter ∨
    ∃ delegate, turn = .execute delegate ∧
      (concourse.session.startDelegate delegate).value = .ok ref

/-- In either case the call begins, and nothing else happens to the build. -/
theorem Begins.actionsAt {concourse : Concourse σ ρ} {ref : BuildRef} {turn : Turn σ ρ}
    (begins : concourse.Begins ref turn) : concourse.actionsAt ref turn = [.enter] := by
  have acts : concourse.action? turn = some (ref, .enter) := by
    rcases begins with rfl | ⟨delegate, rfl, found⟩
    · rfl
    · exact action?_execute.mpr found
  simp only [Concourse.actionsAt, acts, if_true]

/-- **A call of await that returns has seen to everything that was queued before it.**  Take a build
of a concourse at any time, and a call of await on it that begins then, of a thread or of a delegate
that finds the build.  If the call is over later, and was not interrupted, then some sweeps of the
build, its own the last of them, have claimed everything that was queued before the call began, in
order.  The calls of these sweeps are over, and of every one of them either nothing was fresh, or
its run has ended, or making its launcher or asking it for tasks has panicked. -/
theorem awaits_cover (earlier later : List (Turn σ ρ)) {turn : Turn σ ρ} {ref : BuildRef}
    {before : Chronicle σ ρ}
    (found : (({} : Concourse σ ρ).run earlier).chronicles[ref]? = some before)
    (begins : (({} : Concourse σ ρ).run earlier).Begins ref turn) :
    let turns := earlier ++ turn :: later
    let caller := before.callers.calls.length
    (({} : Concourse σ ρ).run (earlier ++ [turn])).chronicles[ref]? = some (before.step .enter) ∧
    ∃ after, (({} : Concourse σ ρ).run turns).chronicles[ref]? = some after ∧
      ∀ result, after.callers.phases[caller]? = some (.ended result) →
        (∀ build, result ≠ .failed (.interrupted build)) →
        ∃ covering claim,
          covering ++ [(caller, claim)] <+: History.sweeps after.callers.history ∧
          History.pushed before.callers.history <+:
            (covering ++ [(caller, claim)]).flatMap (·.2.requested) ∧
          ∀ sweep ∈ covering ++ [(caller, claim)],
            (∃ other, after.callers.phases[sweep.1]? = some (.ended other)) ∧
            (sweep.2.fresh = [] ∨
              (∃ launcher outcome, (sweep.1, .ran launcher outcome) ∈ after.endings) ∨
              ∃ message, (sweep.1, .aborted message) ∈ after.endings ∧
                .act ref (.abort sweep.1 message) ∈ turns) := by
  intro turns caller
  have entered : ((({} : Concourse σ ρ).run earlier).step turn).chronicles[ref]? =
      some (before.step .enter) := by
    rw [chronicle_step found, begins.actionsAt]
    rfl
  have split : ({} : Concourse σ ρ).run turns =
      ((({} : Concourse σ ρ).run earlier).step turn).run later := by
    simp [turns, run]
  have reached := chronicle_run entered later
  rw [← split] at reached
  refine ⟨by simpa [run] using entered, _, reached, fun result isOver sound => ?_⟩
  obtain ⟨name, projectDir, factory, launchers, actions, rfl, -⟩ := chronicle_origin found
  obtain ⟨covering, claim, first, pushed, finished⟩ := Chronicle.covered name projectDir factory
    launchers actions (.enter :: actionsOf ref ((({} : Concourse σ ρ).run earlier).step turn) later)
    sound isOver
  refine ⟨covering, claim, first, pushed, fun sweep member => ?_⟩
  obtain ⟨ended, nothing | ran | ⟨message, aborted⟩⟩ := finished sweep member
  · exact ⟨ended, .inl nothing⟩
  · exact ⟨ended, .inr (.inl ran)⟩
  · refine ⟨ended, .inr (.inr ⟨message, aborted, ?_⟩)⟩
    obtain ⟨_, _, _, _, _, origin, aborts⟩ := chronicle_origin reached
    have noted : (sweep.1, .aborted message) ∈ (Chronicle.run _ _).endings := origin ▸ aborted
    rcases Chronicle.mem_of_aborted noted with never | acted
    · simp [Chronicle.start] at never
    · exact aborts _ acted rfl

/-- A delegate of `app` is executed while a sweep of its first task is in flight and its second one
is queued. -/
def delegated : List (Turn (ScriptedLaunchers Unit) (ScriptedRun Unit)) :=
  let app : BuildId := ⟨"app"⟩
  let site : TaskPath := { text := ":site", qualified := by decide }
  let docs : TaskPath := { text := ":docs", qualified := by decide }
  [.request (.make app "/app" ScriptedLaunchers.factory (.ofProject "app" [])),
    .request (.register 0), .resolve ⟨app, site⟩ true, .act 0 .enter,
    .resolve ⟨app, docs⟩ false]

/-- Another thread awaits `app` as well, and overtakes the delegate when the sweep is over, so that
nothing is left for the delegate to claim.  The delegate returns when the second sweep is over. -/
def overtaken : List (Turn (ScriptedLaunchers Unit) (ScriptedRun Unit)) :=
  [.act 0 .enter, .act 0 (.proceed 0), .act 0 (.proceed 0), .act 0 (.proceed 0),
    .act 0 (.proceed 0), .act 0 (.proceed 0), .act 0 (.proceed 2), .act 0 (.proceed 1),
    .act 0 (.proceed 2), .act 0 (.proceed 2), .act 0 (.proceed 2), .act 0 (.proceed 2),
    .act 0 (.proceed 2), .act 0 (.proceed 1), .act 0 (.proceed 1), .act 0 (.proceed 1)]

/-- The delegate has seen to both tasks, although others have swept them. -/
theorem awaits_cover_overtaken :
    let turns := delegated ++ .execute ⟨0, ⟨"app"⟩⟩ :: overtaken
    ∃ after, (({} : Concourse _ _).run turns).chronicles[0]? = some after ∧
      after.callers.phases.map Phase.result? =
        [some (.returned ()), some (.returned ()), some (.returned ())] ∧
      ((History.sweeps after.callers.history).map fun sweep =>
          (sweep.1, sweep.2.fresh.map (·.text))) =
        [(0, [":site"]), (2, [":docs"]), (1, [])] ∧
      ∃ covering claim,
        covering ++ [(1, claim)] <+: History.sweeps after.callers.history ∧
        [":site", ":docs"] <+:
          ((covering ++ [(1, claim)]).flatMap (·.2.requested)).map (·.text) ∧
        ∀ sweep ∈ covering ++ [(1, claim)],
          ∃ other, after.callers.phases[sweep.1]? = some (.ended other) := by
  intro turns
  have begins : (({} : Concourse _ _).run delegated).Begins 0 (.execute ⟨0, ⟨"app"⟩⟩) :=
    .inr ⟨_, rfl, by decide +kernel⟩
  have earlier : (({} : Concourse _ _).run delegated).chronicles[0]?.map (fun before =>
      (before.callers.calls.length, (History.pushed before.callers.history).map (·.text))) =
        some (1, [":site", ":docs"]) := by decide +kernel
  have later : (({} : Concourse _ _).run turns).chronicles[0]?.map (fun after =>
      (after.callers.phases.map Phase.result?, (History.sweeps after.callers.history).map
        fun sweep => (sweep.1, sweep.2.fresh.map (·.text)))) =
      some ([some (.returned ()), some (.returned ()), some (.returned ())],
        [(0, [":site"]), (2, [":docs"]), (1, [])]) := by decide +kernel
  obtain ⟨before, found, counted⟩ := Option.map_eq_some_iff.mp earlier
  obtain ⟨count, pushed⟩ := Prod.mk.inj counted
  obtain ⟨-, after, reached, covers⟩ := awaits_cover delegated overtaken found begins
  rw [reached, Option.map_some, Option.some.injEq, Prod.mk.injEq] at later
  have isOver : after.callers.phases[before.callers.calls.length]? =
      some (.ended (.returned ())) := by
    have second := congrArg (·[1]?) later.1
    obtain ⟨phase, there, returned⟩ : ∃ phase, after.callers.phases[1]? = some phase ∧
        phase.result? = some (.returned ()) := by simpa using second
    rw [count, there, Phase.result?_eq_some.mp returned]
  obtain ⟨covering, claim, first, taken, finished⟩ := covers _ isOver (by simp)
  rw [count] at first taken finished
  refine ⟨after, reached, later.1, later.2, covering, claim, first, ?_, fun sweep member =>
    (finished sweep member).1⟩
  rw [← pushed]
  exact taken.map _

end Concourse

end CompositeBuild
