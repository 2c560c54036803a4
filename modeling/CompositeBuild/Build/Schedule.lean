import CompositeBuild.TaskPath

/-!
# The schedule of an included build

The schedule is what the callers of one build share: the paths queued for the next sweep, the paths
that some sweep has claimed, whether a sweep is in flight, and how many callers wait for it.  Each
function below is one critical section, so every run of concurrent callers is a sequence of them.

A sweep claims all queued paths at once and keeps those that no sweep has claimed before
(`Schedule.claim`).  A task source that panics while it is being queued from poisons the schedule:
from then on callers that have to wait are interrupted.
-/

namespace CompositeBuild

/-- The shared state of the callers of one build. -/
structure Schedule where
  /-- The paths queued for the next sweep, in the order in which they were queued. -/
  pending : List TaskPath := []
  /-- The paths that some sweep has claimed, each once, in the order of the claims. -/
  executed : List TaskPath := []
  /-- Whether a sweep is in flight. -/
  executing : Bool := false
  /-- The number of callers that wait for the sweep in flight. -/
  waiting : Nat := 0
  /-- Whether a task source has panicked. -/
  poisoned : Bool := false
  deriving DecidableEq, Repr

/-- What a caller can see of a schedule. -/
inductive CoordinatorState where
  | idle
  | sweepInFlight (waiting : Nat)
  deriving DecidableEq, Repr

/-- What a sweep takes from a schedule. -/
structure Claim where
  /-- All paths that were queued, in order. -/
  requested : List TaskPath
  /-- The paths that the sweep runs. -/
  fresh : List TaskPath
  /-- The paths that an earlier sweep, or this one, has run already. -/
  skipped : List TaskPath
  deriving DecidableEq, Repr

namespace Schedule

/-- The paths of a list that are not among `seen`, each at its first occurrence. -/
def freshAmong (seen : List TaskPath) : List TaskPath → List TaskPath
  | [] => []
  | path :: paths =>
    if path ∈ seen then freshAmong seen paths
    else path :: freshAmong (path :: seen) paths

/-- The paths of a list that are among `seen` or occur earlier in the list. -/
def repeatedAmong (seen : List TaskPath) : List TaskPath → List TaskPath
  | [] => []
  | path :: paths =>
    if path ∈ seen then path :: repeatedAmong seen paths
    else repeatedAmong (path :: seen) paths

/-- Queue paths for the next sweep. -/
def queue (schedule : Schedule) (paths : List TaskPath) : Schedule :=
  { schedule with pending := schedule.pending ++ paths }

/-- Queue the paths that a source yields before it panics. -/
def queueAndPoison (schedule : Schedule) (paths : List TaskPath) : Schedule :=
  { schedule.queue paths with poisoned := true }

/-- Join the callers that wait for the sweep in flight. -/
def join (schedule : Schedule) : Schedule :=
  { schedule with waiting := schedule.waiting + 1 }

/-- Leave the callers that wait for the sweep in flight. -/
def leave (schedule : Schedule) : Schedule :=
  { schedule with waiting := schedule.waiting - 1 }

/-- Start a sweep over everything that is queued. -/
def claim (schedule : Schedule) : Claim × Schedule :=
  let fresh := freshAmong schedule.executed schedule.pending
  ({ requested := schedule.pending
     fresh
     skipped := repeatedAmong schedule.executed schedule.pending },
   { schedule with
     pending := []
     executed := schedule.executed ++ fresh
     executing := true })

/-- End the sweep in flight, whatever became of it. -/
def release (schedule : Schedule) : Schedule :=
  { schedule with executing := false }

/-- What a caller can see. -/
def state (schedule : Schedule) : CoordinatorState :=
  if schedule.executing then .sweepInFlight schedule.waiting else .idle

/-! ### Fresh paths -/

/-- The fresh paths of a list are those that are not among `seen`. -/
theorem mem_freshAmong {path : TaskPath} {seen paths : List TaskPath} :
    path ∈ freshAmong seen paths ↔ path ∈ paths ∧ path ∉ seen := by
  induction paths generalizing seen with
  | nil => simp [freshAmong]
  | cons head rest ih =>
    unfold freshAmong
    split
    · next h =>
      rw [ih, List.mem_cons]
      constructor
      · rintro ⟨inRest, fresh⟩
        exact ⟨.inr inRest, fresh⟩
      · rintro ⟨rfl | inRest, fresh⟩
        · exact absurd h fresh
        · exact ⟨inRest, fresh⟩
    · next h =>
      rw [List.mem_cons, ih, List.mem_cons, List.mem_cons]
      constructor
      · rintro (rfl | ⟨inRest, fresh⟩)
        · exact ⟨.inl rfl, h⟩
        · exact ⟨.inr inRest, fun seenPath => fresh (.inr seenPath)⟩
      · rintro ⟨rfl | inRest, fresh⟩
        · exact .inl rfl
        · by_cases same : path = head
          · exact .inl same
          · exact .inr ⟨inRest, fun either => either.elim same fresh⟩

/-- No path is fresh twice. -/
theorem nodup_freshAmong (seen paths : List TaskPath) : (freshAmong seen paths).Nodup := by
  induction paths generalizing seen with
  | nil => simp [freshAmong]
  | cons head rest ih =>
    unfold freshAmong
    split
    · exact ih seen
    · refine List.nodup_cons.2 ⟨?_, ih _⟩
      intro again
      exact (mem_freshAmong.1 again).2 (by simp)

/-- Only membership among the seen paths matters. -/
theorem freshAmong_congr (paths : List TaskPath) {seen seen' : List TaskPath}
    (same : ∀ path, path ∈ seen ↔ path ∈ seen') :
    freshAmong seen paths = freshAmong seen' paths := by
  induction paths generalizing seen seen' with
  | nil => simp [freshAmong]
  | cons head rest ih =>
    have sameBehind : freshAmong (head :: seen) rest = freshAmong (head :: seen') rest :=
      ih fun path => by simp [same path]
    unfold freshAmong
    rw [ih same, sameBehind]
    by_cases h : head ∈ seen
    · simp [h, (same head).1 h]
    · have absent : head ∉ seen' := fun member => h ((same head).2 member)
      simp [h, absent]

end Schedule

end CompositeBuild
