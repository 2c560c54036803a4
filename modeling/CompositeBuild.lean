import CompositeBuild.Build.Await
import CompositeBuild.Build.Included
import CompositeBuild.Build.Schedule
import CompositeBuild.BuildId
import CompositeBuild.Config.Basic
import CompositeBuild.Config.Decode
import CompositeBuild.Config.Load
import CompositeBuild.Decimal.Shortest
import CompositeBuild.Failure
import CompositeBuild.FilePath
import CompositeBuild.FileTree
import CompositeBuild.Launcher.Basic
import CompositeBuild.Launcher.Scripted
import CompositeBuild.Launcher.Traced
import CompositeBuild.Log
import CompositeBuild.NameMap
import CompositeBuild.Outcome
import CompositeBuild.Proofs.Await.Callers
import CompositeBuild.Proofs.Await.Course
import CompositeBuild.Proofs.Await.Exclusion
import CompositeBuild.Proofs.Await.Ledger
import CompositeBuild.Proofs.Await.Standing
import CompositeBuild.Proofs.Await.Sweeps
import CompositeBuild.Registry.Basic
import CompositeBuild.Registry.Dependencies
import CompositeBuild.Scenario.Activity
import CompositeBuild.Scenario.Answer
import CompositeBuild.Scenario.Run
import CompositeBuild.Scenario.Step
import CompositeBuild.Scenario.World
import CompositeBuild.Session.Basic
import CompositeBuild.Session.Resolve
import CompositeBuild.Session.Start
import CompositeBuild.Substitution.Collection
import CompositeBuild.Substitution.ModuleId
import CompositeBuild.Substitution.Rules
import CompositeBuild.Task.Basic
import CompositeBuild.Task.Container
import CompositeBuild.TaskPath
import CompositeBuild.Text.Blank
import CompositeBuild.Text.Format
import CompositeBuild.Text.Printable
import CompositeBuild.Text.Quoted
import CompositeBuild.Text.Segments
import CompositeBuild.Toml.Document
import CompositeBuild.Toml.Key
import CompositeBuild.Toml.Moment
import CompositeBuild.Toml.Number
import CompositeBuild.Toml.Text
import CompositeBuild.Toml.Value
import CompositeBuild.Proofs.Registry.CycleSearch
import CompositeBuild.Proofs.Registry.Acyclic
import CompositeBuild.Proofs.Session.Requests
import CompositeBuild.Proofs.Session.Threads
import CompositeBuild.Proofs.Session.Stacks
import CompositeBuild.Proofs.Session.Progress
import CompositeBuild.Proofs.Await.Endings
import CompositeBuild.Proofs.Await.Dealings
import CompositeBuild.Proofs.Await.Reports
import CompositeBuild.Proofs.Await.Agreement
import CompositeBuild.Proofs.Await.Twins
import CompositeBuild.Proofs.Await.Counterparts
import CompositeBuild.Proofs.Await.Coverage
import CompositeBuild.Proofs.Await.WaitSet
import CompositeBuild.Proofs.Await.Poison
import CompositeBuild.Proofs.Await.Interruption
import CompositeBuild.Proofs.Session.Concourse
import CompositeBuild.Proofs.Session.Covering
import CompositeBuild.Proofs.Launchers.Slot
import CompositeBuild.Proofs.Launchers.Bench
import CompositeBuild.Proofs.Launchers.Custody
import CompositeBuild.Proofs.Launchers.Life
import CompositeBuild.Proofs.Launchers.SingleUse
import CompositeBuild.Proofs.Launchers.Journal
import CompositeBuild.Proofs.Launchers.Models
import CompositeBuild.Proofs.Session.Workspace
import CompositeBuild.Proofs.Task.Resolution
import CompositeBuild.Proofs.Session.Routing
import CompositeBuild.Proofs.Session.Closing
import CompositeBuild.Proofs.Task.Sharing
import CompositeBuild.Proofs.Substitution.Writing
import CompositeBuild.Proofs.Config.Validation
import CompositeBuild.Proofs.Session.Settling
import CompositeBuild.Proofs.Session.Starting
import CompositeBuild.Proofs.Registry.Visiting
import CompositeBuild.Proofs.Session.CycleReports
import CompositeBuild.Proofs.Substitution.Settlement
import CompositeBuild.Proofs.Launchers.Tracing
import CompositeBuild.Proofs.Launchers.Recording
import CompositeBuild.Proofs.Session.Beginning
import CompositeBuild.Proofs.Task.Crossing
import CompositeBuild.Proofs.Substitution.Overwriting
import CompositeBuild.Proofs.Config.Problems
import CompositeBuild.Proofs.Session.AnyOrder
import CompositeBuild.Proofs.Substitution.Coordinates
import CompositeBuild.Proofs.Config.Directories
import CompositeBuild.Proofs.Launchers.Overlap
import CompositeBuild.Proofs.Task.Paths
import CompositeBuild.Proofs.Session.Verdicts
import CompositeBuild.Proofs.Session.Bindings
