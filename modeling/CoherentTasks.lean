import CoherentTasks.Access
import CoherentTasks.Backend.Basic
import CoherentTasks.Backend.Memory
import CoherentTasks.Backend.Registry
import CoherentTasks.Clock
import CoherentTasks.Coherence.Region
import CoherentTasks.CommandLine.Arguments
import CoherentTasks.CommandLine.LogFilter
import CoherentTasks.CommandLine.Program
import CoherentTasks.Completion.Handle
import CoherentTasks.Completion.Submitted
import CoherentTasks.Completion.Waiter
import CoherentTasks.Device
import CoherentTasks.Document.Parser
import CoherentTasks.Document.Quotation
import CoherentTasks.Document.Reader
import CoherentTasks.Document.Scalar
import CoherentTasks.Document.Statement
import CoherentTasks.Document.Value
import CoherentTasks.Error
import CoherentTasks.Geometry.Box
import CoherentTasks.Geometry.BoxSet
import CoherentTasks.Graph.Basic
import CoherentTasks.Graph.Cancellation
import CoherentTasks.Graph.Node
import CoherentTasks.Graph.Operation
import CoherentTasks.Graph.Pruning
import CoherentTasks.Graph.Walk
import CoherentTasks.Identifier
import CoherentTasks.Journal
import CoherentTasks.Main
import CoherentTasks.Pattern.Atom
import CoherentTasks.Pattern.Basic
import CoherentTasks.Pattern.Mode
import CoherentTasks.Pattern.Set
import CoherentTasks.Proofs.Backend.AddressSpaces
import CoherentTasks.Proofs.Backend.Memory
import CoherentTasks.Proofs.Backend.Registry
import CoherentTasks.Proofs.Coherence.Checked
import CoherentTasks.Proofs.Coherence.Region
import CoherentTasks.Proofs.Coherence.Renewal
import CoherentTasks.Proofs.Coherence.Runs
import CoherentTasks.Proofs.Coherence.SingleWriter
import CoherentTasks.Proofs.Completion.Handle
import CoherentTasks.Proofs.Completion.Leaves
import CoherentTasks.Proofs.Completion.Session
import CoherentTasks.Proofs.Completion.Submitted
import CoherentTasks.Proofs.Completion.Waking
import CoherentTasks.Proofs.Computation
import CoherentTasks.Proofs.Geometry.Alternatives
import CoherentTasks.Proofs.Geometry.Box
import CoherentTasks.Proofs.Geometry.BoxSet
import CoherentTasks.Proofs.Geometry.Checked
import CoherentTasks.Proofs.Geometry.History
import CoherentTasks.Proofs.Geometry.Merging
import CoherentTasks.Proofs.Geometry.Representation
import CoherentTasks.Proofs.Geometry.Rigid
import CoherentTasks.Proofs.Geometry.Subtraction
import CoherentTasks.Proofs.Geometry.Tiling
import CoherentTasks.Proofs.Graph.Basic
import CoherentTasks.Proofs.Graph.Cancellation
import CoherentTasks.Proofs.Graph.Pruning
import CoherentTasks.Proofs.Graph.Walk
import CoherentTasks.Proofs.Graph.WellFormed
import CoherentTasks.Proofs.Scenario.Accounting
import CoherentTasks.Proofs.Scenario.Addresses
import CoherentTasks.Proofs.Scenario.Assembly
import CoherentTasks.Proofs.Scenario.Building
import CoherentTasks.Proofs.Scenario.Coherence
import CoherentTasks.Proofs.Scenario.Conflicts
import CoherentTasks.Proofs.Scenario.Contents
import CoherentTasks.Proofs.Scenario.Dependence
import CoherentTasks.Proofs.Scenario.Enrolment
import CoherentTasks.Proofs.Scenario.Fate
import CoherentTasks.Proofs.Scenario.Fetching
import CoherentTasks.Proofs.Scenario.Grounding
import CoherentTasks.Proofs.Scenario.Hazards
import CoherentTasks.Proofs.Scenario.Joining
import CoherentTasks.Proofs.Scenario.Layout
import CoherentTasks.Proofs.Scenario.Order
import CoherentTasks.Proofs.Scenario.Predecessors
import CoherentTasks.Proofs.Scenario.Preparation
import CoherentTasks.Proofs.Scenario.Progress
import CoherentTasks.Proofs.Scenario.Provision
import CoherentTasks.Proofs.Scenario.Races
import CoherentTasks.Proofs.Scenario.Running
import CoherentTasks.Proofs.Scenario.SharedMemory
import CoherentTasks.Proofs.Scenario.Staged
import CoherentTasks.Proofs.Scenario.Sufficiency
import CoherentTasks.Proofs.Scenario.Supply
import CoherentTasks.Proofs.Scenario.Underway
import CoherentTasks.Proofs.Scenario.Validity
import CoherentTasks.Proofs.Scheduler
import CoherentTasks.Proofs.Spelling
import CoherentTasks.Proofs.Submission.Abandonment
import CoherentTasks.Proofs.Submission.Agreement
import CoherentTasks.Proofs.Submission.Allocation
import CoherentTasks.Proofs.Submission.Checked
import CoherentTasks.Proofs.Submission.Consistency
import CoherentTasks.Proofs.Submission.Copying
import CoherentTasks.Proofs.Submission.Dependency
import CoherentTasks.Proofs.Submission.Exactness
import CoherentTasks.Proofs.Submission.ExplicitCopy
import CoherentTasks.Proofs.Submission.Failure
import CoherentTasks.Proofs.Submission.Frame
import CoherentTasks.Proofs.Submission.Freshness
import CoherentTasks.Proofs.Submission.Holding
import CoherentTasks.Proofs.Submission.Listing
import CoherentTasks.Proofs.Submission.Lockstep
import CoherentTasks.Proofs.Submission.Marking
import CoherentTasks.Proofs.Submission.Marks
import CoherentTasks.Proofs.Submission.Move
import CoherentTasks.Proofs.Submission.Obstacle
import CoherentTasks.Proofs.Submission.Openings
import CoherentTasks.Proofs.Submission.Ordering
import CoherentTasks.Proofs.Submission.Overflow
import CoherentTasks.Proofs.Submission.Overwriting
import CoherentTasks.Proofs.Submission.Placement
import CoherentTasks.Proofs.Submission.Planning
import CoherentTasks.Proofs.Submission.Pruned
import CoherentTasks.Proofs.Submission.Recursion
import CoherentTasks.Proofs.Submission.Registration
import CoherentTasks.Proofs.Submission.Replay
import CoherentTasks.Proofs.Submission.Resolution
import CoherentTasks.Proofs.Submission.Run
import CoherentTasks.Proofs.Submission.Scope
import CoherentTasks.Proofs.Submission.Settlement
import CoherentTasks.Proofs.Submission.Stages
import CoherentTasks.Proofs.Submission.Submit
import CoherentTasks.Proofs.Submission.Transfer
import CoherentTasks.Proofs.Submission.Turn
import CoherentTasks.Proofs.Submission.Use
import CoherentTasks.Proofs.Submission.Waiting
import CoherentTasks.Proofs.Submission.Windows
import CoherentTasks.Proofs.Table
import CoherentTasks.Proofs.Word
import CoherentTasks.Scenario.Assembly
import CoherentTasks.Scenario.Decoding
import CoherentTasks.Scenario.Execution
import CoherentTasks.Scenario.Fault
import CoherentTasks.Scenario.Listing
import CoherentTasks.Scenario.Model
import CoherentTasks.Scenario.Order
import CoherentTasks.Scenario.Report
import CoherentTasks.Scenario.Validation
import CoherentTasks.Scenario.Window
import CoherentTasks.Scheduler
import CoherentTasks.Spelling
import CoherentTasks.Submission.Dependency
import CoherentTasks.Submission.Resolution
import CoherentTasks.Submission.Submit
import CoherentTasks.Submission.Transfer
import CoherentTasks.Table
import CoherentTasks.Text.Alphanumeric
import CoherentTasks.Text.Blank
import CoherentTasks.Text.CodeRanges
import CoherentTasks.Text.Digits
import CoherentTasks.Text.LetterCase
import CoherentTasks.Text.Lowercase
import CoherentTasks.Text.Numeral
import CoherentTasks.Text.Quoted
import CoherentTasks.Text.Reader
import CoherentTasks.Text.Visible
import CoherentTasks.Word
