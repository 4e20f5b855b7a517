import HingeField.Assignment
import HingeField.Block
import HingeField.Decimal.Layout
import HingeField.Decimal.Numeral
import HingeField.Decimal.Shortest
import HingeField.Effect
import HingeField.Exponential
import HingeField.Fault
import HingeField.Forest
import HingeField.Keyed
import HingeField.Model
import HingeField.Network
import HingeField.Position
import HingeField.Proofs.Agreement
import HingeField.Proofs.Ancestry
import HingeField.Proofs.Arena
import HingeField.Proofs.BlockStates
import HingeField.Proofs.Categories
import HingeField.Proofs.Components
import HingeField.Proofs.Confinement
import HingeField.Proofs.Connectivity
import HingeField.Proofs.Decoding
import HingeField.Proofs.Doubles
import HingeField.Proofs.Encoding
import HingeField.Proofs.Enumeration
import HingeField.Proofs.ExactSums
import HingeField.Proofs.Expectation
import HingeField.Proofs.FailedDecisions
import HingeField.Proofs.Filing
import HingeField.Proofs.FinalValues
import HingeField.Proofs.Footprint
import HingeField.Proofs.Grammar
import HingeField.Proofs.Greedy
import HingeField.Proofs.History
import HingeField.Proofs.Improvement
import HingeField.Proofs.Interleaving
import HingeField.Proofs.Layout
import HingeField.Proofs.Leftovers
import HingeField.Proofs.LegalFactors
import HingeField.Proofs.Lifecycle
import HingeField.Proofs.LineNumbers
import HingeField.Proofs.Locality
import HingeField.Proofs.Magnitude
import HingeField.Proofs.Moments
import HingeField.Proofs.Naming
import HingeField.Proofs.NearestValues
import HingeField.Proofs.NetworkReading
import HingeField.Proofs.Ordering
import HingeField.Proofs.OwnScores
import HingeField.Proofs.PartialText
import HingeField.Proofs.Partition
import HingeField.Proofs.Precedence
import HingeField.Proofs.Precision
import HingeField.Proofs.Preservation
import HingeField.Proofs.RealText
import HingeField.Proofs.Redraws
import HingeField.Proofs.Rejection
import HingeField.Proofs.Relaxation
import HingeField.Proofs.Removal
import HingeField.Proofs.ResultsFile
import HingeField.Proofs.Roots
import HingeField.Proofs.Sameness
import HingeField.Proofs.Samples
import HingeField.Proofs.Satisfaction
import HingeField.Proofs.Schedule
import HingeField.Proofs.Sequence
import HingeField.Proofs.Shortest
import HingeField.Proofs.Stages
import HingeField.Proofs.Staleness
import HingeField.Proofs.Tabulation
import HingeField.Proofs.Transcript
import HingeField.Proofs.Traversal
import HingeField.Proofs.TwoRuns
import HingeField.Proofs.UnitInterval
import HingeField.Proofs.Violations
import HingeField.Proofs.Ways
import HingeField.Proofs.Wording
import HingeField.Property
import HingeField.Random.Generator
import HingeField.Random.Seed
import HingeField.Register
import HingeField.Results
import HingeField.Rounding.Bernoulli
import HingeField.Rounding.Greedy
import HingeField.Rounding.Outcome
import HingeField.Rounding.Pool
import HingeField.Rule
import HingeField.Sample
import HingeField.Scalar
import HingeField.Shell.Arithmetic
import HingeField.Shell.Builtin
import HingeField.Shell.Condition
import HingeField.Shell.Control
import HingeField.Shell.Conversion
import HingeField.Shell.Delegation
import HingeField.Shell.Delivery
import HingeField.Shell.Escape
import HingeField.Shell.Evaluation
import HingeField.Shell.Expansion
import HingeField.Shell.Fields
import HingeField.Shell.Host.Calls
import HingeField.Shell.Host.Course
import HingeField.Shell.Host.Disk
import HingeField.Shell.Host.Machine
import HingeField.Shell.Host.Schedule
import HingeField.Shell.Host.Setup
import HingeField.Shell.Host.Status
import HingeField.Shell.Integer
import HingeField.Shell.Job
import HingeField.Shell.Lookup
import HingeField.Shell.Names
import HingeField.Shell.Octets
import HingeField.Shell.Options
import HingeField.Shell.Parameters
import HingeField.Shell.Pattern
import HingeField.Shell.Permission
import HingeField.Shell.Printing
import HingeField.Shell.Process
import HingeField.Shell.Program
import HingeField.Shell.Reader
import HingeField.Shell.Real
import HingeField.Shell.Records.Command
import HingeField.Shell.Records.Datum
import HingeField.Shell.Records.Evaluation
import HingeField.Shell.Records.Expression
import HingeField.Shell.Records.Format
import HingeField.Shell.Records.Reader
import HingeField.Shell.Records.Store
import HingeField.Shell.Records.Stream
import HingeField.Shell.Records.Substitution
import HingeField.Shell.Records.Token
import HingeField.Shell.Records.Tree
import HingeField.Shell.Redirect
import HingeField.Shell.Runner
import HingeField.Shell.Session
import HingeField.Shell.Signal
import HingeField.Shell.Source
import HingeField.Shell.Tree
import HingeField.Shell.Utility.Arguments
import HingeField.Shell.Utility.Blocks
import HingeField.Shell.Utility.Bytes
import HingeField.Shell.Utility.Calendar
import HingeField.Shell.Utility.Catalog
import HingeField.Shell.Utility.Checksum
import HingeField.Shell.Utility.Columns
import HingeField.Shell.Utility.Criterion
import HingeField.Shell.Utility.Deadline
import HingeField.Shell.Utility.Dependence
import HingeField.Shell.Utility.Desk
import HingeField.Shell.Utility.Difference
import HingeField.Shell.Utility.DifferenceForm
import HingeField.Shell.Utility.Digest
import HingeField.Shell.Utility.Dump
import HingeField.Shell.Utility.Edit
import HingeField.Shell.Utility.EditScript
import HingeField.Shell.Utility.EditText
import HingeField.Shell.Utility.Expression
import HingeField.Shell.Utility.Factors
import HingeField.Shell.Utility.Facts
import HingeField.Shell.Utility.Figures
import HingeField.Shell.Utility.FileComparison
import HingeField.Shell.Utility.Files
import HingeField.Shell.Utility.Find
import HingeField.Shell.Utility.Launch
import HingeField.Shell.Utility.Layout
import HingeField.Shell.Utility.Lettering
import HingeField.Shell.Utility.Links
import HingeField.Shell.Utility.Listing
import HingeField.Shell.Utility.Lookaround
import HingeField.Shell.Utility.Merging
import HingeField.Shell.Utility.Order
import HingeField.Shell.Utility.Paragraph
import HingeField.Shell.Utility.Parts
import HingeField.Shell.Utility.Properties
import HingeField.Shell.Utility.Regex
import HingeField.Shell.Utility.Repeats
import HingeField.Shell.Utility.Scaling
import HingeField.Shell.Utility.Search
import HingeField.Shell.Utility.Sections
import HingeField.Shell.Utility.Splitting
import HingeField.Shell.Utility.Transfer
import HingeField.Shell.Utility.Version
import HingeField.Shell.Utility.Whole
import HingeField.Shell.Verdict
import HingeField.Solution
import HingeField.Solver.Config
import HingeField.Solver.FileSystem
import HingeField.Solver.Path
import HingeField.Solver.Run
import HingeField.Store
import HingeField.Summary
import HingeField.Table
import HingeField.Text.Letter
import HingeField.Text.Lines
import HingeField.Text.Quoted
import HingeField.Text.Utf8
