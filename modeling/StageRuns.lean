import StageRuns.Agent
import StageRuns.Cause
import StageRuns.Cli.Arguments
import StageRuns.Cli.Command
import StageRuns.Cli.Schema
import StageRuns.Cli.Setting
import StageRuns.Cli.Settings
import StageRuns.Cli.VariableFile
import StageRuns.Codec.Agent
import StageRuns.Codec.Cause
import StageRuns.Codec.Config
import StageRuns.Codec.Decoder
import StageRuns.Codec.Job
import StageRuns.Codec.Record
import StageRuns.Codec.Run
import StageRuns.Config.Job
import StageRuns.Config.Pipeline
import StageRuns.Document
import StageRuns.Expansion
import StageRuns.Failure
import StageRuns.Hash.Sha256
import StageRuns.Id
import StageRuns.InstanceName
import StageRuns.Instantiation
import StageRuns.Job.Collection
import StageRuns.Job.Instance
import StageRuns.Job.Plan
import StageRuns.Job.State
import StageRuns.Json.Basic
import StageRuns.Json.Number
import StageRuns.Json.Printer
import StageRuns.Json.Reader
import StageRuns.Json.Token
import StageRuns.Label
import StageRuns.Main
import StageRuns.Material
import StageRuns.Pipeline
import StageRuns.Profile
import StageRuns.Rerun.Replacement
import StageRuns.Rerun.Selection
import StageRuns.Rerun.Stage
import StageRuns.Saving
import StageRuns.Scheduling
import StageRuns.Stage
import StageRuns.Text.Blank
import StageRuns.Text.CaseTable
import StageRuns.Text.Digit
import StageRuns.Text.Escaped
import StageRuns.Text.LetterCase
import StageRuns.Text.Magnitude
import StageRuns.Text.PrintTable
import StageRuns.Text.Ranges
import StageRuns.Text.Shortest
import StageRuns.Time.Date
import StageRuns.Time.Instant
import StageRuns.Time.Rfc3339
import StageRuns.Variables
import StageRuns.Yaml.BlockScalar
import StageRuns.Yaml.Character
import StageRuns.Yaml.Draft
import StageRuns.Yaml.FlowScalar
import StageRuns.Yaml.Printer
import StageRuns.Yaml.Property
import StageRuns.Yaml.Reader
import StageRuns.Yaml.Scalar
import StageRuns.Yaml.Style
import StageRuns.Yaml.Token
import StageRuns.Proofs.Digits
import StageRuns.Proofs.NameParsing
import StageRuns.Proofs.Names
import StageRuns.Proofs.Collection
import StageRuns.Proofs.Instantiation
import StageRuns.Proofs.Rerun.Selection
import StageRuns.Proofs.Rerun.Replacement
import StageRuns.Proofs.Rerun.Merge
import StageRuns.Proofs.Rerun.Stage
import StageRuns.Proofs.Rerun.Copies
import StageRuns.Proofs.Chain
import StageRuns.Proofs.Rerun.Counting
import StageRuns.Proofs.Agents
import StageRuns.Proofs.Settled
import StageRuns.Proofs.Rerun.Unchanged
import StageRuns.Proofs.Rerun.Whole
import StageRuns.Proofs.Rerun.Siblings
import StageRuns.Proofs.Rerun.Refusal
import StageRuns.Proofs.Rerun.OnAgents
import StageRuns.Proofs.Saving
import StageRuns.Proofs.Lineage
import StageRuns.Proofs.Orderly
import StageRuns.Proofs.Rerun.NameClash
import StageRuns.Proofs.Variables
import StageRuns.Proofs.Environment
import StageRuns.Proofs.Layers
import StageRuns.Proofs.VariableAlgebra
import StageRuns.Proofs.PipelineRun
import StageRuns.Proofs.Calls
import StageRuns.Proofs.Archive
import StageRuns.Proofs.LifeCycle
import StageRuns.Proofs.Rerun.FreshNames
import StageRuns.Proofs.Rerun.CauseLayer
import StageRuns.Proofs.Text
import StageRuns.Proofs.Tags
import StageRuns.Proofs.Json.Tokens
import StageRuns.Proofs.Json.Reading
import StageRuns.Proofs.Time.Date
import StageRuns.Proofs.Time.Rfc3339
import StageRuns.Proofs.Codec.Shape
import StageRuns.Proofs.Codec.Config
import StageRuns.Proofs.Codec.Run
import StageRuns.Proofs.Codec.ReadBack
import StageRuns.Proofs.Codec.Fingerprint
import StageRuns.Proofs.Rerun.Request
import StageRuns.Proofs.Rerun.Unselected
import StageRuns.Proofs.Rerun.Result
import StageRuns.Proofs.Secrets
import StageRuns.Proofs.Template
import StageRuns.Proofs.Expansions
import StageRuns.Proofs.Rerun.Places
import StageRuns.Proofs.Truncation
import StageRuns.Proofs.CounterLabels
import StageRuns.Proofs.CheckedCollections
import StageRuns.Proofs.Rerun.RunIndex
import StageRuns.Proofs.Batches
import StageRuns.Proofs.Matching
import StageRuns.Proofs.MaterialCheck
import StageRuns.Proofs.CauseSummary
