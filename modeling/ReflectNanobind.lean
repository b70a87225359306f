import ReflectNanobind.Corpus.Aggregate
import ReflectNanobind.Corpus.Conservation
import ReflectNanobind.Corpus.Documents
import ReflectNanobind.Corpus.EmitLane
import ReflectNanobind.Corpus.History
import ReflectNanobind.Corpus.Report
import ReflectNanobind.Gates.BugIsolation
import ReflectNanobind.Gates.CleanVerdict
import ReflectNanobind.Gates.CrashEvidence
import ReflectNanobind.Gates.Diagnostics
import ReflectNanobind.Gates.Document
import ReflectNanobind.Gates.FailureBlock
import ReflectNanobind.Gates.GroundTruth
import ReflectNanobind.Gates.Invocation
import ReflectNanobind.Gates.LaneJoin
import ReflectNanobind.Gates.Record
import ReflectNanobind.Gates.ResultDocument
import ReflectNanobind.Gates.ResultFile
import ReflectNanobind.Gates.ResultSchema
import ReflectNanobind.Gates.RunGates
import ReflectNanobind.Gates.Runs
import ReflectNanobind.Gates.StaticAssertions
import ReflectNanobind.Gates.Traces
import ReflectNanobind.Gates.Undecodable
import ReflectNanobind.Gates.Verdict
import ReflectNanobind.Library.Depth
import ReflectNanobind.Library.Float64
import ReflectNanobind.Library.Glob
import ReflectNanobind.Library.Grouping
import ReflectNanobind.Library.Host
import ReflectNanobind.Library.JsonAccess
import ReflectNanobind.Library.JsonDumps
import ReflectNanobind.Library.JsonLayout
import ReflectNanobind.Library.JsonNumber
import ReflectNanobind.Library.JsonSchema
import ReflectNanobind.Library.JsonText
import ReflectNanobind.Library.KeyedTree
import ReflectNanobind.Library.Lines
import ReflectNanobind.Library.Plan
import ReflectNanobind.Library.Program
import ReflectNanobind.Library.RadixForm
import ReflectNanobind.Library.Replace
import ReflectNanobind.Library.Shell
import ReflectNanobind.Library.Text
import ReflectNanobind.Library.TreeAgreement
import ReflectNanobind.Matcher.GlobMatch
import ReflectNanobind.Scripts.Archives
import ReflectNanobind.Scripts.Builds
import ReflectNanobind.Scripts.CiPrepare
import ReflectNanobind.Scripts.FailureCode
import ReflectNanobind.Scripts.Handover
import ReflectNanobind.Scripts.Markers
import ReflectNanobind.Scripts.Prebuilt
import ReflectNanobind.Scripts.Provenance
import ReflectNanobind.Scripts.Rebuilds
import ReflectNanobind.Scripts.SameProgram
import ReflectNanobind.Scripts.Settings
import ReflectNanobind.Scripts.Steps
import ReflectNanobind.Scripts.Toolbox
import ReflectNanobind.Scripts.Zones
import ReflectNanobind.Serde.Binary
import ReflectNanobind.Serde.Equal
import ReflectNanobind.Serde.Objects
import ReflectNanobind.Serde.ToJson
import ReflectNanobind.Surface.Agreement
import ReflectNanobind.Surface.Attributes
import ReflectNanobind.Surface.ClassGraph
import ReflectNanobind.Surface.Describe
import ReflectNanobind.Surface.Detection
import ReflectNanobind.Surface.Diff
import ReflectNanobind.Surface.FalseAlarm
import ReflectNanobind.Surface.Fields
import ReflectNanobind.Surface.Gate
import ReflectNanobind.Surface.Reasons
import ReflectNanobind.Surface.Script
