import ManualTraffic.Main
import ManualTraffic.Operator.Calls
import ManualTraffic.Proofs.FlowConfig.Entries
import ManualTraffic.Session
import ManualTraffic.Proofs.FlowConfig.Merge
import ManualTraffic.Proofs.FlowConfig.MergeRun
import ManualTraffic.Proofs.Operator.Resume
import ManualTraffic.Proofs.Operator.Collection
import ManualTraffic.Proofs.Generator.Errand
import ManualTraffic.Proofs.Generator.Endings
import ManualTraffic.Proofs.Generator.Figures
import ManualTraffic.Proofs.FlowConfig.Parsed
import ManualTraffic.Proofs.FlowConfig.Paths
import ManualTraffic.Proofs.FlowConfig.Clash
import ManualTraffic.Proofs.FlowConfig.Grouping
import ManualTraffic.Proofs.Generator.Announcement
import ManualTraffic.Proofs.Operator.Output
import ManualTraffic.Proofs.CommandLine.Opening
import ManualTraffic.Proofs.CommandLine.Effective
import ManualTraffic.Proofs.Pairing
import ManualTraffic.Proofs.Operator.Pairing
import ManualTraffic.Proofs.Generator.Pairing
import ManualTraffic.Proofs.Operator.Lines
import ManualTraffic.Proofs.Session.Supply
import ManualTraffic.Proofs.CommandLine.InTurn
import ManualTraffic.Proofs.Generator.Reserved
import ManualTraffic.Proofs.Binary64.Value
import ManualTraffic.Proofs.Results.Range
import ManualTraffic.Proofs.Binary64.Text
import ManualTraffic.Proofs.Generator.Presentation
import ManualTraffic.Proofs.Scope.Bracketing
import ManualTraffic.Proofs.Scope.Uses
import ManualTraffic.Proofs.CommandLine.Arguments
import ManualTraffic.Proofs.CommandLine.Integers
import ManualTraffic.Proofs.Logging
import ManualTraffic.Proofs.Operator.Composition
import ManualTraffic.Proofs.FlowConfig.KeyOrder
import ManualTraffic.Proofs.Generator.Containment
import ManualTraffic.Proofs.FlowConfig.Independence
import ManualTraffic.Proofs.Generator.ReadBack
import ManualTraffic.Proofs.Report.Formats
import ManualTraffic.Proofs.Report.Table
import ManualTraffic.Proofs.FlowConfig.Untyped
import ManualTraffic.Proofs.FlowConfig.Validity
import ManualTraffic.Proofs.CommandLine.Validity
