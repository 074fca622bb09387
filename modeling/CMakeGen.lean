import CMakeGen.Binary64.Reader
import CMakeGen.Main
import CMakeGen.Proofs.Script.Escape
import CMakeGen.Proofs.Script.Layout
import CMakeGen.Proofs.Script.RoundTrip
import CMakeGen.Proofs.Emission.Report
import CMakeGen.Proofs.Emission.RoundTrip
import CMakeGen.Proofs.Script.Execution
import CMakeGen.Proofs.Emission.BuildType
import CMakeGen.Proofs.Emission.OutputDirectory
import CMakeGen.Proofs.Workspace.Coherence
import CMakeGen.Proofs.Path.Absolute
import CMakeGen.Proofs.Path.Ending
import CMakeGen.Proofs.Path.Normal
import CMakeGen.Proofs.Path.Laws
import CMakeGen.Proofs.Emission.Links
import CMakeGen.Proofs.Script.Expression
import CMakeGen.Proofs.Model.Agreement
import CMakeGen.Proofs.Emission.Renderable
import CMakeGen.Proofs.Emission.FirstFailure
import CMakeGen.Proofs.Toolset.Registry
import CMakeGen.Proofs.Model.History
import CMakeGen.Proofs.Workspace.WellFormed
import CMakeGen.Proofs.Disk.Files
import CMakeGen.Proofs.Emission.Files
import CMakeGen.Proofs.Emission.Generation
import CMakeGen.Proofs.Script.Includes
import CMakeGen.Proofs.Emission.PrefixAtomic
import CMakeGen.Proofs.Emission.OwnFiles
import CMakeGen.Proofs.Emission.WorkingDirectory
import CMakeGen.Proofs.Disk.Null
import CMakeGen.Proofs.Workspace.Refusal
import CMakeGen.Proofs.Workspace.Load
import CMakeGen.Proofs.CommandLine.Escapes
import CMakeGen.Proofs.CommandLine.Announced
import CMakeGen.Proofs.Toolset.Coherence
import CMakeGen.Proofs.Emission.HeaderSearch
import CMakeGen.Proofs.Workspace.Acceptance
import CMakeGen.Proofs.Disk.Tree
import CMakeGen.Proofs.Disk.Agreement
import CMakeGen.Proofs.Emission.Independence
import CMakeGen.Proofs.Script.Replacement
import CMakeGen.Proofs.Script.Literal
import CMakeGen.Proofs.Script.BareArguments
import CMakeGen.Proofs.Toolset.Latest
import CMakeGen.Proofs.Toolset.Relocated
import CMakeGen.Proofs.Emission.RecordedName
import CMakeGen.Proofs.Emission.Owned
import CMakeGen.Proofs.Emission.OffMacos
import CMakeGen.Proofs.Emission.OwnData
import CMakeGen.Proofs.Emission.SettledLinks
import CMakeGen.Proofs.CommandLine.OneToolset
