import BuildScript.Coercion
import BuildScript.Config.Search
import BuildScript.Fault.Equal
import BuildScript.Fault.Layout
import BuildScript.Files.Probe
import BuildScript.Glob
import BuildScript.Logging.Setup
import BuildScript.Output
import BuildScript.Table
import BuildScript.Template.Fill
import BuildScript.TestRun
import BuildScript.Text.Percent
import BuildScript.Project
import BuildScript.FunctionSet.Basic
import BuildScript.FunctionSet.Descriptor
import BuildScript.FunctionSet.Plugin
import BuildScript.Registry
import BuildScript.FunctionSet.Core
import BuildScript.Dispatch
import BuildScript.FunctionSet.Body
import BuildScript.Activation
import BuildScript.Help
import BuildScript.Session
import BuildScript.Fixture
import BuildScript.Yaml.ScalarText
import BuildScript.Yaml.Tokens
import BuildScript.Yaml.Construction
import BuildScript.Proofs.Config.Refusal
import BuildScript.Proofs.Registry.Plugins
import BuildScript.Proofs.Registry.Catalogue
import BuildScript.Proofs.Dispatch.Arguments
import BuildScript.Proofs.Dispatch.Escape
import BuildScript.Proofs.Dispatch.Outcome
import BuildScript.Proofs.Dispatch.Construction
import BuildScript.Proofs.Dispatch.Declared
import BuildScript.Proofs.Registry.Activation
import BuildScript.Proofs.Registry.Declarations
import BuildScript.Proofs.Dispatch.Forgetful
import BuildScript.Proofs.Files.Containment
import BuildScript.Proofs.Files.Failing
import BuildScript.Proofs.Files.FirstDir
import BuildScript.Proofs.Files.Following
import BuildScript.Proofs.Files.Landing
import BuildScript.Proofs.Files.Matching
import BuildScript.Proofs.Files.Probing
import BuildScript.Proofs.Files.Regular
import BuildScript.Proofs.Session.Frame
import BuildScript.Proofs.Session.Isolation
import BuildScript.Proofs.Session.Live
import BuildScript.Proofs.Text.Wrapping
import BuildScript.Proofs.Output.Printing
import BuildScript.Proofs.Value.Coercing
import BuildScript.Proofs.Dispatch.Library
import BuildScript.Proofs.Dispatch.Sequence
import BuildScript.Proofs.Project.Edits
import BuildScript.Proofs.Project.Existence
import BuildScript.Proofs.Config.UnknownKeys
import BuildScript.Proofs.Project.Executions
import BuildScript.Proofs.Registry.LibrarySets
import BuildScript.Proofs.Fault.Rebuilding
import BuildScript.Proofs.Fault.Layouts
import BuildScript.Proofs.TestRun.Selection
import BuildScript.Proofs.Dispatch.Scanning
import BuildScript.Proofs.Files.Opening
import BuildScript.Proofs.Logging.LogFile
import BuildScript.Proofs.Logging.Routing
import BuildScript.Proofs.Yaml.DistinctKeys
import BuildScript.Proofs.Config.Acceptance
import BuildScript.Proofs.Config.Precedence
import BuildScript.Proofs.Dispatch.Trace
import BuildScript.Proofs.Fault.Blocks
import BuildScript.Proofs.Fault.Equivalence
import BuildScript.Proofs.Output.Helping
import BuildScript.Proofs.Output.Fitting
import BuildScript.Proofs.Output.Lossless
import BuildScript.Proofs.Session.Resetting
import BuildScript.Proofs.Logging.AllOrNothing
import BuildScript.Proofs.Number.Numerals
import BuildScript.Proofs.Registry.Signatures
import BuildScript.Proofs.TestRun.Accounting
import BuildScript.Proofs.Project.BuildFile
import BuildScript.Proofs.Text.Lowering
import BuildScript.Proofs.Registry.ArgumentNames
import BuildScript.Proofs.Output.Coloring
