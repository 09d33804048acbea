import Rollout.Main
import Rollout.Proofs.ContextStore.Saved
import Rollout.Proofs.Dispatch.Explicit
import Rollout.Proofs.Dispatch.Merging
import Rollout.Proofs.Program.Report
import Rollout.Proofs.Outcome.Classified
import Rollout.Proofs.Target.Precedence
import Rollout.Proofs.Target.Unresolved
import Rollout.Proofs.FlagOrder.Reported
import Rollout.Proofs.KeyOrder
import Rollout.Proofs.LastOf
import Rollout.Proofs.Text.Bytes
import Rollout.Proofs.Variable
import Rollout.Proofs.Environment
import Rollout.Proofs.FileTree.Listing
import Rollout.Proofs.VariableFile
import Rollout.Proofs.CommandContext.Loading
import Rollout.Proofs.CommandContext.Values
import Rollout.Proofs.Dispatch.Candidates
import Rollout.Proofs.Dispatch.Declared
import Rollout.Proofs.Dispatch.FlagTexts
import Rollout.Proofs.Dispatch.Mode
import Rollout.Proofs.ProjectConfig.RoundTrip
import Rollout.Proofs.Program.Preparation
import Rollout.Proofs.CommandLine.RoundTrip
import Rollout.Proofs.CommandContext.Remote
import Rollout.Proofs.Program.Remote
import Rollout.Proofs.Failure
import Rollout.Proofs.Trace.Surfacing
import Rollout.Proofs.CommandContext.Surfacing
import Rollout.Proofs.Program.Causes
import Rollout.Proofs.CommandContext.Nameless
import Rollout.Proofs.Dispatch.Unasked
import Rollout.Proofs.Dispatch.Refusal
import Rollout.Proofs.Dispatch.Addressable
import Rollout.Proofs.FileTree.Making
import Rollout.Proofs.ContextStore.Refused
import Rollout.Proofs.Routing.Decided
import Rollout.Proofs.ProjectConfig.Discovery
import Rollout.Proofs.CommandContext.Beside
import Rollout.Proofs.VariableFile.Formats
import Rollout.Proofs.Precedence.Workspace
import Rollout.Proofs.Precedence.Connection
import Rollout.Proofs.CommandContext.Requests
import Rollout.Proofs.Project
