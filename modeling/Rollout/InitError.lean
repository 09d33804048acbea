import Rollout.FlagOrder
import Rollout.Routing
import Rollout.Target
import Rollout.Variable
namespace Rollout

inductive ErrorKind
  -- The input is malformed; the same input always fails.
  | inputShape
  -- A configuration or a variable file is missing or broken.
  | configuration
  -- The project cannot do what it was asked for.
  | capability
  -- Stored contexts or the server could not be used.
  | collaborator
  deriving DecidableEq, Repr

-- Malformed input has an exit code of its own.
def ErrorKind.exitCode : ErrorKind → Nat
  | inputShape => 2
  | _          => 1

-- Why a command was not even started.
inductive InitError
  | misplacedFlags (e : FlagOrder.Misplaced)
  | target (e : TargetError)
  | variableFile (f : Failure)
  | unnamed (e : VariableError)
  | remoteUnsupported
  | runnerUnavailable (project : String) (reason : Routing)
  | collaborator (f : Failure)
  deriving DecidableEq, Repr

namespace InitError

-- Of a failing collaborator only the outermost message is shown.
def message : InitError → String
  | misplacedFlags e                 => e.message
  | target e                         => e.message
  | variableFile f                   => "failed to load variables: " ++ f.full
  | unnamed e                        => e.message
  | remoteUnsupported                => 
    "The \x60--remote\x60 flag was specified but remote operations are not supported\n" ++
    "for this project.\n\n" ++
    "Remote operations must be manually enabled by setting 'runner.enabled = true'\n" ++
    "in your deployctl.toml."
  | runnerUnavailable project reason => 
    "Project '" ++ project ++ "' was targeted explicitly, which requires a remote runner, but\n" ++
    "it cannot run operations remotely (" ++ reason.text ++ ").\n\n" ++
    "Run the command from the project directory without a positional target to\n" ++
    "operate locally, or enable remote operations for the project."
  | collaborator f                   => f.outermost

def kind : InitError → ErrorKind
  | misplacedFlags _            => .inputShape
  | target (.ref _)             => .inputShape
  | target (.ambiguousApp _)    => .inputShape
  | target (.noApps _)          => .inputShape
  | target .noConfig            => .configuration
  | target (.config _)          => .configuration
  | variableFile _              => .configuration
  | unnamed _                   => .inputShape
  | remoteUnsupported           => .capability
  | runnerUnavailable _ _       => .capability
  | collaborator _              => .collaborator

def exitCode (e : InitError) : Nat :=
  e.kind.exitCode

end InitError
end Rollout
