import Rollout.FileTree
import Rollout.Ref
import Rollout.Segment
import Rollout.Toml.Document
import Rollout.Json.Document
namespace Rollout

-- What was being done when something failed.
inductive Step
  | read (p : Path)
  | parse (p : Path)
  | validate (p : Path)
  | write (p : Path)
  | createDirectory (p : Path)
  | writeTemporary (p : Path)
  | replace (p : Path)
  | get (url : String)
  | other (text : String)
  deriving DecidableEq, Repr

def Step.text : Step → String
  | read p            => "read " ++ p.text
  | parse p           => "parse " ++ p.text
  | validate p        => "validate " ++ p.text
  | write p           => "write " ++ p.text
  | createDirectory p => "create directory " ++ p.text
  | writeTemporary p  => "write temp context " ++ p.text
  | replace p         => "replace context " ++ p.text
  | get url           => "GET " ++ url
  | other text        => text

-- What lies at the bottom of a failure.
inductive Cause
  | file (e : FileError)
  | toml (e : Toml.Error)
  | json (e : Json.Error)
  | ref (e : RefError)
  | projectName (name : String)
  | appName (name : String)
  | repeatedApp (name : String)
  | contextName (name : String)
  | noContext (name : String) (dir : Path)
  | notAnObject
  | notScalar (name : String)
  | noAddress
  | unusableUrl
  | other (text : String)
  deriving DecidableEq, Repr

def Cause.text : Cause → String
  | file e             => e.message
  | toml e             => e.message
  | json e             => e.message
  | ref e              => e.message
  | projectName name   => 
    "project must be a non-empty name of " ++ Segment.alphabet ++ " (got '" ++ name ++ "')"
  | appName name       => 
    "app name must be a non-empty name of " ++ Segment.alphabet ++ " (got '" ++ name ++ "')"
  | repeatedApp name   => "duplicate app '" ++ name ++ "'"
  | contextName name   => 
    "context name must be " ++ Segment.alphabet ++ " only (got '" ++ name ++ "')"
  | noContext name dir => "context '" ++ name ++ "' not found in " ++ dir.text
  | notAnObject        => "variable file must contain a JSON object"
  | notScalar name     => "variable '" ++ name ++ "' must be a scalar value"
  | noAddress          => "server address must not be empty"
  | unusableUrl        => "builder error: invalid URL"
  | other text         => text

-- A failure is a cause and the steps around it, outermost first.
structure Failure where
  steps : List Step
  cause : Cause
  deriving DecidableEq, Repr

namespace Failure

def of (cause : Cause) : Failure where
  steps := []
  cause := cause

def within (step : Step) (f : Failure) : Failure :=
  { f with steps := step :: f.steps }

-- All messages, from the outermost step down to the cause.
def messages (f : Failure) : List String :=
  f.steps.map Step.text ++ [f.cause.text]

-- The whole chain on one line.
def full (f : Failure) : String :=
  ": ".intercalate f.messages

def outermost (f : Failure) : String :=
  match f.steps with
  | []        => f.cause.text
  | step :: _ => step.text

-- Adds a step to the failure of a computation, if it fails.
def during (step : Step) (x : Except Failure α) : Except Failure α :=
  x.mapError (within step)

-- Turns the reason why a computation failed into a cause.
def because (cause : ε → Cause) (x : Except ε α) : Except Failure α :=
  x.mapError fun e => of (cause e)

end Failure
end Rollout
