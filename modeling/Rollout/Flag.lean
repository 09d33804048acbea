import Rollout.KeyOrder
namespace Rollout

-- How a flag can be written: by a long name, a letter, and other names that stand for it.
structure Spelling where
  long          : Option String := none
  letter        : Option Char := none
  aliases       : List String := []
  letterAliases : List Char := []
  deriving DecidableEq, Repr

namespace Spelling

-- All names of a flag, without hyphens. What has neither a long name nor a letter is not a flag, and
-- then other names do not make it one.
def names (s : Spelling) : List String :=
  if s.long.isNone && s.letter.isNone then []
  else s.long.toList ++ (s.letter.toList ++ s.letterAliases).map String.singleton ++ s.aliases

-- The names of several flags in ascending order, each once.
def allNames (ss : List Spelling) : List String :=
  (KeyOrder.ofList ((ss.flatMap names).map (·, ()))).map (·.1)

end Spelling

-- The flags of the command line.
inductive Flag
  | plain
  | app
  | project
  | workspace
  | label
  | remote
  | remoteSource
  | assign
  | assignFile
  | serverAddress
  | serverTls
  | skipVerify
  | json
  | help
  | version
  deriving DecidableEq, Repr

namespace Flag

def long : Flag → String
  | plain         => "plain"
  | app           => "app"
  | project       => "project"
  | workspace     => "workspace"
  | label         => "label"
  | remote        => "remote"
  | remoteSource  => "remote-source"
  | assign        => "var"
  | assignFile    => "var-file"
  | serverAddress => "server-addr"
  | serverTls     => "server-tls"
  | skipVerify    => "server-tls-skip-verify"
  | json          => "json"
  | help          => "help"
  | version       => "version"

def letter? : Flag → Option Char
  | app       => some 'a'
  | project   => some 'p'
  | workspace => some 'w'
  | help      => some 'h'
  | version   => some 'V'
  | _         => none

-- What the value of a flag is called. Switches have no value.
def placeholder? : Flag → Option String
  | app           => some "APP"
  | project       => some "PROJECT"
  | workspace     => some "WORKSPACE"
  | label         => some "KEY=VALUE"
  | remoteSource  => some "KEY=VALUE"
  | assign        => some "NAME=VALUE"
  | assignFile    => some "PATH"
  | serverAddress => some "ADDR"
  | serverTls     => some "BOOL"
  | _             => none

-- Whether a flag can be given several times, each time with a further value.
def repeats : Flag → Bool
  | label        => true
  | remoteSource => true
  | assign       => true
  | assignFile   => true
  | _            => false

def spelling (f : Flag) : Spelling where
  long   := some f.long
  letter := f.letter?

-- How messages show a flag.
def shown (f : Flag) : String :=
  "--" ++ f.long ++ f.placeholder?.elim "" fun name => " <" ++ name ++ ">"

def summary : Flag → String
  | plain         => "Print without decoration"
  | app           => "App to target"
  | project       => "Project to target"
  | workspace     => "Workspace to operate in"
  | label         => "Label to set for the operation (repeatable)"
  | remote        => "Execute on a remote runner"
  | remoteSource  => "Setting for how remote runners fetch data (repeatable)"
  | assign        => "Variable to set for the operation (repeatable)"
  | assignFile    => "TOML or JSON file with variables (repeatable)"
  | serverAddress => "Address of the server"
  | serverTls     => "Whether to connect to the server via TLS"
  | skipVerify    => "Skip verification of the certificate of the server"
  | json          => "Print as JSON"
  | help          => "Print help"
  | version       => "Print version"

-- The flags of every command.
def ofEvery : List Flag := 
  [plain, app, project, workspace]

-- The flags of commands that operate on something.
def ofOperations : List Flag := 
  [label, remote, remoteSource, assign, assignFile]

-- The flags about the server.
def ofConnections : List Flag := 
  [serverAddress, serverTls, skipVerify]

end Flag
end Rollout
