import Rollout.Text.Blank
namespace Rollout

inductive RefError
  | emptyProject
  | emptyApp
  | emptyWorkspace
  deriving DecidableEq, Repr

def RefError.message : RefError → String
  | emptyProject   => "project name must not be empty"
  | emptyApp       => "app name must not be empty"
  | emptyWorkspace => "workspace name must not be empty"

-- A project by its name. Names are kept exactly as given, but never blank.
@[ext]
structure ProjectRef where
  name     : String
  nonblank : Text.isBlank name = false
  deriving DecidableEq

-- An app by the names of its project and of itself.
@[ext]
structure AppRef where
  project         : String
  app             : String
  nonblankProject : Text.isBlank project = false
  nonblankApp     : Text.isBlank app = false
  deriving DecidableEq

@[ext]
structure WorkspaceRef where
  name     : String
  nonblank : Text.isBlank name = false
  deriving DecidableEq

namespace ProjectRef

def ofName (name : String) : Except RefError ProjectRef :=
  if h : Text.isBlank name then .error .emptyProject else .ok ⟨name, by simpa using h⟩ 

-- The app of that name inside the project.
def app (p : ProjectRef) (name : String) : Except RefError AppRef :=
  if h : Text.isBlank name then .error .emptyApp 
  else .ok ⟨p.name, name, p.nonblank, by simpa using h⟩ 

end ProjectRef

namespace AppRef

-- Of two blank names the project's is reported.
def ofNames (project app : String) : Except RefError AppRef := do
  (← ProjectRef.ofName project).app app

def projectRef (a : AppRef) : ProjectRef where
  name     := a.project
  nonblank := a.nonblankProject

def text (a : AppRef) : String :=
  a.project ++ "/" ++ a.app

end AppRef

namespace WorkspaceRef

def ofName (name : String) : Except RefError WorkspaceRef :=
  if h : Text.isBlank name then .error .emptyWorkspace else .ok ⟨name, by simpa using h⟩ 

-- The workspace that is used when nothing names one.
def default : WorkspaceRef where
  name     := "default"
  nonblank := by decide

end WorkspaceRef
end Rollout
