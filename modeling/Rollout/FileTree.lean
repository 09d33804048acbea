import Rollout.Path
namespace Rollout

-- Why a file or directory could not be used.
inductive FileError
  | notFound
  | alreadyExists
  | notADirectory
  | isADirectory
  | nameTooLong
  | nulInPath
  | notText
  deriving DecidableEq, Repr

def FileError.message : FileError → String
  | notFound      => "No such file or directory (os error 2)"
  | alreadyExists => "File exists (os error 17)"
  | notADirectory => "Not a directory (os error 20)"
  | isADirectory  => "Is a directory (os error 21)"
  | nameTooLong   => "File name too long (os error 36)"
  | nulInPath     => "file name contained an unexpected NUL byte"
  | notText       => "stream did not contain valid UTF-8"

-- The names that lead to a file or directory, innermost first. The root is the empty location.
abbrev Location := List String

inductive Content
  | text (s : String)
  | notText
  deriving DecidableEq, Repr

inductive Node
  | directory
  | file (content : Content)
  deriving DecidableEq, Repr

-- Files and directories by location, and the working directory that relative paths start from. A
-- path leads somewhere only along directories, so a node below anything else cannot be reached. There
-- are no links and no permissions here: everything is what it is at one place, and everybody may read and
-- change it.
structure FileTree where
  nodes : List (Location × Node)
  here  : Location := []
  deriving Repr

namespace FileTree

def node? (t : FileTree) : Location → Option Node
  | []  => some .directory
  | loc => t.nodes.lookup loc

def put (t : FileTree) (loc : Location) (n : Node) : FileTree :=
  { t with nodes := (loc, n) :: t.nodes.filter (·.1 ≠ loc) }

def remove (t : FileTree) (loc : Location) : FileTree :=
  { t with nodes := t.nodes.filter (·.1 ≠ loc) }

-- The location that the segments lead to. Each step starts from a directory; the last one may lead 
-- to a place where nothing is.
def walk (t : FileTree) (loc : Location) : List String → Except FileError Location
  | []           => .ok loc
  | seg :: rest  =>
    match t.node? loc with
    | none           => .error .notFound
    | some (.file _) => .error .notADirectory
    | some .directory =>
      if Path.isSilent seg then t.walk loc rest
      else if seg = ".." then t.walk loc.tail rest
      else if 255 < seg.utf8ByteSize then .error .nameTooLong
      else t.walk (seg :: loc) rest

def start (t : FileTree) (p : Path) : Location :=
  if p.isAbsolute then [] else t.here

-- The size of a path in bytes that is already too long, wherever the path may lead.
def tooLong : Nat := 4096

-- Whether a path can be followed at all.
def check (p : Path) : Except FileError Unit :=
  if p.text.toList.contains '\x00' then .error .nulInPath
  else if p.text = "" then .error .notFound
  else if tooLong ≤ p.text.utf8ByteSize then .error .nameTooLong
  else .ok ()

def locate (t : FileTree) (p : Path) : Except FileError Location := do
  check p
  t.walk (t.start p) p.segments

-- What stands at a path.
def find (t : FileTree) (p : Path) : Except FileError Node := do
  match t.node? (← t.locate p) with
  | some n => return n
  | none   => throw .notFound

def isFile (t : FileTree) (p : Path) : Bool :=
  match t.find p with
  | .ok (.file _) => true
  | _             => false

def isDirectory (t : FileTree) (p : Path) : Bool :=
  match t.find p with
  | .ok .directory => true
  | _              => false

-- The text of a file.
def read (t : FileTree) (p : Path) : Except FileError String := do
  match ← t.find p with
  | .directory        => throw .isADirectory
  | .file .notText    => throw .notText
  | .file (.text s)   => return s

-- The names in the directory at a location, in no particular order.
def names (t : FileTree) (loc : Location) : List String :=
  t.nodes.filterMap fun
    | (name :: parent, _) => if parent = loc then some name else none
    | ([], _)             => none

-- The names in a directory.
def list (t : FileTree) (p : Path) : Except FileError (List String) := do
  let loc ← t.locate p
  match t.node? loc with
  | none            => throw .notFound
  | some (.file _)  => throw .notADirectory
  | some .directory => return t.names loc

-- The location of a file to be written. A path that ends in a slash or in dots is one of a
-- directory and cannot be written to.
def target (t : FileTree) (p : Path) : Except FileError Location := do
  check p
  let segs := Path.dropTrailing (· = "") p.segments
  let ends := segs.length < p.segments.length
  match segs.getLast? with
  | none      => throw .isADirectory
  | some name =>
    let parent ← t.walk (t.start p) segs.dropLast
    match t.node? parent with
    | none            => throw .notFound
    | some (.file _)  => throw .notADirectory
    | some .directory =>
      if ends || name = "." || name = ".." then throw .isADirectory
      else if 255 < name.utf8ByteSize then throw .nameTooLong
      else match t.node? (name :: parent) with
        | some .directory => throw .isADirectory
        | _               => return name :: parent

-- Writing a file replaces what it held.
def write (t : FileTree) (p : Path) (text : String) : Except FileError FileTree := do
  return t.put (← t.target p) (.file (.text text))

def makeDirectory (t : FileTree) (p : Path) : Except FileError FileTree := do
  let loc ← t.locate p
  match t.node? loc with
  | some _ => throw .alreadyExists
  | none   => return t.put loc .directory

-- A directory and all missing ones above it, outermost first. What was made stays, even if a later
-- one fails. The walk upwards ends because parents have shorter texts.
def makeDirectoriesWithin : Nat → FileTree → Path → FileTree × Except FileError Unit
  | 0,     t, _ => (t, .error .notFound)
  | n + 1, t, p =>
    let unlessPresent (t : FileTree) (e : FileError) : FileTree × Except FileError Unit :=
      if t.isDirectory p then (t, .ok ()) else (t, .error e)
    if p.text = "" then (t, .ok ())
    else match t.makeDirectory p with
      | .ok t            => (t, .ok ())
      | .error .notFound =>
        match p.parent? with
        | none        => (t, .error .notFound)
        | some parent =>
          match makeDirectoriesWithin n t parent with
          | (t, .error e) => (t, .error e)
          | (t, .ok ())   =>
            match t.makeDirectory p with
            | .ok t    => (t, .ok ())
            | .error e => unlessPresent t e
      | .error e => unlessPresent t e

def makeDirectories (t : FileTree) (p : Path) : FileTree × Except FileError Unit :=
  makeDirectoriesWithin (p.text.length + 1) t p

-- Moves a file onto another path, replacing a file but no directory.
def rename (t : FileTree) (source dest : Path) : Except FileError FileTree := do
  let sourceLoc ← t.locate source
  match t.node? sourceLoc with
  | none   => throw .notFound
  | some n =>
    let destLoc ← t.target dest
    return (t.remove sourceLoc).put destLoc n

-- A tree in which a node stands at a location, with directories leading to it.
def plant (t : FileTree) : Location → Node → FileTree
  | [], _               => t
  | loc@(_ :: parent), n =>
    let t := if (t.node? parent).isNone then plant t parent .directory else t
    t.put loc n

-- Where a path leads if all that it names are directories.
def placeOf (t : FileTree) (p : Path) : Location :=
  p.segments.foldl step (t.start p)
where
  step (loc : Location) (seg : String) : Location :=
    if Path.isSilent seg then loc else if seg = ".." then loc.tail else seg :: loc

end FileTree
end Rollout
