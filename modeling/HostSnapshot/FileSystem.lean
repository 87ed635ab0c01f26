import HostSnapshot.Text.Basic
import HostSnapshot.Text.Quoted

namespace HostSnapshot

/-- Where a path starts. Two leading slashes differ from one; three or more do not. -/
inductive Path.Anchor
  | here
  | root
  | doubled
deriving DecidableEq, Repr

structure Path where
  anchor : Path.Anchor
  parts : List String
deriving DecidableEq, Repr

namespace Path

def Anchor.ofChars : List Char → Anchor
  | '/' :: '/' :: '/' :: _ => .root
  | '/' :: '/' :: _ => .doubled
  | '/' :: _ => .root
  | _ => .here

def Anchor.text : Anchor → String
  | .here => ""
  | .root => "/"
  | .doubled => "//"

def components (s : List Char) : List String :=
  ((Text.pieces (· == '/') s).filter fun w => !w.isEmpty && w != ['.']).map String.ofList

def ofText (text : String) : Path := ⟨.ofChars text.toList, components text.toList⟩

def slash : Path := ⟨.root, []⟩

/-- What a host path means below a root: its leading slashes say nothing. -/
def below (root : Path) (hostPath : String) : Path :=
  { root with parts := root.parts ++ components hostPath.toList }

def text (p : Path) : String :=
  if p.anchor = .here && p.parts.isEmpty then "."
  else p.anchor.text ++ "/".intercalate p.parts

/-- A path that a file system cannot be asked for. -/
def holdsNull (p : Path) : Bool := p.parts.any fun part => part.toList.contains '\x00'

end Path

/-- The families of outside failures that are told apart. -/
inductive Failure.Family
  | library
  | missingFile
  | system
  | runtime
  | other
deriving DecidableEq, Repr

structure Failure where
  name : String
  family : Failure.Family
  message : String
deriving DecidableEq, Repr

def Failure.isSystem (f : Failure) : Bool :=
  f.family = .missingFile || f.family = .system

/-- The name and the words with which the system refuses a file that is there: it may not be read,
its device does not answer, its links go round in a circle. -/
structure Refusal where
  name : String
  message : String
deriving DecidableEq, Repr

def Refusal.failure (r : Refusal) : Failure := ⟨r.name, .system, r.message⟩

inductive FileTree
  | file (bytes : List UInt8)
  | dir (entries : List (String × FileTree))
  | refused (refusal : Refusal)
deriving Inhabited, Repr

namespace FileTree

abbrev Entries := List (String × FileTree)

def Entries.put : Entries → String → FileTree → Entries
  | [], name, tree => [(name, tree)]
  | (n, t) :: rest, name, tree =>
    if n = name then (n, tree) :: rest else (n, t) :: Entries.put rest name tree

/-- Puts a tree at a place; files on the way become directories. -/
def put (tree : FileTree) : (place : List String) → FileTree → FileTree
  | [], new => new
  | name :: place, new =>
    let entries : Entries := match tree with
      | .dir entries => entries
      | _ => []
    .dir (entries.put name (((entries.lookup name).getD (.dir [])).put place new))

def remove (tree : FileTree) : (place : List String) → FileTree
  | [] => .dir []
  | name :: place => match tree with
    | .file bytes => .file bytes
    | .refused r => .refused r
    | .dir entries => match place with
      | [] => .dir (entries.filter (·.1 ≠ name))
      | _ => match entries.lookup name with
        | none => .dir entries
        | some t => .dir (Entries.put entries name (t.remove place))

end FileTree

inductive FileProblem
  | missing
  | notDirectory
  | isDirectory
deriving DecidableEq, Repr

def FileProblem.number : FileProblem → Nat
  | .missing => 2
  | .notDirectory => 20
  | .isDirectory => 21

def FileProblem.words : FileProblem → String
  | .missing => "No such file or directory"
  | .notDirectory => "Not a directory"
  | .isDirectory => "Is a directory"

structure FileFailure where
  problem : FileProblem
  path : Path
deriving DecidableEq, Repr

def FileFailure.message (f : FileFailure) : String :=
  s!"[Errno {f.problem.number}] {f.problem.words}: " ++ quoted f.path.text

structure FileSystem where
  tree : FileTree
  working : List String
deriving Repr

namespace FileSystem

/-- Follows components from a tree, whose parents are `up`; the root is its own parent. What is
below a place that is refused is refused like it. -/
def follow (tree : FileTree) (up : List FileTree) : List String → Except FileProblem FileTree
  | [] => .ok tree
  | name :: rest => match tree with
    | .file _ => .error .notDirectory
    | .refused r => .ok (.refused r)
    | .dir entries =>
      -- Only what is a directory has a parent to go back to.
      if name = ".." then match up with
        | [] => follow tree [] rest
        | parent :: up => follow parent up rest
      else match entries.lookup name with
        | none => .error .missing
        | some child => follow child (tree :: up) rest

def start (fs : FileSystem) (p : Path) : List String :=
  match p.anchor with
  | .here => fs.working
  | _ => []

def read (fs : FileSystem) (p : Path) : Except (FileFailure ⊕ Refusal) (List UInt8) :=
  match follow fs.tree [] (fs.start p ++ p.parts) with
  | .ok (.file bytes) => .ok bytes
  | .ok (.dir _) => .error (.inl ⟨.isDirectory, p⟩)
  | .ok (.refused r) => .error (.inr r)
  | .error problem => .error (.inl ⟨problem, p⟩)

end FileSystem

end HostSnapshot
