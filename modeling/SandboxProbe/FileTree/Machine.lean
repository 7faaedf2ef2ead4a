import SandboxProbe.FileTree.Resolve
import SandboxProbe.Host.Session

/-!
# A machine with a file tree

The file calls on a tree that the process owns and may search and write everywhere. A call first
finds the node that it works on, through its path or through an open descriptor; a call that finds
none leaves the tree as it was.
-/

namespace SandboxProbe

structure Machine where
  tree : Tree
  /-- The open descriptors and the places they were opened at. -/
  descriptors : List (Int32 × Location)
  deriving DecidableEq, Repr

namespace Machine

def start (tree : Tree) : Machine := ⟨tree, []⟩

/-- Standard input, output and error are taken. -/
def firstDescriptor : Nat := 3

/-- The lowest free descriptor. -/
def freeDescriptor (m : Machine) : Int32 :=
  let candidates := (List.range (m.descriptors.length + 1)).map fun i =>
    Int32.ofNat (firstDescriptor + i)
  (candidates.find? fun fd => (m.descriptors.lookup fd).isNone).getD (-1)

/-- Changes the node at a place that was found. -/
def change (m : Machine) (f : Node → Node) : Except Errno Location → Reply × Machine
  | .ok place => (.ok, { m with tree := m.tree.update f place })
  | .error e => (.fail e, m)

def ofPath (m : Machine) (follow : Bool) (path : Bytes) : Except Errno Location :=
  m.tree.resolve follow path

def ofDescriptor (m : Machine) (fd : Int32) : Except Errno Location :=
  match m.descriptors.lookup fd with
  | some place => .ok place
  | none => .error .badDescriptor

/-- A directory may be opened for reading, and for nothing else. -/
def openPlace (m : Machine) (access : Access) : Except Errno Location → Reply × Machine
  | .error e => (.fail e, m)
  | .ok place =>
    if access = .write ∧ m.tree.isDirectory place then (.fail .isDirectory, m)
    else
      (⟨m.freeDescriptor, none⟩,
        { m with descriptors := (m.freeDescriptor, place) :: m.descriptors })

def answer (call : FileCall) (m : Machine) : Reply × Machine :=
  match call with
  | .openFile path access => m.openPlace access (m.ofPath true path)
  | .close fd =>
    match m.ofDescriptor fd with
    | .ok _ => (.ok, { m with descriptors := m.descriptors.filter (·.1 ≠ fd) })
    | .error e => (.fail e, m)
  | .lstat path => m.change id (m.ofPath false path)
  | .fstat fd => m.change id (m.ofDescriptor fd)
  | .chmod path mode => m.change (Node.withMode mode) (m.ofPath true path)
  | .fchmod fd mode => m.change (Node.withMode mode) (m.ofDescriptor fd)
  | .utimes path times => m.change (Node.withTimes times) (m.ofPath true path)
  | .lutimes path times => m.change (Node.withTimes times) (m.ofPath false path)
  | .futimes fd times => m.change (Node.withTimes times) (m.ofDescriptor fd)
  | .lchown path _ => m.change Node.withOwner (m.ofPath false path)
  | .fchown fd _ => m.change Node.withOwner (m.ofDescriptor fd)
  | .fchownat _ path _ _ => m.change Node.withOwner (m.ofPath true path)

/-! ## The machine as a host -/

/-- What the loader says of a library that is not there. -/
def absentLibrary (path : Bytes) : Lookup :=
  .missing (some .noEntry) <| some <|
    path ++ Text.Utf8.encode ": cannot open shared object file: No such file or directory"

/-- A machine without a sandbox library. -/
def host (clock : Clock) (owner : Owner) : Host Machine where
  clock := clock
  owner := owner
  file := answer
  contents path m := m.tree.dataAt path
  library := absentLibrary
  symbol _ := .missing none none
  sandboxApply _ := .fail .unsupported
  dlclose := .ok

end Machine

end SandboxProbe
