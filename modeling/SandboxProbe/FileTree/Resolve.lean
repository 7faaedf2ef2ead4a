import SandboxProbe.FileTree.Basic

/-!
# Path resolution

From a path to the place that it denotes. A path that begins with a slash starts at the root, any other
at the working directory, or, if it is the target of a link, where the link is. Names are taken one by
one, each in a directory; an empty name and a dot stay, so that a trailing slash asks for a directory;
links on the way are followed, and a link at the end is if the call follows it. At most forty links are
followed in all.
-/

namespace SandboxProbe

namespace Path

def slash : UInt8 := 0x2F

def dot : Bytes := [0x2E]

def dotDot : Bytes := [0x2E, 0x2E]

/-- The names between the slashes of a path. -/
def names : Bytes → List Bytes
  | [] => [[]]
  | b :: r =>
    if b = slash then [] :: names r
    else
      match names r with
      | [] => [[b]]
      | name :: rest => (b :: name) :: rest

def longestName : Nat := 255

def longestPath : Nat := 4095

def mostLinks : Nat := 40

end Path

namespace Tree

/-- Where a path begins that is used in `place`. -/
def start (place : Location) (path : Bytes) : Location :=
  if path.head? = some Path.slash then root else place

/-- Takes names from a place on. `jump` goes on after a link. -/
def walkWith (t : Tree) (follow : Bool) (jump : Location → List Bytes → Except Errno Location) :
    Location → List Bytes → Except Errno Location
  | place, [] => .ok place
  | place, name :: rest =>
    if t.isDirectory place then
      if name = [] ∨ name = Path.dot then walkWith t follow jump place rest
      else if name = Path.dotDot then walkWith t follow jump place.parent rest
      else if Path.longestName < name.length then .error .nameTooLong
      else
        match t.child? place name with
        | none => .error .noEntry
        | some child =>
          match t.content? child with
          | some (.link target) =>
            if rest = [] ∧ follow = false then .ok child
            else jump (start place target) (Path.names target ++ rest)
          | _ => walkWith t follow jump child rest
    else .error .notDirectory

/-- Takes names from a place on, through at most `links` links. -/
def walk (t : Tree) (follow : Bool) : Nat → Location → List Bytes → Except Errno Location
  | 0 => walkWith t follow fun _ _ => .error .linkLoop
  | links + 1 => walkWith t follow (walk t follow links)

/-- The place that a path denotes for a call that follows a final link, or for one that does not. -/
def resolve (t : Tree) (follow : Bool) (path : Bytes) : Except Errno Location :=
  if Path.longestPath < path.length then .error .nameTooLong
  else if path = [] then .error .noEntry
  else t.walk follow Path.mostLinks (start t.workingDirectory path) (Path.names path)

/-- Whether a path leads to anything. A path that holds NUL does not. -/
def pathExists (t : Tree) (path : Bytes) : Bool :=
  !path.contains 0 && (t.resolve true path).isOk

/-- What reading the file at a path gives. -/
def dataAt (t : Tree) (path : Bytes) : Except Errno Bytes := do
  match t.content? (← t.resolve true path) with
  | some (.file data) => .ok data
  | some .directory => .error .isDirectory
  | _ => .error .noEntry

/-- The tree with nothing in it but its root, where the process works. -/
def bare (time : Int64) : Tree :=
  ⟨root, [(root, ⟨.directory, 0o755, time, time⟩)]⟩

end Tree

end SandboxProbe
