import SandboxProbe.Host.Call

/-!
# File trees

All files, directories and links from the root on, and the directory that the process works in. A node
lives at a location, the names that lead to it from the root with the innermost first, and is the one
object that every path to it shares. What is recorded below anything but a directory is not in the
tree, so that whatever is in it lies in directories up to the root.
-/

namespace SandboxProbe

inductive Content
  | file (data : Bytes)
  | directory
  | link (target : Bytes)
  deriving DecidableEq, Repr

/-- An object with its mode and times. Following a link reads it, and its access time is not kept
track of there: `accessed` of a link is moved by `lutimes` alone. -/
structure Node where
  content : Content
  mode : UInt32
  accessed : Int64
  modified : Int64
  deriving DecidableEq, Repr

abbrev Location := List Bytes

/-- The directory that holds a location. The root holds itself. -/
def Location.parent : Location → Location
  | [] => []
  | _ :: above => above

structure Tree where
  workingDirectory : Location
  nodes : List (Location × Node)
  deriving DecidableEq, Repr

namespace Tree

def root : Location := []

/-- The node at a location, if all above it are directories. -/
def node? (t : Tree) : Location → Option Node
  | [] => t.nodes.lookup root
  | name :: above =>
    if (node? t above).map Node.content = some .directory then t.nodes.lookup (name :: above)
    else none

def content? (t : Tree) (place : Location) : Option Content :=
  (t.node? place).map Node.content

def isDirectory (t : Tree) (place : Location) : Bool :=
  t.content? place = some .directory

/-- The place of a name in a directory, if the directory has the name. -/
def child? (t : Tree) (place : Location) (name : Bytes) : Option Location :=
  if (t.node? (name :: place)).isSome then some (name :: place) else none

/-- Changes the node at one place, and none other. -/
def update (t : Tree) (f : Node → Node) (place : Location) : Tree :=
  { t with nodes := t.nodes.map fun (l, n) => if l = place then (l, f n) else (l, n) }

end Tree

/-! ## What a call changes in a node -/

namespace Node

def setuidBit : UInt32 := 0o4000

def setgidBit : UInt32 := 0o2000

def groupExecuteBit : UInt32 := 0o0010

def modeBits : UInt32 := 0o7777

def withMode (mode : UInt32) (n : Node) : Node :=
  { n with mode := mode &&& modeBits }

def withTimes (times : Times) (n : Node) : Node :=
  { n with accessed := times.access.seconds, modified := times.modification.seconds }

/-- A change of owner takes setuid from everything but directories, and setgid where the group may
execute. -/
def withOwner (n : Node) : Node :=
  match n.content with
  | .directory => n
  | _ =>
    let mode := n.mode &&& ~~~setuidBit
    { n with mode := if mode &&& groupExecuteBit = 0 then mode else mode &&& ~~~setgidBit }

end Node

end SandboxProbe
