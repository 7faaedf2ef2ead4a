import SandboxProbe.Host.Call

/-!
# Attribute lists

An attribute list selects attributes by one bitmap per group, and goes with a buffer that the
selected attributes are laid out in. A payload is one of four fixed choices of both. Numbers in the
buffer are little-endian.
-/

namespace SandboxProbe

/-- The selection: how many bitmaps there are, and the bitmap of each group. -/
structure AttributeList where
  bitmapCount : UInt16
  reserved : UInt16
  common : UInt32
  volume : UInt32
  directory : UInt32
  file : UInt32
  fork : UInt32
  deriving DecidableEq, Repr

namespace AttributeList

def bitmaps : UInt16 := 5
def nameBit : UInt32 := 0x1
def modificationTimeBit : UInt32 := 0x400
def changeTimeBit : UInt32 := 0x800
def totalSizeBit : UInt32 := 0x2

def empty : AttributeList := ⟨bitmaps, 0, 0, 0, 0, 0, 0⟩

end AttributeList

inductive PayloadKind
  | common
  | commonName
  | commonTimes
  | fileSize
  deriving DecidableEq, Repr

namespace PayloadKind

def all : List PayloadKind := [.common, .commonName, .commonTimes, .fileSize]

def word : PayloadKind → String
  | .common => "cmn"
  | .commonName => "cmn-name"
  | .commonTimes => "cmn-times"
  | .fileSize => "file-size"

def ofWord? (s : String) : Option PayloadKind :=
  all.find? (·.word = s)

end PayloadKind

structure Payload where
  list : AttributeList
  buffer : Bytes
  deriving DecidableEq, Repr

namespace Payload

/-- The eight bytes of a number, lowest first. -/
def littleEndian (n : UInt64) : Bytes :=
  (List.range 8).map fun i => (n >>> (8 * i.toUInt64)).toUInt8

/-- The number whose bytes these are, lowest first. -/
def ofLittleEndian (bytes : Bytes) : UInt64 :=
  bytes.foldr (fun b n => n <<< 8 ||| b.toUInt64) 0

def ofSeconds (n : Int64) : Bytes :=
  littleEndian n.toUInt64

/-- A point in time as seconds and nanoseconds. -/
def timeSpec (seconds nanoseconds : Int64) : Bytes :=
  ofSeconds seconds ++ ofSeconds nanoseconds

/-- The clock as the buffer takes it: the seconds are signed before the default stands in. -/
def nowSeconds (clock : Clock) : Int64 :=
  (clock.sinceEpoch?.map UInt64.toInt64).getD 0

def nameLength : Nat := 256

def ofKind (clock : Clock) : PayloadKind → Payload
  | .common | .commonName =>
    ⟨{ AttributeList.empty with common := AttributeList.nameBit }, List.replicate nameLength 0⟩
  | .commonTimes =>
    let bits := AttributeList.modificationTimeBit ||| AttributeList.changeTimeBit
    let now := timeSpec (nowSeconds clock) 0
    ⟨{ AttributeList.empty with common := bits }, now ++ now⟩
  | .fileSize =>
    ⟨{ AttributeList.empty with file := AttributeList.totalSizeBit }, littleEndian 0⟩

end Payload

end SandboxProbe
