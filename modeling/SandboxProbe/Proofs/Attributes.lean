import Mathlib.Data.Nat.Digits.Defs
import SandboxProbe.Attributes
import SandboxProbe.Proofs.Descriptors

/-!
# Attribute payloads and the clock

A payload is read back here: which attributes its list selects, and which numbers its buffer holds.
`payload_shares_clock`: the times in the buffer are those that the calls on times hand over at the same
reading of the clock.
-/

namespace SandboxProbe

namespace Payload

/-! ## Numbers in bytes -/

/-- The number that the bytes are the digits of, in base 256 and lowest first. -/
def valueOf (bytes : Bytes) : Nat :=
  Nat.ofDigits 256 (bytes.map UInt8.toNat)

theorem valueOf_lt (bytes : Bytes) : valueOf bytes < 256 ^ bytes.length := by
  have hdigits : ∀ d ∈ bytes.map UInt8.toNat, d < 256 := by
    intro d hd
    obtain ⟨b, -, rfl⟩ := List.mem_map.mp hd
    exact b.toNat_lt
  have h := Nat.ofDigits_lt_base_pow_length (by decide : 1 < 256) hdigits
  rwa [List.length_map] at h

theorem toNat_pushByte (n : UInt64) (b : UInt8) (hn : n.toNat < 256 ^ 7) :
    (n <<< 8 ||| b.toUInt64).toNat = b.toNat + 256 * n.toNat := by
  have hb : b.toNat < 2 ^ 8 := b.toNat_lt
  have hroom : n.toNat <<< 8 < 2 ^ 64 := by
    rw [Nat.shiftLeft_eq]
    omega
  have hshift : (n <<< 8).toNat = n.toNat <<< 8 := by
    rw [UInt64.toNat_shiftLeft]
    exact Nat.mod_eq_of_lt hroom
  rw [UInt64.toNat_or, hshift, UInt8.toNat_toUInt64, ← Nat.shiftLeft_add_eq_or_of_lt hb,
    Nat.shiftLeft_eq]
  omega

theorem toNat_ofLittleEndian (bytes : Bytes) (h : bytes.length ≤ 8) :
    (ofLittleEndian bytes).toNat = valueOf bytes := by
  induction bytes with
  | nil => rfl
  | cons b rest ih =>
    rw [List.length_cons] at h
    have ihrest := ih (by omega)
    have hlt : valueOf rest < 256 ^ 7 :=
      Nat.lt_of_lt_of_le (valueOf_lt rest) (Nat.pow_le_pow_right (by decide) (by omega))
    have hcons : valueOf (b :: rest) = b.toNat + 256 * valueOf rest := by
      rw [valueOf, List.map_cons, Nat.ofDigits_cons, valueOf]
    rw [← ihrest] at hlt
    rw [hcons, ← ihrest]
    exact toNat_pushByte _ b hlt

theorem length_littleEndian (n : UInt64) : (littleEndian n).length = 8 := by
  simp [littleEndian]

theorem toNat_byte (n : UInt64) {i : Nat} (h : i < 8) :
    (n >>> (8 * i.toUInt64)).toUInt8.toNat = n.toNat / 256 ^ i % 256 := by
  have hi : (8 * i.toUInt64).toNat = 8 * i := by
    rw [UInt64.toNat_mul]
    simp
    omega
  have hshift : 8 * i % 64 = 8 * i := Nat.mod_eq_of_lt (by omega)
  rw [UInt64.toNat_toUInt8, UInt64.toNat_shiftRight, hi, hshift, Nat.shiftRight_eq_div_pow,
    Nat.pow_mul]

/-- The lowest `k` digits of a number give the number below `256 ^ k`. -/
theorem ofDigits_range (n k : Nat) :
    Nat.ofDigits 256 ((List.range k).map fun i => n / 256 ^ i % 256) = n % 256 ^ k := by
  induction k with
  | zero => simp [Nat.mod_one]
  | succ k ih =>
    rw [List.range_succ, List.map_append, Nat.ofDigits_append, ih, List.length_map,
      List.length_range, List.map_singleton, Nat.ofDigits_singleton, Nat.pow_succ, Nat.mod_mul]

theorem valueOf_littleEndian (n : UInt64) : valueOf (littleEndian n) = n.toNat := by
  have hdigits : (littleEndian n).map UInt8.toNat =
      (List.range 8).map fun i => n.toNat / 256 ^ i % 256 := by
    unfold littleEndian
    rw [List.map_map]
    apply List.map_congr_left
    intro i hi
    exact toNat_byte n (List.mem_range.mp hi)
  rw [valueOf, hdigits, ofDigits_range]
  exact Nat.mod_eq_of_lt n.toNat_lt

theorem ofLittleEndian_littleEndian (n : UInt64) : ofLittleEndian (littleEndian n) = n := by
  apply UInt64.toNat_inj.mp
  rw [toNat_ofLittleEndian _ (length_littleEndian n).le, valueOf_littleEndian]

/-! ## Times in a buffer -/

/-- The signed number in the eight bytes from `start` on. -/
def numberAt (buffer : Bytes) (start : Nat) : Int64 :=
  (ofLittleEndian ((buffer.drop start).take 8)).toInt64

/-- The seconds and the nanoseconds in the sixteen bytes from `start` on. -/
def timeSpecAt (buffer : Bytes) (start : Nat) : Int64 × Int64 :=
  (numberAt buffer start, numberAt buffer (start + 8))

/-- The two points in time that a buffer of 32 bytes holds. -/
def timeSpecs? (buffer : Bytes) : Option ((Int64 × Int64) × (Int64 × Int64)) :=
  if buffer.length = 32 then some (timeSpecAt buffer 0, timeSpecAt buffer 16) else none

theorem length_ofSeconds (n : Int64) : (ofSeconds n).length = 8 :=
  length_littleEndian n.toUInt64

theorem length_timeSpec (seconds nanoseconds : Int64) : (timeSpec seconds nanoseconds).length = 16 := by
  simp [timeSpec, length_ofSeconds]

theorem numberAt_append (before after : Bytes) (n : Int64) {start : Nat}
    (h : before.length = start) : numberAt (before ++ (ofSeconds n ++ after)) start = n := by
  unfold numberAt
  rw [List.drop_left' h, List.take_left' (length_ofSeconds n), ofSeconds,
    ofLittleEndian_littleEndian]
  simp

theorem timeSpecAt_append (before after : Bytes) (seconds nanoseconds : Int64) {start : Nat}
    (h : before.length = start) :
    timeSpecAt (before ++ (timeSpec seconds nanoseconds ++ after)) start = (seconds, nanoseconds) := by
  have hseconds : numberAt (before ++ (timeSpec seconds nanoseconds ++ after)) start = seconds := by
    rw [timeSpec, List.append_assoc]
    exact numberAt_append _ _ _ h
  have hnanos :
      numberAt (before ++ (timeSpec seconds nanoseconds ++ after)) (start + 8) = nanoseconds := by
    rw [timeSpec, List.append_assoc, ← List.append_assoc before]
    apply numberAt_append
    rw [List.length_append, h, length_ofSeconds]
  rw [timeSpecAt, hseconds, hnanos]

theorem timeSpecs?_append (s n s' n' : Int64) :
    timeSpecs? (timeSpec s n ++ timeSpec s' n') = some ((s, n), (s', n')) := by
  have hlength : (timeSpec s n ++ timeSpec s' n').length = 32 := by
    simp [length_timeSpec]
  have hfirst : timeSpecAt (timeSpec s n ++ timeSpec s' n') 0 = (s, n) :=
    timeSpecAt_append [] _ s n rfl
  have hsecond : timeSpecAt (timeSpec s n ++ timeSpec s' n') 16 = (s', n') := by
    have h := timeSpecAt_append (timeSpec s n) [] s' n' (length_timeSpec s n)
    rwa [List.append_nil] at h
  unfold timeSpecs?
  rw [if_pos hlength, hfirst, hsecond]

/-- The buffer's reading of the clock is the one of the calls, though the default comes in later. -/
theorem nowSeconds_eq_wholeSeconds (clock : Clock) : nowSeconds clock = clock.wholeSeconds := by
  unfold nowSeconds Clock.wholeSeconds
  cases clock.sinceEpoch? <;> rfl

end Payload

/-! ## Attributes -/

inductive AttributeGroup
  | common
  | volume
  | directory
  | file
  | fork
  deriving DecidableEq, Repr

def AttributeList.bitmap (list : AttributeList) : AttributeGroup → UInt32
  | .common => list.common
  | .volume => list.volume
  | .directory => list.directory
  | .file => list.file
  | .fork => list.fork

inductive Attribute
  | name
  | modificationTime
  | changeTime
  | totalSize
  deriving DecidableEq, Repr

namespace Attribute

def all : List Attribute := [.name, .modificationTime, .changeTime, .totalSize]

def group : Attribute → AttributeGroup
  | .totalSize => .file
  | _ => .common

def bit : Attribute → UInt32
  | .name => AttributeList.nameBit
  | .modificationTime => AttributeList.modificationTimeBit
  | .changeTime => AttributeList.changeTimeBit
  | .totalSize => AttributeList.totalSizeBit

/-- How many bytes of the buffer are laid out for an attribute. -/
def size : Attribute → Nat
  | .name => 256
  | .modificationTime => 16
  | .changeTime => 16
  | .totalSize => 8

end Attribute

namespace AttributeList

def selected (list : AttributeList) : List Attribute :=
  Attribute.all.filter fun a => list.bitmap a.group &&& a.bit ≠ 0

def union (bits : List UInt32) : UInt32 :=
  bits.foldr (· ||| ·) 0

/-- A list that selects attributes of one group, and nothing besides. -/
structure Of (list : AttributeList) (group : AttributeGroup) : Prop where
  nonzero : list.bitmap group ≠ 0
  others : ∀ g, g ≠ group → list.bitmap g = 0
  inGroup : ∀ a ∈ list.selected, a.group = group
  known : list.bitmap group = union (list.selected.map Attribute.bit)
  reserved : list.reserved = 0
  bitmapCount : list.bitmapCount = 5

end AttributeList

def PayloadKind.group : PayloadKind → AttributeGroup
  | .fileSize => .file
  | _ => .common

def PayloadKind.attributes : PayloadKind → List Attribute
  | .common | .commonName => [.name]
  | .commonTimes => [.modificationTime, .changeTime]
  | .fileSize => [.totalSize]

namespace Payload

/-- The clock is in the buffer alone. -/
theorem list_ofKind (clock clock' : Clock) (kind : PayloadKind) :
    (ofKind clock kind).list = (ofKind clock' kind).list := by
  cases kind <;> rfl

theorem selected_ofKind (clock : Clock) (kind : PayloadKind) :
    (ofKind clock kind).list.selected = kind.attributes := by
  rw [list_ofKind clock ⟨0, 0⟩]
  cases kind <;> decide

theorem ofKind_group (clock : Clock) (kind : PayloadKind) :
    (ofKind clock kind).list.Of kind.group where
  nonzero := by
    rw [list_ofKind clock ⟨0, 0⟩]
    cases kind <;> decide
  others := by
    intro g hg
    cases kind <;> cases g <;> first | rfl | exact absurd rfl hg
  inGroup := by
    rw [selected_ofKind]
    cases kind <;> decide
  known := by
    rw [selected_ofKind, list_ofKind clock ⟨0, 0⟩]
    cases kind <;> decide
  reserved := by cases kind <;> rfl
  bitmapCount := by cases kind <;> rfl

theorem length_buffer (clock : Clock) (kind : PayloadKind) :
    (ofKind clock kind).buffer.length = (kind.attributes.map Attribute.size).sum := by
  cases kind with
  | common | commonName => exact List.length_replicate
  | commonTimes => simp [ofKind, length_timeSpec, PayloadKind.attributes, Attribute.size]
  | fileSize => rfl

end Payload

/-! ## Times in calls -/

def FileCall.times? : FileCall → Option Times
  | .utimes _ times => some times
  | .lutimes _ times => some times
  | .futimes _ times => some times
  | _ => none

def MenuCall.handsTimes : MenuCall → Bool
  | .utimes | .lutimes | .futimes => true
  | _ => false

/-- What a plan's own call hands over, whatever was opened for it. -/
def Plan.Hands (times : Option Times) : Plan → Prop
  | .nothing => times = none
  | .onPath request => request.times? = times
  | .onDescriptor _ request => ∀ fd, (request fd).times? = times

@[simp] theorem times?_openFile (path : Bytes) (access : Access) :
    (FileCall.openFile path access).times? = none := rfl

@[simp] theorem times?_close (fd : Int32) : (FileCall.close fd).times? = none := rfl

section
variable {σ : Type} (host : Host σ) (path : Bytes) (state : σ)

theorem plan_hands (mode : UInt32) (call : MenuCall) :
    (call.plan host mode path).Hands
      (if call.handsTimes then some (Times.now host.clock) else none) := by
  cases call with
  | fstat | fchmod | futimes | fchown => exact fun fd => rfl
  | _ => rfl

/-- Nothing that has to be opened for a plan fails to open. -/
def Plan.opens : Plan → Bool
  | .onDescriptor access _ => (Plan.openReply host path state access).1.rc != -1
  | _ => true

theorem times_plan {plan : Plan} {times : Option Times} (h : plan.Hands times) :
    (plan.calls host path state).filterMap FileCall.times? =
      if plan.opens host path state then times.toList else [] := by
  cases plan with
  | nothing =>
    obtain rfl : times = none := h
    rfl
  | onPath request =>
    have hrequest : request.times? = times := h
    cases times <;> simp [Plan.calls, Plan.opens, hrequest]
  | onDescriptor access request =>
    have hrequest := h (Plan.openReply host path state access).1.rc
    by_cases hfd : (Plan.openReply host path state access).1.rc = -1
    · simp [Plan.calls, Plan.opens, hfd]
    · cases times <;> simp [Plan.calls, Plan.opens, hfd, List.filterMap_cons, hrequest]

/-- An entry that hands times over hands the clock's over, and once. -/
theorem times_calls (mode : UInt32) (call : MenuCall) :
    (call.calls host mode path state).filterMap FileCall.times? =
      if call.handsTimes && !Library.holdsNul path && (call.plan host mode path).opens host path state
      then [Times.now host.clock] else [] := by
  unfold MenuCall.calls
  cases Library.holdsNul path with
  | true => simp
  | false =>
    have h := times_plan host path state (plan_hands host path mode call)
    cases hhands : call.handsTimes <;> simpa [hhands] using h

end

/-- The buffer of times is 32 bytes, which read as two points in time give the clock's seconds twice, 0
for a clock that stands before 1970, and the calls on times hand over the same seconds, for both times
and once for each entry that gets to its call. The list of a payload selects attributes of one group, its
other groups and the reserved field are 0, and the buffer has room for what is selected. -/
theorem payload_shares_clock {σ : Type} (host : Host σ) :
    let now := max host.clock.seconds 0
    let payload := Payload.ofKind host.clock
    ((payload .commonTimes).buffer.length = 32 ∧
      Payload.timeSpecs? (payload .commonTimes).buffer = some ((now, 0), (now, 0)) ∧
      ∀ bytes : Bytes, bytes.length ≤ 8 →
        (Payload.ofLittleEndian bytes).toNat = Payload.valueOf bytes) ∧
    (∀ (s : Session σ) mode path (call : MenuCall), ∃ made : List FileCall,
      ((call.issue host mode path).run s).2.calls = s.calls ++ made.map .file ∧
      made.filterMap FileCall.times? =
        if call.handsTimes && !Library.holdsNul path &&
          (call.plan host mode path).opens host path s.state
        then [⟨⟨now, 0⟩, ⟨now, 0⟩⟩] else []) ∧
    (∀ kind, (payload kind).list.Of kind.group ∧ (payload kind).list.selected = kind.attributes ∧
      (payload kind).buffer.length = (kind.attributes.map Attribute.size).sum) ∧
    (payload .common).buffer = List.replicate 256 0 ∧
    (payload .commonName).buffer = List.replicate 256 0 ∧
    (payload .fileSize).buffer = List.replicate 8 0 := by
  intro now payload
  have hwhole : host.clock.wholeSeconds = now := Clock.wholeSeconds_eq_max host.clock
  have hnow : Payload.nowSeconds host.clock = now := by
    rw [Payload.nowSeconds_eq_wholeSeconds, hwhole]
  refine ⟨⟨?_, ?_, Payload.toNat_ofLittleEndian⟩, ?_, ?_, rfl, rfl, rfl⟩
  · exact Payload.length_buffer host.clock .commonTimes
  · rw [← hnow]
    exact Payload.timeSpecs?_append _ 0 _ 0
  · intro s mode path call
    refine ⟨_, (made_issue host s mode path call).1, ?_⟩
    rw [times_calls, Times.now, hwhole]
  · intro kind
    exact ⟨Payload.ofKind_group host.clock kind, Payload.selected_ofKind host.clock kind,
      Payload.length_buffer host.clock kind⟩

end SandboxProbe
