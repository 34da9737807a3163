import TrafficControl.Attr.Value
import TrafficControl.Message.Basic

/-!
# Messages under construction

A builder holds a message that grows attribute by attribute under a limit. Every addition is filled
up to a whole word, so the payload is always a whole number of words and never beyond the limit;
both facts are part of the type. An addition that does not fit fails and leaves the builder as it
was. Attributes nest: a nest is begun, filled, and ended, or cancelled with all that was written
since. Main statements: what an addition does when it succeeds (`append_of_fits`) and when it fails
(`append_of_not_fits`).
-/
namespace TrafficControl

structure Builder where
  type : UInt16
  flags : UInt16
  seq : UInt32
  payload : Octets
  /-- The greatest length of the message, its header included. -/
  limit : Nat
  aligned : payload.length % 4 = 0 := by decide
  fits : Message.headerLength + payload.length ≤ limit
deriving DecidableEq

namespace Builder

def defaultLimit : Nat := 8192

/-- A message without payload. A limit below the header's length counts as that. -/
def withLimit (type flags : UInt16) (limit : Nat) : Builder where
  type
  flags
  seq := 0
  payload := []
  limit := max limit Message.headerLength
  fits := Nat.le_max_right ..

def new (type flags : UInt16) : Builder := withLimit type flags defaultLimit

def length (b : Builder) : Nat := Message.headerLength + b.payload.length

def isEmpty (b : Builder) : Bool := b.payload.isEmpty

def header (b : Builder) (n : Nat) : Message.Header :=
  ⟨UInt32.ofNat n, b.type, b.flags, b.seq, 0⟩

/-- All octets so far; the length field covers only the header until the message is finished. -/
def octets (b : Builder) : Octets := (b.header Message.headerLength).octets ++ b.payload

def finish (b : Builder) : Octets := (b.header b.length).octets ++ b.payload

def addFlags (b : Builder) (flags : UInt16) : Builder := { b with flags := b.flags ||| flags }

def setSeq (b : Builder) (seq : UInt32) : Builder := { b with seq }

theorem length_mod_four (b : Builder) : b.length % 4 = 0 := by
  have := b.aligned
  simp only [length, Message.headerLength]
  omega

@[simp] theorem length_octets (b : Builder) : b.octets.length = b.length := by
  simp [octets, length, Message.headerLength]

@[simp] theorem length_finish (b : Builder) : b.finish.length = b.length := by
  simp [finish, length, Message.headerLength]

def extend (b : Builder) (d : Octets) (h : b.length + align d.length ≤ b.limit) : Builder where
  type := b.type
  flags := b.flags
  seq := b.seq
  payload := b.payload ++ Octets.pad d
  limit := b.limit
  aligned := by
    have := b.aligned
    have := align_mod_four d.length
    simp only [List.length_append, Octets.length_pad]
    omega
  fits := by
    simpa only [length, List.length_append, Octets.length_pad, Nat.add_assoc] using h

structure Nest where
  start : Nat
  aligned : start % 4 = 0
deriving DecidableEq

/-- The builder with the length `n` in the header of the attribute at `i`. -/
def setAttrLength (b : Builder) (i n : Nat) : Builder where
  type := b.type
  flags := b.flags
  seq := b.seq
  payload := Octets.putU16 b.payload i (UInt16.ofNat n)
  limit := b.limit
  aligned := by rw [Octets.length_putU16, b.aligned]
  fits := by rw [Octets.length_putU16]; exact b.fits

/-- The builder without what was written since the nest began, its header included. -/
def rollback (b : Builder) (nest : Nest) : Builder where
  type := b.type
  flags := b.flags
  seq := b.seq
  payload := b.payload.take nest.start
  limit := b.limit
  aligned := by
    have := b.aligned
    have := nest.aligned
    simp only [List.length_take]
    omega
  fits := by
    have := b.fits
    simp only [List.length_take]
    omega

end Builder

/-- A computation that writes into a message and may fail. What was written before a failure stays
written. -/
abbrev Build := EStateM Error Builder

namespace Build

def append (d : Octets) : Build Unit := fun b =>
  if h : b.length + align d.length ≤ b.limit then .ok () (b.extend d h)
  else .error (.tooLarge (b.length + align d.length) b.limit) b

theorem append_of_fits {b : Builder} {d : Octets} (h : b.length + align d.length ≤ b.limit) :
    append d b = .ok () (b.extend d h) := dif_pos h

theorem append_of_not_fits {b : Builder} {d : Octets} (h : b.limit < b.length + align d.length) :
    append d b = .error (.tooLarge (b.length + align d.length) b.limit) b :=
  dif_neg (Nat.not_le.mpr h)

/-- Writes an attribute, unless it would be longer than its length field can say. -/
def attr (type : UInt16) (d : Octets) : Build Unit := do
  let n := Attr.headerLength + d.length
  if n > Attr.maxLength then throw (.tooLarge n Attr.maxLength)
  append ((Attr.Header.ofPayload type d.length).octets ++ d)

def attrU8 (type : UInt16) (n : UInt8) : Build Unit := attr type [n]

def attrU16 (type : UInt16) (n : UInt16) : Build Unit := attr type (Octets.u16 n)

def attrU32 (type : UInt16) (n : UInt32) : Build Unit := attr type (Octets.u32 n)

def attrU16BE (type : UInt16) (n : UInt16) : Build Unit := attr type (Octets.u16BE n)

def attrText (type : UInt16) (s : String) : Build Unit := attr type (Attr.ofText s)

/-- Begins a nest: an attribute that is filled by what is written next. -/
def startNest (type : UInt16) : Build Builder.Nest := do
  let b ← get
  append (Attr.Header.ofPayload (type ||| Attr.nestedFlag) 0).octets
  return ⟨b.payload.length, b.aligned⟩

/-- Ends a nest: its header gets the length of all that was written since it began. -/
def endNest (nest : Builder.Nest) : Build Unit := do
  let b ← get
  let n := b.payload.length - nest.start
  if n > Attr.maxLength then throw (.tooLarge n Attr.maxLength)
  set (b.setAttrLength nest.start n)

def cancelNest (nest : Builder.Nest) : Build Unit := modify (·.rollback nest)

def nested (type : UInt16) (contents : Build Unit) : Build Unit := do
  let nest ← startNest type
  contents
  endNest nest

def message (x : Build Unit) (b : Builder) : Except Error Builder :=
  match x b with
  | .ok _ b => .ok b
  | .error e _ => .error e

end Build
end TrafficControl
