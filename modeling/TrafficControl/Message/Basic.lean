import TrafficControl.Error

/-!
# Messages

A message is a header of sixteen octets and a payload; its length counts both, and it is filled up
to a whole word. A receive buffer holds messages one after the other; reading it ends at the first
length that cannot be right. Main statement: each message takes at least its header
(`length_of_next?`), so reading ends.
-/
namespace TrafficControl.Message

def headerLength : Nat := 16

def noop : UInt16 := 1

/-- Type of a kernel report: an error or an acknowledgement. -/
def report : UInt16 := 2

def done : UInt16 := 3

def newAction : UInt16 := 48

def delAction : UInt16 := 49

def getAction : UInt16 := 50

def requestFlag : UInt16 := 0x1

def dumpFlags : UInt16 := 0x300

def replaceFlag : UInt16 := 0x100

structure Header where
  length : UInt32
  type : UInt16
  flags : UInt16
  seq : UInt32
  pid : UInt32
deriving DecidableEq, Repr

namespace Header

def ofType (type flags : UInt16) : Header := ⟨UInt32.ofNat headerLength, type, flags, 0, 0⟩

def octets (h : Header) : Octets :=
  Octets.u32 h.length ++ Octets.u16 h.type ++ Octets.u16 h.flags ++ Octets.u32 h.seq ++
    Octets.u32 h.pid

@[simp] theorem length_octets (h : Header) : h.octets.length = 16 := by simp [octets]

def readAt (d : Octets) (i : Nat) : Header :=
  ⟨Octets.u32At d i, Octets.u16At d (i + 4), Octets.u16At d (i + 6), Octets.u32At d (i + 8),
    Octets.u32At d (i + 12)⟩

def read (d : Octets) : Except Error Header :=
  if d.length < headerLength then .error (.truncated headerLength d.length)
  else .ok (Header.readAt d 0)

def isReport (h : Header) : Bool := h.type == report

def isDone (h : Header) : Bool := h.type == done

def isNoop (h : Header) : Bool := h.type == noop

end Header

structure Frame where
  header : Header
  payload : Octets
deriving DecidableEq, Repr

/-- The message at the front of `d`, or its fault, and what comes after. There is none in fewer
octets than a header has, and nothing comes after a fault. -/
def next? (d : Octets) : Option (Except Error Frame × Octets) :=
  if !Octets.hasAtLeast headerLength d then none
  else
    let h := Header.readAt d 0
    let n := h.length.toNat
    if headerLength ≤ n ∧ Octets.hasAtLeast n d then
      some (.ok ⟨h, (d.take n).drop headerLength⟩, d.drop (align n))
    else some (.error (.invalidMessage (.badLength n)), [])

theorem length_of_next? {d r : Octets} {f : Except Error Frame} (h : next? d = some (f, r)) :
    r.length + headerLength ≤ d.length := by
  simp only [next?, Bool.not_eq_eq_eq_not, Bool.not_true, Octets.hasAtLeast_eq_false_iff,
    Octets.hasAtLeast_iff] at h
  split at h
  · simp at h
  · rename_i hd
    split at h <;> simp only [Option.some.injEq, Prod.mk.injEq] at h <;> rw [← h.2]
    · have := le_align (Header.readAt d 0).length.toNat
      rw [List.length_drop]
      omega
    · simpa using hd

/-- The messages in a buffer, the last of them perhaps a fault. -/
def frames (d : Octets) : List (Except Error Frame) :=
  match _h : next? d with
  | none => []
  | some (f, r) => f :: frames r
termination_by d.length
decreasing_by
  have := length_of_next? _h
  simp only [headerLength] at this
  omega

structure Report where
  /-- Zero for an acknowledgement, else a negative error number. -/
  code : Int32
  request : Header
deriving DecidableEq, Repr

namespace Report

def length : Nat := 20

def read (d : Octets) : Except Error Report :=
  if d.length < length then .error (.truncated length d.length)
  else .ok ⟨Octets.i32At d 0, Header.readAt d 4⟩

def isAck (r : Report) : Bool := r.code == 0

/-- Nothing for an acknowledgement, else the kernel's error. -/
def result (r : Report) : Except Error Unit :=
  if r.isAck then .ok () else .error (.ofCode r.code)

end Report
end TrafficControl.Message
