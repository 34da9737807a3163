import TrafficControl.Error

/-!
# Attributes

An attribute is a length, a type and a payload; it begins at a whole word and is filled up to one.
The length counts the header and the payload, not the filling. Attributes are read one by one from
the front of an octet string until a header that cannot be right. Main statements: each attribute
takes at least four octets (`length_of_next?`), so reading ends, and what reading leaves behind
begins with no attribute (`next?_leftover`).
-/
namespace TrafficControl

/-- An attribute as read: its type without the flags, and its payload. -/
structure Attr where
  type : UInt16
  payload : Octets
deriving DecidableEq, Repr

namespace Attr

/-- Flag of a type whose payload holds attributes. -/
def nestedFlag : UInt16 := 0x8000

/-- Flag of a type whose payload is in network order. -/
def netOrderFlag : UInt16 := 0x4000

def typeMask : UInt16 := ~~~(nestedFlag ||| netOrderFlag)

def headerLength : Nat := 4

/-- The longest attribute with its header. -/
def maxLength : Nat := 65535

structure Header where
  length : UInt16
  type : UInt16
deriving DecidableEq, Repr

namespace Header

/-- The header of an attribute with `n` octets of payload; the length wraps. -/
def ofPayload (type : UInt16) (n : Nat) : Header := ⟨UInt16.ofNat (headerLength + n), type⟩

def kind (h : Header) : UInt16 := h.type &&& typeMask

/-- Octets of the payload, none when the length does not even cover the header. -/
def payloadLength (h : Header) : Nat := h.length.toNat - headerLength

def octets (h : Header) : Octets := Octets.u16 h.length ++ Octets.u16 h.type

@[simp] theorem length_octets (h : Header) : h.octets.length = 4 := by simp [octets]

def read (d : Octets) : Except Error Header :=
  if d.length < headerLength then .error (.truncated headerLength d.length)
  else .ok ⟨Octets.u16At d 0, Octets.u16At d 2⟩

end Header

/-- The attribute at the front of `d` and what comes after it and its filling. There is none when
the length in its header is below the header's own or beyond the octets there are. -/
def next? (d : Octets) : Option (Attr × Octets) :=
  let n := (Octets.u16At d 0).toNat
  if headerLength ≤ n ∧ Octets.hasAtLeast n d then
    some (⟨Octets.u16At d 2 &&& typeMask, (d.take n).drop headerLength⟩, d.drop (align n))
  else none

theorem length_of_next? {d r : Octets} {a : Attr} (h : next? d = some (a, r)) :
    r.length + headerLength ≤ d.length := by
  simp only [next?] at h
  split at h
  · rename_i hn
    rw [Octets.hasAtLeast_iff] at hn
    have := le_align (Octets.u16At d 0).toNat
    simp only [Option.some.injEq, Prod.mk.injEq] at h
    rw [← h.2, List.length_drop]
    omega
  · simp at h

theorem next?_of_length_lt {d : Octets} (h : d.length < headerLength) : next? d = none := by
  simp only [next?]
  rw [if_neg (by rw [Octets.hasAtLeast_iff]; omega)]

def list (d : Octets) : List Attr :=
  match _h : next? d with
  | none => []
  | some (a, r) => a :: list r
termination_by d.length
decreasing_by
  have := length_of_next? _h
  simp only [headerLength] at this
  omega

def leftover (d : Octets) : Octets :=
  match _h : next? d with
  | none => d
  | some (_, r) => leftover r
termination_by d.length
decreasing_by
  have := length_of_next? _h
  simp only [headerLength] at this
  omega

theorem list_of_next?_eq_none {d : Octets} (h : next? d = none) : list d = [] := by
  rw [list]; split <;> simp_all

theorem list_of_next?_eq_some {d r : Octets} {a : Attr} (h : next? d = some (a, r)) :
    list d = a :: list r := by
  rw [list]; split <;> simp_all

theorem leftover_of_next?_eq_none {d : Octets} (h : next? d = none) : leftover d = d := by
  rw [leftover]; split <;> simp_all

theorem leftover_of_next?_eq_some {d r : Octets} {a : Attr} (h : next? d = some (a, r)) :
    leftover d = leftover r := by
  rw [leftover]; split <;> simp_all

/-- What is left begins with no attribute, so asking again changes nothing. -/
theorem next?_leftover (d : Octets) : next? (leftover d) = none := by
  fun_induction leftover d with
  | case1 d h => exact h
  | case2 d a r h ih => exact ih

def isExhausted (d : Octets) : Bool := !Octets.hasAtLeast headerLength d

theorem isExhausted_iff {d : Octets} : isExhausted d ↔ d.length < headerLength := by
  simp [isExhausted, Octets.hasAtLeast_eq_false_iff]

end Attr
end TrafficControl
