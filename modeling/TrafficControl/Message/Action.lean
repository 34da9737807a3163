import TrafficControl.Message.Basic
import TrafficControl.Reader

/-!
# Messages about actions

The payload of a message about actions: a fixed part that names the address family, and attributes,
of which the last of each type counts. The table of actions stays as it is here.
-/
namespace TrafficControl.Message

/-- The fixed part of a message about actions. -/
structure Family where
  family : UInt8
  pad1 : UInt8
  pad2 : UInt16
deriving DecidableEq, Repr

namespace Family

def length : Nat := 4

def of (family : UInt8) : Family := ⟨family, 0, 0⟩

def unspecified : Family := of 0

def octets (h : Family) : Octets := [h.family, h.pad1] ++ Octets.u16 h.pad2

@[simp] theorem length_octets (h : Family) : h.octets.length = length := by
  simp [octets, length]

def read : Octets → Except Error Family
  | family :: pad1 :: a :: b :: _ => .ok ⟨family, pad1, Octets.u16At [a, b] 0⟩
  | d => .error (.truncated length d.length)

end Family

def tableType : UInt16 := 1

/-- Type of the flags of a dump, with the selection of those that count. -/
def rootFlagsType : UInt16 := 2

def rootCountType : UInt16 := 3

structure ActionMessage where
  family : Family
  table : Option Octets := none
  /-- Flags of a dump and the selection of those that count. -/
  rootFlags : Option (UInt32 × UInt32) := none
  rootCount : Option UInt32 := none
deriving DecidableEq, Repr

namespace ActionMessage

/-- The message with what an attribute says. Attributes of other types, and flags and counts that
are too short, say nothing. -/
def put (m : ActionMessage) (a : Attr) : ActionMessage :=
  if a.type = tableType then { m with table := some a.payload }
  else if a.type = rootFlagsType ∧ 8 ≤ a.payload.length then
    { m with rootFlags := some (Octets.u32At a.payload 0, Octets.u32At a.payload 4) }
  else if a.type = rootCountType ∧ 4 ≤ a.payload.length then
    { m with rootCount := some (Octets.u32At a.payload 0) }
  else m

def reader : Reader ActionMessage := do
  if (← get).length < Family.length then Reader.cut
  let d ← Reader.take Family.length
  match Family.read d with
  | .error _ => Reader.cut
  | .ok family =>
    let attrs ← Reader.attrs
    return attrs.foldl put { family }

def read (d : Octets) : Except Error ActionMessage :=
  match reader d with
  | .ok m _ => .ok m
  | .error fault _ => .error (.parse (.reader fault))

end ActionMessage
end TrafficControl.Message
