import TrafficControl.Attr.Basic

/-!
# Values of attributes

Numbers and texts read from payloads. A number is read from the front and ignores what follows
it; a text ends at the first zero octet.
-/
namespace TrafficControl.Attr

def toU8 : Octets → Except Error UInt8
  | [] => .error (.invalidAttr .empty8)
  | b :: _ => .ok b

def toU16 (d : Octets) : Except Error UInt16 :=
  if d.length < 2 then .error (.invalidAttr .short16) else .ok (Octets.u16At d 0)

def toU32 (d : Octets) : Except Error UInt32 :=
  if d.length < 4 then .error (.invalidAttr .short32) else .ok (Octets.u32At d 0)

def toU16BE (d : Octets) : Except Error UInt16 :=
  if d.length < 2 then .error (.invalidAttr .short16) else .ok (Octets.u16BEAt d 0)

def untilZero (d : Octets) : Octets := d.takeWhile (· != 0)

/-- The text before the first zero octet, cut between two characters so that it and a closing
zero fit into `bound` octets. -/
def toText (d : Octets) (bound : Nat) : Except Error String :=
  match Text.ofOctets (untilZero d) with
  | .ok s => .ok (Text.truncate s (bound - 1))
  | .error fault => .error (.invalidAttr (.notUtf8 fault))

/-- The payload of a text: its octets and a closing zero. -/
def ofText (s : String) : Octets := Text.octets s ++ [0]

end TrafficControl.Attr
