import TrafficControl.Attr.Table
import TrafficControl.Message.Action
import TrafficControl.Proofs.AttrReaders

/-!
# Reading messages about actions

The reader of messages finds the same attributes as iteration does, whatever the octets are. So a
message about actions has what the last attributes of each type say: its table is the one that a table
of attributes would have, and its flags and its count are those of the last attributes that are long
enough for them.
-/
namespace TrafficControl.Message

/-- The payload of an attribute of the type with at least `n` octets. -/
def long? (type : UInt16) (n : Nat) (a : Attr) : Option Octets :=
  if a.type = type ∧ n ≤ a.payload.length then some a.payload else none

/-- The payload of the last attribute of the type with at least `n` octets. -/
def lastLong? (type : UInt16) (n : Nat) (as : List Attr) : Option Octets :=
  (as.reverse.find? fun a => a.type = type ∧ n ≤ a.payload.length).map (·.payload)

theorem lastLong?_cons (type : UInt16) (n : Nat) (a : Attr) (as : List Attr) :
    lastLong? type n (a :: as) = (lastLong? type n as).or (long? type n a) := by
  unfold lastLong? long?
  rw [List.reverse_cons, List.find?_append, Option.map_or]
  congr 1
  split
  case isTrue h => simp [h]
  case isFalse h => simp [h]

theorem lastLong?_zero (type : UInt16) (as : List Attr) :
    lastLong? type 0 as = Table.last? type.toNat as := by
  unfold lastLong? Table.last?
  congr 2
  funext a
  simp [UInt16.toNat_inj]

namespace ActionMessage

def flagsOf (d : Octets) : UInt32 × UInt32 := (Octets.u32At d 0, Octets.u32At d 4)

def countOf (d : Octets) : UInt32 := Octets.u32At d 0

/-- An attribute that says something replaces what was said before. -/
theorem put_eq (m : ActionMessage) (a : Attr) :
    m.put a =
      { family := m.family
        table := (long? tableType 0 a).or m.table
        rootFlags := ((long? rootFlagsType 8 a).map flagsOf).or m.rootFlags
        rootCount := ((long? rootCountType 4 a).map countOf).or m.rootCount } := by
  have h₁ : tableType ≠ rootFlagsType := by decide
  have h₂ : tableType ≠ rootCountType := by decide
  have h₃ : rootFlagsType ≠ rootCountType := by decide
  unfold put long?
  split
  case isTrue ht => simp [ht, h₁, h₂]
  split
  case isTrue ht hf => simp [hf, h₁.symm, h₃, flagsOf]
  split
  case isTrue ht hf hc => simp [hc, h₂.symm, countOf]
  case isFalse ht hf hc => simp [ht]

theorem foldl_put (m : ActionMessage) (as : List Attr) :
    as.foldl put m =
      { family := m.family
        table := (lastLong? tableType 0 as).or m.table
        rootFlags := ((lastLong? rootFlagsType 8 as).map flagsOf).or m.rootFlags
        rootCount := ((lastLong? rootCountType 4 as).map countOf).or m.rootCount } := by
  induction as generalizing m with
  | nil => rfl
  | cons a as ih =>
      rw [List.foldl_cons, ih, put_eq]
      simp only [lastLong?_cons, Option.map_or, Option.or_assoc]

/-- Fewer octets than the fixed part has are no message. -/
theorem read_of_lt {d : Octets} (h : d.length < Family.length) :
    read d = .error (.parse (.reader .cut)) := by
  have hr : reader d = .error .cut d := by
    change (ite (d.length < Family.length) _ _ : Reader ActionMessage) d = _
    rw [if_pos h]
    rfl
  rw [read, hr]

/-- The fixed part comes first, and all behind it is attributes. -/
theorem read_of_le {d : Octets} (h : 4 ≤ d.length) :
    read d = .ok ((Attr.list (d.drop 4)).foldl put
      { family := ⟨d[0], d[1], Octets.u16At d 2⟩ }) := by
  match d, h with
  | family :: pad1 :: a :: b :: d, h =>
      have hr : reader (family :: pad1 :: a :: b :: d) =
          .ok ((Attr.list d).foldl put { family := ⟨family, pad1, Octets.u16At [a, b] 0⟩ })
            (Reader.readAttrs d).2 := by
        rw [← Reader.readAttrs_eq_list]
        rfl
      rw [read, hr]
      rfl

/-- The two readers of attributes find the same, so a message has what the last attributes of each
type say. -/
theorem attrs_eq_list_and_read_eq (d : Octets) (n : Nat) :
    (∃ left, Reader.attrs d = .ok (Attr.list d) left) ∧
    read d =
      if h : d.length < 4 then .error (.parse (.reader .cut))
      else .ok
        { family := ⟨d[0], d[1], Octets.u16At d 2⟩
          table := (Table.read (n + 2) (d.drop 4)).get 1
          rootFlags := (lastLong? rootFlagsType 8 (Attr.list (d.drop 4))).map fun p =>
            (Octets.u32At p 0, Octets.u32At p 4)
          rootCount := (lastLong? rootCountType 4 (Attr.list (d.drop 4))).map fun p =>
            Octets.u32At p 0 } := by
  refine ⟨⟨(Reader.readAttrs d).2, ?_⟩, ?_⟩
  · rw [← Reader.readAttrs_eq_list]
    rfl
  split
  case isTrue h => exact read_of_lt h
  case isFalse h =>
    have htable : (Table.read (n + 2) (d.drop 4)).get 1 =
        lastLong? tableType 0 (Attr.list (d.drop 4)) := by
      rw [Table.get_read _ (by omega), lastLong?_zero]
      rfl
    rw [read_of_le (Nat.not_lt.mp h), foldl_put, htable]
    simp only [Option.or_none]
    rfl

end ActionMessage
end TrafficControl.Message
