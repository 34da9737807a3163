import Mathlib.Algebra.Group.Nat.Defs
import TrafficControl.Octets

/-!
# Numbers in a larger string

A number is read at an index, and nothing but its own octets counts. So what stands before it may be
dropped, and what stands behind it may be cut off. Reading what was written gives the number back,
modulo its width.
-/
namespace TrafficControl.Octets

theorem natLE_octetsLE (k n : Nat) : natLE (octetsLE k n) = n % 256 ^ k := by
  induction k generalizing n with
  | zero => simp [octetsLE, natLE, Nat.mod_one]
  | succ k ih =>
    rw [octetsLE, natLE, ih, Nat.pow_succ', Nat.mod_mul]
    simp

theorem ofNat_natLE_u16 (n : UInt16) : UInt16.ofNat (natLE (u16 n)) = n := by
  have h := n.toNat_lt
  rw [u16, natLE_octetsLE, Nat.mod_eq_of_lt (by simpa using h), UInt16.ofNat_toNat]

theorem ofNat_natLE_u32 (n : UInt32) : UInt32.ofNat (natLE (u32 n)) = n := by
  have h := n.toNat_lt
  rw [u32, natLE_octetsLE, Nat.mod_eq_of_lt (by simpa using h), UInt32.ofNat_toNat]

theorem drop_append_of_le {p d : Octets} {i : Nat} (h : p.length ≤ i) :
    (p ++ d).drop i = d.drop (i - p.length) := by
  rw [List.drop_append, List.drop_eq_nil_of_le h, List.nil_append]

theorem u16At_append_right {p d : Octets} {i : Nat} (h : p.length ≤ i) :
    u16At (p ++ d) i = u16At d (i - p.length) := by
  rw [u16At, drop_append_of_le h, u16At]

theorem u32At_append_right {p d : Octets} {i : Nat} (h : p.length ≤ i) :
    u32At (p ++ d) i = u32At d (i - p.length) := by
  rw [u32At, drop_append_of_le h, u32At]

theorem i32At_append_right {p d : Octets} {i : Nat} (h : p.length ≤ i) :
    i32At (p ++ d) i = i32At d (i - p.length) := by
  rw [i32At, u32At_append_right h, i32At]

theorem u16At_drop (d : Octets) (i : Nat) : u16At (d.drop i) 0 = u16At d i := by
  rw [u16At, List.drop_zero, u16At]

theorem u32At_drop (d : Octets) (i j : Nat) : u32At (d.drop i) j = u32At d (i + j) := by
  rw [u32At, List.drop_drop, u32At]

theorem u16At_u16_append (n : UInt16) (d : Octets) : u16At (u16 n ++ d) 0 = n := by
  rw [u16At, List.drop_zero, List.take_left' (length_u16 n), ofNat_natLE_u16]

theorem u16BEAt_u16BE_append (n : UInt16) (d : Octets) : u16BEAt (u16BE n ++ d) 0 = n := by
  rw [u16BEAt, List.drop_zero, List.take_left' (length_u16BE n), u16BE, List.reverse_reverse,
    ofNat_natLE_u16]

theorem u32At_u32_append (n : UInt32) (d : Octets) : u32At (u32 n ++ d) 0 = n := by
  rw [u32At, List.drop_zero, List.take_left' (length_u32 n), ofNat_natLE_u32]

theorem i32At_i32_append (n : Int32) (d : Octets) : i32At (i32 n ++ d) 0 = n := by
  rw [i32At, i32, u32At_u32_append, Int32.toInt32_toUInt32]

theorem u16At_u16 (n : UInt16) : u16At (u16 n) 0 = n := by
  rw [← List.append_nil (u16 n), u16At_u16_append]

theorem u16BEAt_u16BE (n : UInt16) : u16BEAt (u16BE n) 0 = n := by
  rw [← List.append_nil (u16BE n), u16BEAt_u16BE_append]

theorem u32At_u32 (n : UInt32) : u32At (u32 n) 0 = n := by
  rw [← List.append_nil (u32 n), u32At_u32_append]

theorem i32At_i32 (n : Int32) : i32At (i32 n) 0 = n := by
  rw [← List.append_nil (i32 n), i32At_i32_append]

theorem take_drop_take {n i k : Nat} (d : Octets) (h : i + k ≤ n) :
    ((d.take n).drop i).take k = (d.drop i).take k := by
  rw [List.drop_take, List.take_take, Nat.min_eq_left (by omega)]

theorem u16At_take {n i : Nat} (d : Octets) (h : i + 2 ≤ n) : u16At (d.take n) i = u16At d i := by
  rw [u16At, take_drop_take d h, u16At]

theorem u32At_take {n i : Nat} (d : Octets) (h : i + 4 ≤ n) : u32At (d.take n) i = u32At d i := by
  rw [u32At, take_drop_take d h, u32At]

theorem u16At_append_left {d : Octets} {i : Nat} (e : Octets) (h : i + 2 ≤ d.length) :
    u16At (d ++ e) i = u16At d i := by
  rw [← u16At_take (d ++ e) h, List.take_left]

end TrafficControl.Octets
