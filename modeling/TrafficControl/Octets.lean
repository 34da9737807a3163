/-!
# Octet strings

Octet strings, the numbers of fixed width written in them, and the rounding up to whole words of
four octets that every length obeys. Numbers are read and written through `Nat`, lowest octet
first.
-/
namespace TrafficControl

abbrev Octets := List UInt8

/-- The least multiple of four that is at least `n`. -/
def align (n : Nat) : Nat := (n + 3) / 4 * 4

theorem le_align (n : Nat) : n ≤ align n := by
  unfold align; omega

theorem align_lt (n : Nat) : align n < n + 4 := by
  unfold align; omega

@[simp] theorem align_mod_four (n : Nat) : align n % 4 = 0 := by
  unfold align; omega

theorem align_eq_self {n : Nat} (h : n % 4 = 0) : align n = n := by
  unfold align; omega

theorem align_le_of_le {n m : Nat} (h : n ≤ m) (hm : m % 4 = 0) : align n ≤ m := by
  unfold align; omega

theorem align_add {m : Nat} (n : Nat) (h : m % 4 = 0) : align (m + n) = m + align n := by
  unfold align; omega

namespace Octets

/-- The number that `d` writes, lowest octet first. -/
def natLE : Octets → Nat
  | [] => 0
  | b :: d => b.toNat + 256 * natLE d

def octetsLE : Nat → Nat → Octets
  | 0, _ => []
  | k + 1, n => UInt8.ofNat n :: octetsLE k (n / 256)

@[simp] theorem length_octetsLE (k n : Nat) : (octetsLE k n).length = k := by
  induction k generalizing n with
  | zero => rfl
  | succ k ih => simp [octetsLE, ih]

/-- Whether `d` has at least `n` octets. Looks at no more than `n` of them. -/
def hasAtLeast : Nat → Octets → Bool
  | 0, _ => true
  | _ + 1, [] => false
  | n + 1, _ :: d => hasAtLeast n d

@[simp] theorem hasAtLeast_iff {n : Nat} {d : Octets} : hasAtLeast n d ↔ n ≤ d.length := by
  induction n generalizing d with
  | zero => simp [hasAtLeast]
  | succ n ih => cases d <;> simp [hasAtLeast, ih]

theorem hasAtLeast_eq_false_iff {n : Nat} {d : Octets} :
    hasAtLeast n d = false ↔ d.length < n := by
  rw [← Bool.not_eq_true, hasAtLeast_iff, Nat.not_le]

def u16 (n : UInt16) : Octets := octetsLE 2 n.toNat

def u16BE (n : UInt16) : Octets := (u16 n).reverse

def u32 (n : UInt32) : Octets := octetsLE 4 n.toNat

/-- A signed 32-bit number in two's complement, lowest octet first. -/
def i32 (n : Int32) : Octets := u32 n.toUInt32

def u16At (d : Octets) (i : Nat) : UInt16 := UInt16.ofNat (natLE ((d.drop i).take 2))

def u16BEAt (d : Octets) (i : Nat) : UInt16 := UInt16.ofNat (natLE ((d.drop i).take 2).reverse)

def u32At (d : Octets) (i : Nat) : UInt32 := UInt32.ofNat (natLE ((d.drop i).take 4))

def u64At (d : Octets) (i : Nat) : UInt64 := UInt64.ofNat (natLE ((d.drop i).take 8))

def i32At (d : Octets) (i : Nat) : Int32 := (u32At d i).toInt32

@[simp] theorem length_u16 (n : UInt16) : (u16 n).length = 2 := length_octetsLE 2 _

@[simp] theorem length_u16BE (n : UInt16) : (u16BE n).length = 2 := by simp [u16BE]

@[simp] theorem length_u32 (n : UInt32) : (u32 n).length = 4 := length_octetsLE 4 _

@[simp] theorem length_i32 (n : Int32) : (i32 n).length = 4 := length_u32 _

/-- Fills `d` up with zeros to a whole number of words. -/
def pad (d : Octets) : Octets := d ++ List.replicate (align d.length - d.length) 0

@[simp] theorem length_pad (d : Octets) : (pad d).length = align d.length := by
  have h := le_align d.length
  simp only [pad, List.length_append, List.length_replicate]
  omega

theorem pad_eq_self {d : Octets} (h : d.length % 4 = 0) : pad d = d := by
  simp [pad, align_eq_self h]

/-- Replaces the two octets of `d` at index `i` by those of `n`. -/
def putU16 (d : Octets) (i : Nat) (n : UInt16) : Octets :=
  (d.set i (UInt8.ofNat n.toNat)).set (i + 1) (UInt8.ofNat (n.toNat / 256))

@[simp] theorem length_putU16 (d : Octets) (i : Nat) (n : UInt16) :
    (putU16 d i n).length = d.length := by
  simp [putU16]

end Octets
end TrafficControl
