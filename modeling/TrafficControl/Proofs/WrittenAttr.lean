import TrafficControl.Attr.Basic
import TrafficControl.Proofs.NumbersAt

/-!
# The written form of an attribute

An attribute is written as its header, its payload and the filling up to a whole word. Iteration
over octets that begin with a written attribute yields this attribute and goes on right behind its
filling, whatever comes there. The payload comes back as it was; the type comes back without its
flags, so a type below `2 ^ 14` comes back as it was too.
-/
namespace TrafficControl

namespace Octets

theorem pad_append {d e : Octets} (h : d.length % 4 = 0) : pad (d ++ e) = d ++ pad e := by
  have hl := align_add e.length h
  simp only [pad, List.length_append, hl, List.append_assoc]
  congr 3
  omega

@[simp] theorem pad_pad (d : Octets) : pad (pad d) = pad d :=
  pad_eq_self (by rw [length_pad, align_mod_four])

end Octets

namespace Attr

/-- A type below this bound has no flag. -/
def typeBound : Nat := 2 ^ 14

theorem and_typeMask {t : UInt16} (h : t.toNat < typeBound) : t &&& typeMask = t := by
  apply UInt16.toNat_inj.mp
  rw [UInt16.toNat_and, show typeMask.toNat = 2 ^ 14 - 1 from rfl, Nat.and_two_pow_sub_one_eq_mod]
  exact Nat.mod_eq_of_lt h

theorem or_nestedFlag_and_typeMask (t : UInt16) :
    (t ||| nestedFlag) &&& typeMask = t &&& typeMask := by
  apply UInt16.toBitVec_inj.mp
  have h : nestedFlag.toBitVec &&& typeMask.toBitVec = 0#16 := rfl
  rw [UInt16.toBitVec_and, UInt16.toBitVec_or, BitVec.and_or_distrib_right, h, BitVec.or_zero,
    UInt16.toBitVec_and]

/-- The written form of an attribute, its filling included. -/
def written (type : UInt16) (d : Octets) : Octets :=
  Octets.pad ((Header.ofPayload type d.length).octets ++ d)

theorem length_written (t : UInt16) (d : Octets) :
    (written t d).length = align (headerLength + d.length) := by
  simp [written, headerLength]

theorem length_written_mod_four (t : UInt16) (d : Octets) : (written t d).length % 4 = 0 := by
  rw [length_written, align_mod_four]

/-- A payload of whole words needs no filling. -/
theorem written_of_aligned {d : Octets} (t : UInt16) (h : d.length % 4 = 0) :
    written t d = (Header.ofPayload t d.length).octets ++ d :=
  Octets.pad_eq_self (by simp; omega)

theorem length_written_of_aligned {d : Octets} (t : UInt16) (h : d.length % 4 = 0) :
    (written t d).length = headerLength + d.length := by
  rw [length_written, align_add _ (by rfl), align_eq_self h]

theorem next?_written_append (t : UInt16) (d r : Octets)
    (h : headerLength + d.length ≤ maxLength) :
    next? (written t d ++ r) = some (⟨t &&& typeMask, d⟩, r) := by
  have hn : (UInt16.ofNat (headerLength + d.length)).toNat = headerLength + d.length :=
    UInt16.toNat_ofNat_of_lt' (by simp only [maxLength, headerLength, UInt16.size] at *; omega)
  have hlen : (Octets.u16At (written t d ++ r) 0).toNat = headerLength + d.length := by
    simp only [written, Octets.pad, Header.ofPayload, Header.octets, List.append_assoc]
    rw [Octets.u16At_u16_append, hn]
  have htype : Octets.u16At (written t d ++ r) 2 = t := by
    simp only [written, Octets.pad, Header.ofPayload, Header.octets, List.append_assoc]
    rw [Octets.u16At_append_right (by simp), Octets.length_u16, Octets.u16At_u16_append]
  have hle := le_align (headerLength + d.length)
  have htake : (written t d ++ r).take (headerLength + d.length) =
      (Header.ofPayload t d.length).octets ++ d := by
    simp only [written, Octets.pad, List.append_assoc]
    rw [← List.append_assoc]
    exact List.take_left' (by simp [headerLength])
  have hdrop : (written t d ++ r).drop (align (headerLength + d.length)) = r :=
    List.drop_left' (length_written t d)
  simp only [next?, hlen, htype, htake, hdrop]
  rw [if_pos]
  · rw [headerLength, List.drop_left' (Header.length_octets _)]
  · simp only [Octets.hasAtLeast_iff, List.length_append, length_written]
    omega

theorem list_written_append {t : UInt16} {d : Octets} (r : Octets)
    (h : headerLength + d.length ≤ maxLength) :
    list (written t d ++ r) = ⟨t &&& typeMask, d⟩ :: list r :=
  list_of_next?_eq_some (next?_written_append t d r h)

theorem leftover_written_append {t : UInt16} {d : Octets} (r : Octets)
    (h : headerLength + d.length ≤ maxLength) :
    leftover (written t d ++ r) = leftover r :=
  leftover_of_next?_eq_some (next?_written_append t d r h)

@[simp] theorem list_nil : list [] = [] := list_of_next?_eq_none (next?_of_length_lt (by decide))

@[simp] theorem leftover_nil : leftover [] = [] :=
  leftover_of_next?_eq_none (next?_of_length_lt (by decide))

end Attr
end TrafficControl
