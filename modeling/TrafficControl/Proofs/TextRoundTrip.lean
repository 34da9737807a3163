import TrafficControl.Attr.Value

/-!
# Round trips of texts

A text goes into an attribute as UTF-8 with a closing zero, and is read up to the first zero. No
octet of a character is zero, the zero character apart, so a text without that character comes back
whole, but for the cut that makes it fit.
-/
namespace TrafficControl

namespace Text

theorem length_flatMap_utf8EncodeChar (cs : List Char) :
    (cs.flatMap String.utf8EncodeChar).length = size cs := by
  induction cs with
  | nil => rfl
  | cons c cs ih =>
      rw [List.flatMap_cons, List.length_append, String.length_utf8EncodeChar, ih, size]

theorem length_octets (s : String) : (octets s).length = size s.toList :=
  length_flatMap_utf8EncodeChar s.toList

theorem toArray_octets (s : String) : (⟨(octets s).toArray⟩ : ByteArray) = s.toByteArray := by
  rw [← String.utf8Encode_toList, List.utf8Encode, octets]
  exact ByteArray.ext List.data_toByteArray.symm

theorem ofOctets_octets (s : String) : ofOctets (octets s) = .ok s := by
  have hs : String.fromUTF8? s.toByteArray = some s := by
    rw [String.fromUTF8?, dif_pos s.isValidUTF8]
    rfl
  rw [ofOctets, toArray_octets, hs]

/-- A text that was read from octets has these octets. -/
theorem octets_of_ofOctets {d : Octets} {s : String} (h : ofOctets d = .ok s) : octets s = d := by
  simp only [ofOctets, String.fromUTF8?] at h
  split at h
  case h_2 => cases h
  case h_1 t ht =>
    split at ht
    case isFalse => cases ht
    case isTrue hv =>
      cases h
      cases ht
      have := congrArg ByteArray.data (toArray_octets (String.fromUTF8 ⟨d.toArray⟩ hv))
      exact Array.toList_inj.mpr this

theorem zero_mem_octets {s : String} (h : '\x00' ∈ s.toList) : 0 ∈ octets s :=
  List.mem_flatMap.mpr ⟨_, h, by decide⟩

theorem ofNat_ne_zero {n : Nat} (h : n % 256 ≠ 0) : UInt8.ofNat n ≠ 0 := by
  intro hn
  have := congrArg UInt8.toNat hn
  simp at this
  exact h this

theorem zero_notMem_utf8EncodeChar {c : Char} (h : c ≠ '\x00') :
    0 ∉ String.utf8EncodeChar c := by
  have hv : c.val.toNat ≠ 0 := fun hv => h (Char.ext (UInt32.toNat_inj.mp hv))
  simp only [String.utf8EncodeChar]
  split
  · simp only [List.mem_singleton]
    exact (ofNat_ne_zero (by omega)).symm
  split
  · simp only [List.mem_cons, List.not_mem_nil, or_false, not_or]
    exact ⟨(ofNat_ne_zero (by omega)).symm, (ofNat_ne_zero (by omega)).symm⟩
  split
  · simp only [List.mem_cons, List.not_mem_nil, or_false, not_or]
    exact ⟨(ofNat_ne_zero (by omega)).symm, (ofNat_ne_zero (by omega)).symm,
      (ofNat_ne_zero (by omega)).symm⟩
  · simp only [List.mem_cons, List.not_mem_nil, or_false, not_or]
    exact ⟨(ofNat_ne_zero (by omega)).symm, (ofNat_ne_zero (by omega)).symm,
      (ofNat_ne_zero (by omega)).symm, (ofNat_ne_zero (by omega)).symm⟩

theorem zero_notMem_octets {s : String} (h : '\x00' ∉ s.toList) : 0 ∉ octets s := by
  intro h0
  obtain ⟨c, hc, h0⟩ := List.mem_flatMap.mp h0
  exact zero_notMem_utf8EncodeChar (fun he => h (he ▸ hc)) h0

theorem truncate_eq_self {s : String} {n : Nat} (h : size s.toList ≤ n) : truncate s n = s := by
  rw [truncate, takeOctets_eq_self h, String.ofList_toList]

end Text

namespace Attr

/-- `p` is what stands in `d` before the first zero octet, all of `d` if there is none. -/
def IsFront (p d : Octets) : Prop := 0 ∉ p ∧ (d = p ∨ ∃ tail, d = p ++ 0 :: tail)

theorem untilZero_of_isFront {p d : Octets} (h : IsFront p d) : untilZero d = p := by
  obtain ⟨h0, htail⟩ := h
  have hne (b : UInt8) (hb : b ∈ p) : (b != 0) = true := bne_iff_ne.mpr fun he => h0 (he ▸ hb)
  rcases htail with rfl | ⟨tail, rfl⟩
  · have happend : (d ++ []).takeWhile (· != 0) = d ++ [].takeWhile (· != 0) :=
      List.takeWhile_append_of_pos hne
    rwa [List.takeWhile_nil, List.append_nil] at happend
  · rw [untilZero, List.takeWhile_append_of_pos hne]
    simp

theorem untilZero_ofText {s : String} (h : '\x00' ∉ s.toList) :
    untilZero (ofText s) = Text.octets s :=
  untilZero_of_isFront ⟨Text.zero_notMem_octets h, .inr ⟨[], rfl⟩⟩

/-- A text without zeros is read back, cut as readers cut. -/
theorem toText_ofText {s : String} (h : '\x00' ∉ s.toList) (bound : Nat) :
    toText (ofText s) bound = .ok (Text.truncate s (bound - 1)) := by
  rw [toText, untilZero_ofText h, Text.ofOctets_octets]

/-- A text that was read has no zeros and fits into its bound with a closing one. -/
theorem zero_notMem_and_size_le_of_toText {d : Octets} {bound : Nat} {s : String}
    (h : toText d bound = .ok s) : '\x00' ∉ s.toList ∧ Text.size s.toList ≤ bound - 1 := by
  rw [toText] at h
  split at h
  case h_2 => cases h
  case h_1 t ht =>
    cases h
    rw [Text.truncate, String.toList_ofList]
    refine ⟨fun h0 => ?_, Text.size_takeOctets_le ..⟩
    have hmem := Text.zero_mem_octets ((Text.takeOctets_isPrefix ..).subset h0)
    rw [Text.octets_of_ofOctets ht, untilZero] at hmem
    simpa using List.all_eq_true.mp List.all_takeWhile 0 hmem

end Attr
end TrafficControl
