import TrafficControl.Proofs.NumbersAt
import TrafficControl.Reader

/-!
# The two readers of attributes

Attributes are read in two ways: by iteration over octets, and step by step by a reader that serves
the payload of a message. Both find the same attributes. They part only behind the last one, where
iteration takes an incomplete filling for the end and the reader leaves it.
-/
namespace TrafficControl.Reader

theorem take_of_le {n : Nat} {d : Octets} (h : n ≤ d.length) :
    take n d = .ok (d.take n) (d.drop n) := by
  rw [take, if_pos (Octets.hasAtLeast_iff.mpr h)]

theorem take_of_lt {n : Nat} {d : Octets} (h : d.length < n) : take n d = .error .backtrack d := by
  rw [take, Octets.hasAtLeast_eq_false_iff.mpr h]
  rfl

theorem u16_of_le {d : Octets} (h : 2 ≤ d.length) :
    u16 d = .ok (Octets.u16At d 0) (d.drop 2) := by
  simp only [u16, bind, EStateM.bind, take_of_le h, pure, EStateM.pure, Octets.u16At,
    List.drop_zero, List.take_take, Nat.min_self]

/-- What the reader leaves behind an attribute: what iteration leaves, or an incomplete filling. -/
theorem filling_drop (n : Nat) (d : Octets) :
    ∃ r, filling n (d.drop n) = .ok () r ∧
      (r = d.drop (align n) ∨ d.drop (align n) = [] ∧ r.length < 4) := by
  have hle := le_align n
  have hlt := align_lt n
  by_cases h : align n - n ≤ (d.drop n).length
  · refine ⟨_, rfl, .inl ?_⟩
    rw [if_pos (Octets.hasAtLeast_iff.mpr h), List.drop_drop]
    congr 1
    omega
  · refine ⟨_, rfl, .inr ⟨List.drop_eq_nil_of_le ?_, ?_⟩⟩
    · rw [List.length_drop] at h
      omega
    · rw [if_neg (by rwa [Octets.hasAtLeast_iff])]
      omega

section Header

variable {d : Octets} (h : Attr.headerLength ≤ d.length)

include h

theorem u16_header : u16 d = .ok (Octets.u16At d 0) (d.drop 2) :=
  u16_of_le (by rw [Attr.headerLength] at h; omega)

theorem u16_drop_header : u16 (d.drop 2) = .ok (Octets.u16At d 2) (d.drop Attr.headerLength) := by
  rw [Attr.headerLength] at h
  have hd : 2 ≤ (d.drop 2).length := by
    rw [List.length_drop]
    omega
  rw [u16_of_le hd, Octets.u16At_drop, List.drop_drop, Attr.headerLength]

/-- A length below the header's own is a failure for good. -/
theorem attr_of_length_lt (hn : (Octets.u16At d 0).toNat < Attr.headerLength) :
    attr d = .error .cut (d.drop Attr.headerLength) := by
  simp only [attr, bind, EStateM.bind, u16_header h, u16_drop_header h]
  rw [if_pos hn]
  rfl

theorem attr_of_le_length (hn : Attr.headerLength ≤ (Octets.u16At d 0).toNat) :
    attr d = (take ((Octets.u16At d 0).toNat - Attr.headerLength) >>= fun p =>
      filling (Octets.u16At d 0).toNat >>= fun _ =>
        pure ⟨Octets.u16At d 2 &&& Attr.typeMask, p⟩) (d.drop Attr.headerLength) := by
  simp only [attr, bind, EStateM.bind, u16_header h, u16_drop_header h]
  rw [if_neg (Nat.not_lt.mpr hn)]
  rfl

end Header

theorem attr_of_next?_eq_some {d r : Octets} {a : Attr} (h : Attr.next? d = some (a, r)) :
    ∃ r', attr d = .ok a r' ∧ (r' = r ∨ r = [] ∧ r'.length < 4) := by
  simp only [Attr.next?, Octets.hasAtLeast_iff] at h
  split at h
  case isFalse => simp at h
  case isTrue hn =>
    obtain ⟨hn, hd⟩ := hn
    simp only [Option.some.injEq, Prod.mk.injEq] at h
    obtain ⟨rfl, rfl⟩ := h
    have ht : take ((Octets.u16At d 0).toNat - Attr.headerLength) (d.drop Attr.headerLength) =
        .ok ((d.take (Octets.u16At d 0).toNat).drop Attr.headerLength)
          (d.drop (Octets.u16At d 0).toNat) := by
      rw [take_of_le (by rw [List.length_drop]; omega), List.drop_take, List.drop_drop,
        Nat.add_sub_cancel' hn]
    obtain ⟨r', hf, hr⟩ := filling_drop (Octets.u16At d 0).toNat d
    refine ⟨r', ?_, hr⟩
    rw [attr_of_le_length (Nat.le_trans hn hd) hn]
    simp only [bind, EStateM.bind, ht, hf]
    rfl

theorem attr_of_next?_eq_none {d : Octets} (hd : Attr.headerLength ≤ d.length)
    (h : Attr.next? d = none) : ∃ e r, attr d = .error e r := by
  by_cases hn : (Octets.u16At d 0).toNat < Attr.headerLength
  · exact ⟨_, _, attr_of_length_lt hd hn⟩
  · rw [Nat.not_lt] at hn
    have hlt : d.length < (Octets.u16At d 0).toNat := by
      simp only [Attr.next?, Octets.hasAtLeast_iff] at h
      split at h
      case isTrue => simp at h
      case isFalse hc => exact Nat.not_le.mp (fun hle => hc ⟨hn, hle⟩)
    refine ⟨.backtrack, d.drop Attr.headerLength, ?_⟩
    rw [attr_of_le_length hd hn]
    simp only [bind, EStateM.bind]
    rw [take_of_lt (by rw [List.length_drop]; omega)]

theorem readAttrs_of_length_lt {d : Octets} (h : d.length < Attr.headerLength) :
    readAttrs d = ([], d) := by
  rw [readAttrs, Octets.hasAtLeast_eq_false_iff.mpr h]
  rfl

theorem readAttrs_of_error {d r : Octets} {e : ReadFault} (hd : Attr.headerLength ≤ d.length)
    (h : attr d = .error e r) : readAttrs d = ([], r) := by
  rw [readAttrs, if_neg (by rw [Octets.hasAtLeast_iff.mpr hd]; decide)]
  split <;> simp_all

theorem readAttrs_of_ok {d r : Octets} {a : Attr} (h : attr d = .ok a r) :
    readAttrs d = (a :: (readAttrs r).1, (readAttrs r).2) := by
  have hd : Attr.headerLength ≤ d.length := Nat.le_of_add_left_le (length_of_attr h)
  rw [readAttrs, if_neg (by rw [Octets.hasAtLeast_iff.mpr hd]; decide)]
  split <;> simp_all

theorem readAttrs_eq_list (d : Octets) : (readAttrs d).1 = Attr.list d := by
  fun_induction Attr.list d with
  | case1 d h =>
      by_cases hd : d.length < Attr.headerLength
      · rw [readAttrs_of_length_lt hd]
      · obtain ⟨e, r, ha⟩ := attr_of_next?_eq_none (Nat.not_lt.mp hd) h
        rw [readAttrs_of_error (Nat.not_lt.mp hd) ha]
  | case2 d a r h ih =>
      obtain ⟨r', ha, hr⟩ := attr_of_next?_eq_some h
      rw [readAttrs_of_ok ha]
      rcases hr with rfl | ⟨rfl, hr⟩
      · rw [ih]
      · rw [readAttrs_of_length_lt hr, ← ih, readAttrs_of_length_lt (by decide)]

end TrafficControl.Reader
