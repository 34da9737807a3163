import TrafficControl.Proofs.Guarded.Text

/-!
# Bounded texts

A text is cut to the longest beginning that ends between two characters and has no more octets than
the bound. No character has more than four octets, so at most three more than needed are lost, and
going back from the bound finds that end. Of two cuts only the tighter one counts.

A text is read from the octets before the first zero. It is read exactly when these are UTF-8, it is
cut so that a closing zero fits too, and nothing behind the first zero counts.
-/
namespace TrafficControl

namespace Text

/-- The octets are those of a text. -/
def IsUtf8 (d : Octets) : Prop := ∃ s, octets s = d

/-- `t` is the longest beginning of `s` that ends between two characters and has at most `n`
octets. -/
structure IsLongestCut (s : String) (n : Nat) (t : String) : Prop where
  isPrefix : ∃ rest, s = t ++ rest
  isBoundary : isBoundary (octets s) (octets t).length
  length_le : (octets t).length ≤ n
  longest {k : Nat} (hb : Text.isBoundary (octets s) k) (hk : k ≤ n) : k ≤ (octets t).length

theorem le_length_of_isBoundary {d : Octets} {k : Nat} (h : isBoundary d k) : k ≤ d.length := by
  refine Nat.le_of_not_lt fun hlt => ?_
  have hnone : d[k]? = none := List.getElem?_eq_none (Nat.le_of_lt hlt)
  rw [isBoundary, hnone] at h
  simp at h
  omega

theorem length_octets_ofList (cs : List Char) : (octets (String.ofList cs)).length = size cs := by
  rw [length_octets, String.toList_ofList]

theorem isLongestCut_self {s : String} {n : Nat} (h : size s.toList ≤ n) : IsLongestCut s n s where
  isPrefix := ⟨"", (String.append_empty).symm⟩
  isBoundary := by simp [Text.isBoundary]
  length_le := by rwa [length_octets]
  longest hb _ := le_length_of_isBoundary hb

theorem isLongestCut_of_lt {s : String} {n : Nat} {pre post : List Char} {c : Char}
    (hs : s.toList = pre ++ c :: post) (hle : size pre ≤ n) (hlt : n < size pre + c.utf8Size) :
    IsLongestCut s n (String.ofList pre) where
  isPrefix := ⟨String.ofList (c :: post), by
    rw [← String.ofList_append, ← hs, String.ofList_toList]⟩
  isBoundary := by
    rw [length_octets_ofList, octets, hs]
    exact isBoundary_size pre (c :: post)
  length_le := by rwa [length_octets_ofList]
  longest {k} hb hk := by
    rw [length_octets_ofList]
    refine Nat.le_of_not_lt fun hlt' => ?_
    rw [octets, hs, not_isBoundary_of_lt pre post c (by omega) (by omega)] at hb
    cases hb

theorem isLongestCut_truncate (s : String) (n : Nat) : IsLongestCut s n (truncate s n) := by
  rcases truncate_cases s n with ⟨hs, ht⟩ | ⟨pre, c, post, hs, ht, hle, hlt⟩
  · rw [ht]
    exact isLongestCut_self hs
  · rw [ht]
    exact isLongestCut_of_lt hs hle hlt

theorem octets_append (s t : String) : octets (s ++ t) = octets s ++ octets t := by
  rw [octets, String.toList_append, List.flatMap_append, octets, octets]

theorem octets_injective {s t : String} (h : octets s = octets t) : s = t := by
  have hs := ofOctets_octets s
  rw [h, ofOctets_octets] at hs
  exact (Except.ok.inj hs).symm

/-- A longest cut has the octets of the text up to its own length. -/
theorem IsLongestCut.octets_eq {s t : String} {n : Nat} (h : IsLongestCut s n t) :
    octets t = (octets s).take (octets t).length := by
  obtain ⟨rest, hs⟩ := h.isPrefix
  rw [hs, octets_append, List.take_left]

theorem isLongestCut_iff {s t : String} {n : Nat} : IsLongestCut s n t ↔ t = truncate s n := by
  constructor
  · intro ht
    have hcut := isLongestCut_truncate s n
    have hlength : (octets t).length = (octets (truncate s n)).length :=
      Nat.le_antisymm (hcut.longest ht.isBoundary ht.length_le)
        (ht.longest hcut.isBoundary hcut.length_le)
    exact octets_injective (by rw [ht.octets_eq, hlength, ← hcut.octets_eq])
  · rintro rfl
    exact isLongestCut_truncate s n

/-- No more than three octets are lost that the bound has room for. -/
theorem le_length_truncate_add_three (s : String) (n : Nat) :
    min n (octets s).length ≤ (octets (truncate s n)).length + 3 := by
  rcases truncate_cases s n with ⟨hs, ht⟩ | ⟨pre, c, post, hs, ht, hle, hlt⟩
  · rw [ht]
    omega
  · have := c.utf8Size_le_four
    rw [ht, length_octets_ofList]
    omega

end Text

namespace Attr

theorem exists_isFront (d : Octets) : ∃ p, IsFront p d := by
  by_cases h : 0 ∈ d
  · obtain ⟨p, tail, hd, hp⟩ := List.eq_append_cons_of_mem h
    exact ⟨p, hp, .inr ⟨tail, hd⟩⟩
  · exact ⟨d, h, .inl rfl⟩

theorem toText_of_octets {d : Octets} {s : String} (h : IsFront (Text.octets s) d) (bound : Nat) :
    toText d bound = .ok (Text.truncate s (bound - 1)) := by
  rw [toText, untilZero_of_isFront h, Text.ofOctets_octets]

theorem exists_toText_eq_ok_iff {p d : Octets} (h : IsFront p d) (bound : Nat) :
    (∃ s, toText d bound = .ok s) ↔ Text.IsUtf8 p := by
  constructor
  · intro hex
    obtain ⟨s, hs⟩ := hex
    rw [toText, untilZero_of_isFront h] at hs
    cases ht : Text.ofOctets p with
    | error fault =>
        rw [ht] at hs
        cases hs
    | ok t => exact ⟨t, Text.octets_of_ofOctets ht⟩
  · intro hex
    obtain ⟨s, rfl⟩ := hex
    exact ⟨_, toText_of_octets h bound⟩

theorem toText_congr {p d e : Octets} (hd : IsFront p d) (he : IsFront p e) (bound : Nat) :
    toText d bound = toText e bound := by
  rw [toText, toText, untilZero_of_isFront hd, untilZero_of_isFront he]

/-- A cut is the longest beginning within its bound, found by going back from the bound, and only
the tighter of two cuts counts. What stands before the first zero decides alone whether octets are
read as a text and as which: if it is UTF-8, as its text cut with room for a closing zero. -/
theorem isLongestCut_iff_and_toText_eq_ok_iff (s : String) (m n : Nat) (d : Octets) (bound : Nat) :
    ((∀ t, Text.IsLongestCut s n t ↔ t = Text.truncate s n) ∧
      Text.truncate? s n = some (Text.truncate s n) ∧
      min n (Text.octets s).length ≤ (Text.octets (Text.truncate s n)).length + 3 ∧
      Text.truncate (Text.truncate s m) n = Text.truncate s (min m n)) ∧
    ∃ p, IsFront p d ∧
      ((∃ t, toText d bound = .ok t) ↔ Text.IsUtf8 p) ∧
      (∀ t, Text.octets t = p → toText d bound = .ok (Text.truncate t (bound - 1))) ∧
      ∀ e, IsFront p e → toText e bound = toText d bound := by
  refine ⟨⟨fun _ => Text.isLongestCut_iff, Text.truncate?_eq s n,
    Text.le_length_truncate_add_three s n, Text.truncate_truncate s m n⟩, ?_⟩
  obtain ⟨p, hp⟩ := exists_isFront d
  refine ⟨p, hp, exists_toText_eq_ok_iff hp bound, ?_, fun e he => toText_congr he hp bound⟩
  rintro t rfl
  exact toText_of_octets hp bound

/-- The last character does not fit, and what stands behind the zero is not UTF-8. -/
theorem toText_cut_before_invalid :
    toText (Text.octets "a€" ++ [0, 0xff]) 4 = .ok (Text.truncate "a€" 3) ∧
      Text.truncate "a€" 3 = "a" := by
  obtain ⟨-, p, hp, -, htext, -⟩ :=
    isLongestCut_iff_and_toText_eq_ok_iff "a€" 3 3 (Text.octets "a€" ++ [0, 0xff]) 4
  have hfront : Text.octets "a€" = p := by
    rw [← untilZero_of_isFront hp]
    decide
  exact ⟨htext "a€" hfront, by decide⟩

end Attr
end TrafficControl
