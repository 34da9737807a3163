import TrafficControl.Attr.Value
import TrafficControl.Proofs.Guarded.Basic
import TrafficControl.Proofs.TextRoundTrip

/-!
# Guarded texts

A text is cut at the last boundary of characters that is not too far, found by going back from there
octet by octet. Going back never leaves the text, since a text begins with a boundary, and it ends
where counting characters from the front ends: no octet of a character but its first is a boundary.
-/
namespace TrafficControl

namespace Text

/-- Whether a text with these octets may be cut at index `i`: at its ends, and before the first octet
of a character. -/
def isBoundary (d : Octets) (i : Nat) : Bool :=
  i = 0 || i = d.length || d[i]?.any (·.IsUTF8FirstByte)

/-- The last boundary up to index `i`. -/
def lastBoundary? (d : Octets) : Nat → Option Nat
  | 0 => if isBoundary d 0 then some 0 else none
  | i + 1 => if isBoundary d (i + 1) then some (i + 1) else lastBoundary? d i

theorem lastBoundary?_eq {d : Octets} {k i : Nat} (hk : isBoundary d k) (hi : k ≤ i)
    (h : ∀ j, k < j → j ≤ i → isBoundary d j = false) : lastBoundary? d i = some k := by
  induction i with
  | zero =>
      obtain rfl : k = 0 := Nat.le_zero.mp hi
      exact if_pos hk
  | succ i ih =>
      by_cases heq : k = i + 1
      · subst heq
        exact if_pos hk
      · rw [lastBoundary?, h (i + 1) (by omega) (Nat.le_refl _)]
        exact ih (by omega) fun j hj hji => h j hj (by omega)

/-- The beginning of a text up to index `i`, which must be a boundary. -/
def cut? (s : String) (i : Nat) : Option String :=
  if isBoundary (octets s) i then (ofOctets ((octets s).take i)).toOption else none

/-- Cuts `s` to at most `n` octets between two characters. -/
def truncate? (s : String) (n : Nat) : Option String :=
  if (octets s).length ≤ n then some s
  else do cut? s (← lastBoundary? (octets s) n)

section Characters

variable (pre post : List Char) (c : Char)

theorem getElem?_flatMap_utf8EncodeChar {i : Nat} (h : i < c.utf8Size) :
    ((pre ++ c :: post).flatMap String.utf8EncodeChar)[size pre + i]? =
      (String.utf8EncodeChar c)[i]? := by
  rw [List.flatMap_append, List.flatMap_cons,
    List.getElem?_append_right (by rw [length_flatMap_utf8EncodeChar]; omega),
    length_flatMap_utf8EncodeChar, Nat.add_sub_cancel_left,
    List.getElem?_append_left (by rwa [String.length_utf8EncodeChar])]

theorem any_isUTF8FirstByte_iff {i : Nat} (h : i < c.utf8Size) :
    (String.utf8EncodeChar c)[i]?.any (·.IsUTF8FirstByte) ↔ i = 0 := by
  have hi : i < (String.utf8EncodeChar c).length := by rwa [String.length_utf8EncodeChar]
  rw [List.getElem?_eq_getElem hi, Option.any_some, decide_eq_true_eq,
    UInt8.isUTF8FirstByte_getElem_utf8EncodeChar]

theorem isBoundary_size : isBoundary ((pre ++ post).flatMap String.utf8EncodeChar) (size pre) := by
  cases post with
  | nil =>
      rw [List.append_nil, isBoundary, length_flatMap_utf8EncodeChar]
      simp
  | cons c post =>
      have hfirst := (any_isUTF8FirstByte_iff c c.utf8Size_pos).mpr rfl
      rw [← getElem?_flatMap_utf8EncodeChar pre post c c.utf8Size_pos, Nat.add_zero] at hfirst
      rw [isBoundary, hfirst, Bool.or_true]

theorem not_isBoundary_of_lt {j : Nat} (hj : size pre < j) (h : j < size pre + c.utf8Size) :
    isBoundary ((pre ++ c :: post).flatMap String.utf8EncodeChar) j = false := by
  obtain ⟨i, rfl⟩ := Nat.exists_eq_add_of_lt hj
  rw [Nat.add_assoc] at h ⊢
  have hi : i + 1 < c.utf8Size := Nat.lt_of_add_lt_add_left h
  have hrest := mt (any_isUTF8FirstByte_iff c hi).mp (Nat.succ_ne_zero i)
  rw [← getElem?_flatMap_utf8EncodeChar pre post c hi, Bool.not_eq_true] at hrest
  have hlength : ((pre ++ c :: post).flatMap String.utf8EncodeChar).length =
      size pre + (c.utf8Size + size post) := by
    rw [length_flatMap_utf8EncodeChar, size_append, size]
  rw [isBoundary, hrest, hlength]
  simp
  omega

end Characters

/-- Going back from the bound ends where counting characters from the front ends. -/
theorem truncate?_eq (s : String) (n : Nat) : truncate? s n = some (truncate s n) := by
  rcases truncate_cases s n with ⟨hs, ht⟩ | ⟨pre, c, post, hs, ht, hle, hlt⟩
  · rw [truncate?, if_pos (by rwa [length_octets]), ht]
  have hd : octets s = (pre ++ c :: post).flatMap String.utf8EncodeChar := by rw [octets, hs]
  have hn : ¬ (octets s).length ≤ n := by
    rw [length_octets, hs, size_append, size]
    omega
  have hboundary : isBoundary (octets s) (size pre) := hd ▸ isBoundary_size pre (c :: post)
  have hlast : lastBoundary? (octets s) n = some (size pre) := by
    refine lastBoundary?_eq hboundary hle fun j hj hjn => ?_
    rw [hd]
    exact not_isBoundary_of_lt pre post c hj (Nat.lt_of_le_of_lt hjn hlt)
  have htake : (octets s).take (size pre) = octets (String.ofList pre) := by
    rw [hd, List.flatMap_append, ← length_flatMap_utf8EncodeChar, List.take_left, octets,
      String.toList_ofList]
  rw [truncate?, if_neg hn, hlast, ht]
  change cut? s _ = _
  rw [cut?, if_pos hboundary, htake, ofOctets_octets]
  rfl

end Text

namespace Guarded

variable {σ : Type}

/-- The text before the first zero octet, cut to fit into `bound` octets with a closing zero. -/
def text (d : Octets) (bound : Nat) : Guarded Error σ String := do
  let front ← check (d.slice? 0 (d.findIdx (· == 0)))
  let s ← ofExcept ((Text.ofOctets front).mapError fun fault => .invalidAttr (.notUtf8 fault))
  check (Text.truncate? s (bound - 1))

theorem text_eq (d : Octets) (bound : Nat) :
    (text d bound : Guarded Error σ String) = ofExcept (Attr.toText d bound) := by
  have hfront : d.slice? 0 (d.findIdx (· == 0)) = some (Attr.untilZero d) := by
    have hpred : (fun b : UInt8 => b == 0) = fun b => !(b != 0) := by
      funext b
      rw [bne, Bool.not_not]
    rw [Octets.slice?_of_le (Nat.zero_le _) List.findIdx_le_length, Attr.untilZero,
      List.takeWhile_eq_take_findIdx_not, List.drop_zero, hpred]
  rw [text, hfront, check_some_bind, Attr.toText]
  cases Text.ofOctets (Attr.untilZero d) with
  | error fault => rfl
  | ok s =>
      change check (Text.truncate? s (bound - 1)) = _
      rw [Text.truncate?_eq]
      rfl

end Guarded
end TrafficControl
