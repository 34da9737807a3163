import Mathlib.Logic.Function.Iterate
import TrafficControl.Proofs.WrittenAttr

/-!
# Attributes one behind the other

The attributes of an octet string tile it from its beginning: each of them stands at a whole word,
its payload right behind its header, and the next one behind its filling. Only the filling of the
last one may be missing. Iteration asks for one attribute after the other; what is left after some
calls is what stands behind the attributes they found, and from the first call that finds nothing on
nothing changes any more.

An octet string of whole words that iteration takes to its end may therefore stand in front of any
other one.
-/
namespace TrafficControl.Attr

/-- The length in the attribute header at index `i`. -/
def lengthAt (d : Octets) (i : Nat) : Nat := (Octets.u16At d i).toNat

/-- The attribute at index `i`: its type without the flags, and the payload behind its header. -/
def readAt (d : Octets) (i : Nat) : Attr where
  type := Octets.u16At d (i + 2) &&& typeMask
  payload := (d.drop (i + headerLength)).take (lengthAt d i - headerLength)

/-- Iteration stops at index `i`: the header is not all there, or the length in it is below its own
or beyond the octets that are left. -/
def StopsAt (d : Octets) (i : Nat) : Prop :=
  d.length < i + headerLength ∨ lengthAt d i < headerLength ∨ d.length < i + lengthAt d i

section Drop

variable {d : Octets} {i : Nat}

theorem not_stopsAt_iff :
    ¬ StopsAt d i ↔ headerLength ≤ lengthAt d i ∧ i + lengthAt d i ≤ d.length := by
  rw [StopsAt]
  omega

theorem next?_drop (d : Octets) (i : Nat) : next? (d.drop i) =
    if headerLength ≤ lengthAt d i ∧ lengthAt d i ≤ d.length - i then
      some (readAt d i, d.drop (i + align (lengthAt d i))) else none := by
  have htype : Octets.u16At (d.drop i) 2 = Octets.u16At d (i + 2) := by
    rw [← Octets.u16At_drop, List.drop_drop, Octets.u16At_drop]
  simp only [next?, Octets.hasAtLeast_iff, Octets.u16At_drop, htype, List.drop_take,
    List.drop_drop, List.length_drop]
  rfl

theorem next?_drop_of_stopsAt (h : StopsAt d i) : next? (d.drop i) = none := by
  rw [next?_drop, if_neg]
  rw [StopsAt, headerLength] at h
  rw [headerLength]
  omega

theorem next?_drop_of_not_stopsAt (h : ¬ StopsAt d i) :
    next? (d.drop i) = some (readAt d i, d.drop (i + align (lengthAt d i))) := by
  rw [not_stopsAt_iff] at h
  rw [next?_drop, if_pos ⟨h.1, by omega⟩]

theorem not_stopsAt_of_next?_drop {a : Attr} {r : Octets} (h : next? (d.drop i) = some (a, r)) :
    ¬ StopsAt d i ∧ a = readAt d i ∧ r = d.drop (i + align (lengthAt d i)) := by
  by_cases hs : StopsAt d i
  · rw [next?_drop_of_stopsAt hs] at h
    cases h
  · rw [next?_drop_of_not_stopsAt hs] at h
    cases h
    exact ⟨hs, rfl, rfl⟩

end Drop

/-- What one call leaves. A call that finds no attribute takes nothing. -/
def advance (d : Octets) : Octets :=
  match next? d with
  | some (_, r) => r
  | none => d

/-- What so many calls leave. -/
def rest (d : Octets) (k : Nat) : Octets := Nat.iterate advance k d

theorem advance_of_next?_eq_none {d : Octets} (h : next? d = none) : advance d = d := by
  rw [advance, h]

theorem advance_of_next?_eq_some {d r : Octets} {a : Attr} (h : next? d = some (a, r)) :
    advance d = r := by
  rw [advance, h]

theorem rest_zero (d : Octets) : rest d 0 = d := rfl

theorem rest_succ (d : Octets) (k : Nat) : rest d (k + 1) = advance (rest d k) :=
  Function.iterate_succ_apply' advance k d

theorem rest_advance (d : Octets) (k : Nat) : rest (advance d) k = rest d (k + 1) := rfl

/-- Call for call the attributes are found, and after the last of them nothing. -/
theorem map_next?_rest (d : Octets) (k : Nat) : (next? (rest d k)).map (·.1) = (list d)[k]? := by
  induction k generalizing d with
  | zero =>
      cases h : next? d with
      | none => rw [rest_zero, h, list_of_next?_eq_none h]; rfl
      | some p => rw [rest_zero, h, list_of_next?_eq_some h]; rfl
  | succ k ih =>
      rw [← rest_advance, ih]
      cases h : next? d with
      | none =>
          rw [advance_of_next?_eq_none h, list_of_next?_eq_none h, List.getElem?_nil,
            List.getElem?_nil]
      | some p =>
          rw [advance_of_next?_eq_some h, list_of_next?_eq_some h, List.getElem?_cons_succ]

/-- Where call `k` finds an attribute, when each of the calls before it has found one. -/
def start (d : Octets) : Nat → Nat
  | 0 => 0
  | k + 1 => start d k + align (lengthAt d (start d k))

theorem start_mod_four (d : Octets) (k : Nat) : start d k % 4 = 0 := by
  induction k with
  | zero => rfl
  | succ k ih =>
      have := align_mod_four (lengthAt d (start d k))
      rw [start]
      omega

section Rest

variable {d : Octets} {k : Nat}

theorem exists_next?_rest (h : k < (list d).length) :
    ∃ r, next? (rest d k) = some ((list d)[k], r) := by
  have hk := map_next?_rest d k
  rw [List.getElem?_eq_getElem h, Option.map_eq_some_iff] at hk
  obtain ⟨⟨a, r⟩, hr, rfl⟩ := hk
  exact ⟨r, hr⟩

theorem next?_rest_of_le (h : (list d).length ≤ k) : next? (rest d k) = none := by
  have hk := map_next?_rest d k
  rwa [List.getElem?_eq_none h, Option.map_eq_none_iff] at hk

/-- What is left after some attributes is what stands behind them. -/
theorem rest_eq_drop (h : k ≤ (list d).length) : rest d k = d.drop (start d k) := by
  induction k with
  | zero => rfl
  | succ k ih =>
      obtain ⟨r, hr⟩ := exists_next?_rest h
      rw [rest_succ, advance_of_next?_eq_some hr]
      rw [ih (Nat.le_of_lt h)] at hr
      exact (not_stopsAt_of_next?_drop hr).2.2

theorem leftover_rest (d : Octets) (k : Nat) : leftover (rest d k) = leftover d := by
  induction k with
  | zero => rfl
  | succ k ih =>
      rw [rest_succ, ← ih]
      cases h : next? (rest d k) with
      | none => rw [advance_of_next?_eq_none h]
      | some p => rw [advance_of_next?_eq_some h, leftover_of_next?_eq_some h]

theorem rest_of_le (h : (list d).length ≤ k) : rest d k = leftover d := by
  rw [← leftover_rest d k, leftover_of_next?_eq_none (next?_rest_of_le h)]

end Rest

/-- How iteration goes through `d`. -/
structure IsTiled (d : Octets) : Prop where
  /-- Call for call the attributes are found, and after the last of them nothing. -/
  calls (k : Nat) : (next? (rest d k)).map (·.1) = (list d)[k]?
  aligned (k : Nat) : start d k % 4 = 0
  attr {k : Nat} (h : k < (list d).length) :
    headerLength ≤ lengthAt d (start d k) ∧ start d k + lengthAt d (start d k) ≤ d.length ∧
      (list d)[k] = readAt d (start d k)
  /-- The number of octets left is 0 where the filling goes beyond the end. -/
  remaining {k : Nat} (h : k ≤ (list d).length) : (rest d k).length = d.length - start d k
  stopsAt_iff {k : Nat} (h : k ≤ (list d).length) : StopsAt d (start d k) ↔ k = (list d).length
  stopped {k : Nat} (h : (list d).length ≤ k) : next? (rest d k) = none ∧ rest d k = leftover d

theorem isTiled (d : Octets) : IsTiled d where
  calls := map_next?_rest d
  aligned := start_mod_four d
  attr {k} h := by
    obtain ⟨r, hr⟩ := exists_next?_rest h
    rw [rest_eq_drop (Nat.le_of_lt h)] at hr
    obtain ⟨hs, ha, -⟩ := not_stopsAt_of_next?_drop hr
    obtain ⟨hn, hd⟩ := not_stopsAt_iff.mp hs
    exact ⟨hn, hd, ha⟩
  remaining h := by rw [rest_eq_drop h, List.length_drop]
  stopsAt_iff {k} h := by
    constructor
    · intro hs
      by_contra hne
      obtain ⟨r, hr⟩ := exists_next?_rest (Nat.lt_of_le_of_ne h hne)
      rw [rest_eq_drop h, next?_drop_of_stopsAt hs] at hr
      cases hr
    · intro heq
      by_contra hs
      have hnone := next?_rest_of_le (Nat.le_of_eq heq.symm)
      rw [rest_eq_drop h, next?_drop_of_not_stopsAt hs] at hnone
      cases hnone
  stopped h := ⟨next?_rest_of_le h, rest_of_le h⟩

section Append

variable {a : Octets} (b : Octets)

/-- In whole words the filling of an attribute is all there. -/
theorem next?_append {r : Octets} {x : Attr} (ha : a.length % 4 = 0)
    (h : next? a = some (x, r)) : next? (a ++ b) = some (x, r ++ b) ∧ r.length % 4 = 0 := by
  obtain ⟨hs, rfl, rfl⟩ := not_stopsAt_of_next?_drop (i := 0) h
  obtain ⟨hn, hle⟩ := not_stopsAt_iff.mp hs
  rw [Nat.zero_add] at hle ⊢
  have hlength : lengthAt (a ++ b) 0 = lengthAt a 0 := by
    rw [headerLength] at hn
    rw [lengthAt, Octets.u16At_append_left b (by omega), lengthAt]
  have hread : readAt (a ++ b) 0 = readAt a 0 := by
    rw [headerLength] at hn
    rw [readAt, hlength, Octets.u16At_append_left b (by omega),
      List.drop_append_of_le_length (by rw [headerLength]; omega),
      List.take_append_of_le_length (by rw [headerLength, List.length_drop]; omega), readAt]
  have hword := align_le_of_le hle ha
  have hs' : ¬ StopsAt (a ++ b) 0 := by
    rw [not_stopsAt_iff, hlength, List.length_append]
    omega
  have hnext := next?_drop_of_not_stopsAt hs'
  rw [List.drop_zero, Nat.zero_add, hlength, hread,
    List.drop_append_of_le_length hword] at hnext
  refine ⟨hnext, ?_⟩
  have := align_mod_four (lengthAt a 0)
  rw [List.length_drop]
  omega

theorem list_append_of_leftover_eq_nil (ha : a.length % 4 = 0) (h : leftover a = []) :
    list (a ++ b) = list a ++ list b ∧ leftover (a ++ b) = leftover b := by
  fun_induction leftover a with
  | case1 a hn =>
      subst h
      rw [list_of_next?_eq_none hn]
      exact ⟨rfl, rfl⟩
  | case2 a x r hn ih =>
      obtain ⟨happ, hr⟩ := next?_append b ha hn
      obtain ⟨hlist, hleft⟩ := ih hr h
      rw [list_of_next?_eq_some happ, leftover_of_next?_eq_some happ, list_of_next?_eq_some hn,
        hlist, hleft]
      exact ⟨rfl, rfl⟩

end Append

/-- Otherwise the filling is taken from the string behind. -/
example : leftover [5, 0, 1, 0, 9] = [] ∧ list [4, 0, 2, 0] = [⟨2, []⟩] ∧
    list ([5, 0, 1, 0, 9] ++ [4, 0, 2, 0]) = [⟨1, [9]⟩] := by decide +kernel

/-- The attributes that iteration finds tile any octet string. Whole words that it takes to their
end may stand in front of any string: their attributes are found, then those of the string. -/
theorem isTiled_and_list_append :
    (∀ d, IsTiled d) ∧
      ∀ a b, a.length % 4 = 0 → leftover a = [] →
        list (a ++ b) = list a ++ list b ∧ leftover (a ++ b) = leftover b :=
  ⟨isTiled, fun _ b ha h => list_append_of_leftover_eq_nil b ha h⟩

/-- An attribute with a flag and with filling. -/
def filled : Octets := [5, 0, 1, 0x80, 9, 0, 0, 0]

/-- An empty attribute, and one whose filling is missing. -/
def unfilled : Octets := [4, 0, 2, 0, 7, 0, 3, 0, 1, 2, 3]

theorem list_filled_append_unfilled :
    filled.length % 4 = 0 ∧ leftover filled = [] ∧
      list (filled ++ unfilled) = list filled ++ list unfilled ∧
      leftover (filled ++ unfilled) = leftover unfilled ∧
      list (filled ++ unfilled) = [⟨1, [9]⟩, ⟨2, []⟩, ⟨3, [1, 2, 3]⟩] := by
  have h4 : filled.length % 4 = 0 := by decide
  have hleft : leftover filled = [] := by decide +kernel
  obtain ⟨hlist, hrest⟩ := isTiled_and_list_append.2 filled unfilled h4 hleft
  exact ⟨h4, hleft, hlist, hrest, by decide +kernel⟩

end TrafficControl.Attr
