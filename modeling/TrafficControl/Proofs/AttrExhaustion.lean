import TrafficControl.Proofs.AttrTiling

/-!
# Running out of attributes

Octets are exhausted when they are too few for a header. Asking for the next attribute also looks
into the header, so it finds nothing in exhausted octets, and nothing behind a bad header either:
one with a length below its own or beyond the octets that are left. Such octets are not exhausted,
and no call takes anything from them.

So the two agree at every point of an iteration unless it stops before a bad header. A loop that
asks for attributes until the octets are exhausted then gets every attribute and nothing else, and
before a bad header it never ends.
-/
namespace TrafficControl.Attr

/-- The octets begin with a header whose length is below its own or beyond the octets there are. -/
def HasBadHeader (d : Octets) : Prop :=
  headerLength ≤ d.length ∧ (lengthAt d 0 < headerLength ∨ d.length < lengthAt d 0)

/-- A loop that asks for an attribute until the octets are exhausted, with the answers it gets. -/
inductive Drains : Octets → List (Option Attr) → Prop
  | exhausted {d : Octets} (h : isExhausted d) : Drains d []
  | call {d : Octets} {xs : List (Option Attr)} (h : isExhausted d = false)
      (hrest : Drains (advance d) xs) : Drains d ((next? d).map (·.1) :: xs)

section Call

variable {d : Octets}

theorem not_hasBadHeader_of_isExhausted (h : isExhausted d) : ¬ HasBadHeader d := by
  intro hbad
  exact Nat.not_lt.mpr hbad.1 (isExhausted_iff.mp h)

theorem stopsAt_zero_iff : StopsAt d 0 ↔ isExhausted d ∨ HasBadHeader d := by
  rw [StopsAt, isExhausted_iff, HasBadHeader]
  omega

theorem next?_eq_none_iff_stopsAt : next? d = none ↔ StopsAt d 0 := by
  constructor
  · intro h
    by_contra hs
    have hsome := next?_drop_of_not_stopsAt hs
    rw [List.drop_zero, h] at hsome
    cases hsome
  · exact next?_drop_of_stopsAt (d := d) (i := 0)

theorem next?_eq_none_iff : next? d = none ↔ isExhausted d ∨ HasBadHeader d :=
  next?_eq_none_iff_stopsAt.trans stopsAt_zero_iff

theorem isExhausted_iff_next?_eq_none : isExhausted d ↔ next? d = none ∧ ¬ HasBadHeader d := by
  rw [next?_eq_none_iff]
  constructor
  · exact fun h => ⟨.inl h, not_hasBadHeader_of_isExhausted h⟩
  · rintro ⟨h | hbad, hgood⟩
    · exact h
    · exact absurd hbad hgood

theorem isExhausted_of_next?_eq_some {r : Octets} {a : Attr} (h : next? d = some (a, r)) :
    isExhausted d = false := by
  rw [← Bool.not_eq_true, isExhausted_iff_next?_eq_none, h]
  rintro ⟨hnone, -⟩
  cases hnone

end Call

/-- Octets without an attribute are what iteration leaves. -/
theorem leftover_eq_of_next?_rest {d : Octets} {k : Nat} (h : next? (rest d k) = none) :
    leftover d = rest d k := by
  rw [← leftover_rest d k, leftover_of_next?_eq_none h]

theorem isExhausted_rest_iff (d : Octets) (k : Nat) :
    isExhausted (rest d k) ↔ next? (rest d k) = none ∧ ¬ HasBadHeader (leftover d) := by
  rw [isExhausted_iff_next?_eq_none]
  refine and_congr_right fun h => ?_
  rw [leftover_eq_of_next?_rest h]

/-- The last call is made in front of what is left, so one disagreement is enough. -/
theorem forall_isExhausted_rest_iff (d : Octets) :
    (∀ k, isExhausted (rest d k) ↔ next? (rest d k) = none) ↔ ¬ HasBadHeader (leftover d) := by
  constructor
  · intro h
    have hnone : next? (rest d (list d).length) = none := next?_rest_of_le (Nat.le_refl _)
    exact ((isExhausted_rest_iff d _).mp ((h _).mpr hnone)).2
  · intro hgood k
    rw [isExhausted_rest_iff, and_iff_left hgood]

theorem eq_of_drains {d : Octets} {xs : List (Option Attr)} (h : Drains d xs) :
    xs = (list d).map some ∧ ¬ HasBadHeader (leftover d) := by
  induction h with
  | exhausted h =>
      obtain ⟨hnone, hgood⟩ := isExhausted_iff_next?_eq_none.mp h
      rw [list_of_next?_eq_none hnone, leftover_of_next?_eq_none hnone]
      exact ⟨rfl, hgood⟩
  | @call d xs h _ ih =>
      cases hd : next? d with
      | none =>
          -- The octets are not exhausted, so the header is bad and stays where it is.
          rw [advance_of_next?_eq_none hd, leftover_of_next?_eq_none hd] at ih
          rw [isExhausted_iff_next?_eq_none.mpr ⟨hd, ih.2⟩] at h
          cases h
      | some p =>
          rw [advance_of_next?_eq_some hd] at ih
          rw [list_of_next?_eq_some hd, leftover_of_next?_eq_some hd, ih.1]
          exact ⟨rfl, ih.2⟩

theorem drains_of_not_hasBadHeader {d : Octets} (h : ¬ HasBadHeader (leftover d)) :
    Drains d ((list d).map some) := by
  fun_induction leftover d with
  | case1 d hd =>
      rw [list_of_next?_eq_none hd]
      exact .exhausted (isExhausted_iff_next?_eq_none.mpr ⟨hd, h⟩)
  | case2 d a r hd ih =>
      have hcall : Drains d ((next? d).map (·.1) :: (list r).map some) :=
        .call (isExhausted_of_next?_eq_some hd) (by rw [advance_of_next?_eq_some hd]; exact ih h)
      rw [hd] at hcall
      rwa [list_of_next?_eq_some hd]

theorem drains_iff {d : Octets} {xs : List (Option Attr)} :
    Drains d xs ↔ xs = (list d).map some ∧ ¬ HasBadHeader (leftover d) := by
  constructor
  · exact eq_of_drains
  · rintro ⟨rfl, h⟩
    exact drains_of_not_hasBadHeader h

/-- At every point of an iteration there is no next attribute exactly when the octets are exhausted
or begin with a bad header. So the test for exhaustion agrees with the next call at every point
exactly when what iteration leaves has no bad header. Then the loop that asks until the octets are
exhausted ends, and it gets each attribute once and nothing else. Otherwise it does not end. -/
theorem isExhausted_rest_iff_and_drains_iff (d : Octets) :
    (∀ k, next? (rest d k) = none ↔ isExhausted (rest d k) ∨ HasBadHeader (rest d k)) ∧
    (∀ k, isExhausted (rest d k) ↔ next? (rest d k) = none ∧ ¬ HasBadHeader (leftover d)) ∧
    ((∀ k, isExhausted (rest d k) ↔ next? (rest d k) = none) ↔ ¬ HasBadHeader (leftover d)) ∧
    ∀ xs, Drains d xs ↔ xs = (list d).map some ∧ ¬ HasBadHeader (leftover d) :=
  ⟨fun _ => next?_eq_none_iff, isExhausted_rest_iff d, forall_isExhausted_rest_iff d,
    fun _ => drains_iff⟩

/-- Four octets that give the length 0 hold no attribute and are not exhausted, now or after any
number of calls. -/
theorem exists_not_isExhausted_of_next?_eq_none :
    ∃ d, next? d = none ∧ isExhausted d = false ∧ (∀ k, rest d k = d) ∧ ∀ xs, ¬ Drains d xs := by
  have hnone : next? [0, 0, 0, 0] = none := by decide +kernel
  have hleft : leftover [0, 0, 0, 0] = [0, 0, 0, 0] := leftover_of_next?_eq_none hnone
  have hbad : HasBadHeader [0, 0, 0, 0] := by
    refine ⟨Nat.le_refl 4, .inl ?_⟩
    decide
  refine ⟨[0, 0, 0, 0], hnone, rfl, fun k => ?_, fun xs h => ?_⟩
  · rw [rest_of_le (by rw [list_of_next?_eq_none hnone]; exact Nat.zero_le k), hleft]
  · exact (drains_iff.mp h).2 (hleft.symm ▸ hbad)

end TrafficControl.Attr
