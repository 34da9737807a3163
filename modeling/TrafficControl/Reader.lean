import TrafficControl.Attr.Basic

/-!
# Readers

A reader takes octets from the front of its input, step by step. What it took before it failed
stays taken, and a step that lacks octets takes none. This is the second way to read attributes;
it serves the fixed part of messages and the attributes behind it. Main statement: a successful
reading of one attribute takes at least its header (`length_of_attr`).
-/
namespace TrafficControl

/-- A computation that takes octets from the front of its input. -/
abbrev Reader := EStateM ReadFault Octets

namespace Reader

def cut {α : Type} : Reader α := throw .cut

def take (n : Nat) : Reader Octets := fun d =>
  if Octets.hasAtLeast n d then .ok (d.take n) (d.drop n) else .error .backtrack d

def u16 : Reader UInt16 := do return Octets.u16At (← take 2) 0

/-- Takes the filling of an attribute of length `n`, if all of it is there. -/
def filling (n : Nat) : Reader Unit := fun d =>
  .ok () (if Octets.hasAtLeast (align n - n) d then d.drop (align n - n) else d)

def attr : Reader Attr := do
  let n ← u16
  let type ← u16
  if n.toNat < Attr.headerLength then cut
  let payload ← take (n.toNat - Attr.headerLength)
  filling n.toNat
  return ⟨type &&& Attr.typeMask, payload⟩

/-- A sequence succeeds only by both of its steps. -/
theorem exists_of_bind_eq_ok {α β : Type} {x : Reader α} {f : α → Reader β} {d r : Octets} {b : β}
    (h : (x >>= f) d = .ok b r) : ∃ a e, x d = .ok a e ∧ f a e = .ok b r := by
  simp only [bind, EStateM.bind] at h
  split at h
  · exact ⟨_, _, by assumption, h⟩
  · cases h

theorem length_take {n : Nat} {d r x : Octets} (h : take n d = .ok x r) :
    r.length + n = d.length := by
  simp only [take] at h
  split at h
  · rename_i hn
    rw [Octets.hasAtLeast_iff] at hn
    simp only [EStateM.Result.ok.injEq] at h
    rw [← h.2, List.length_drop]
    omega
  · simp at h

theorem length_filling_le {n : Nat} {d r : Octets} (h : filling n d = .ok () r) :
    r.length ≤ d.length := by
  simp only [filling, EStateM.Result.ok.injEq, true_and] at h
  rw [← h]
  split <;> simp

theorem length_u16 {d r : Octets} {x : UInt16} (h : u16 d = .ok x r) :
    r.length + 2 = d.length := by
  obtain ⟨y, e, hy, h⟩ := exists_of_bind_eq_ok h
  cases h
  exact length_take hy

theorem length_of_attr {d r : Octets} {a : Attr} (h : attr d = .ok a r) :
    r.length + Attr.headerLength ≤ d.length := by
  obtain ⟨n, d₁, hn, h⟩ := exists_of_bind_eq_ok h
  obtain ⟨t, d₂, ht, h⟩ := exists_of_bind_eq_ok h
  dsimp only at h
  split at h
  · obtain ⟨_, _, hcut, _⟩ := exists_of_bind_eq_ok h
    cases hcut
  · obtain ⟨p, d₃, hp, h⟩ := exists_of_bind_eq_ok h
    obtain ⟨u, d₄, hu, h⟩ := exists_of_bind_eq_ok h
    cases h
    have h₁ := length_u16 hn
    have h₂ := length_u16 ht
    have h₃ := length_take hp
    have h₄ := length_filling_le hu
    rw [Attr.headerLength]
    omega

/-- All attributes at the front of `d`, up to the first that cannot be read, and what that one
left. -/
def readAttrs (d : Octets) : List Attr × Octets :=
  if !Octets.hasAtLeast Attr.headerLength d then ([], d)
  else match _h : attr d with
    | .ok a r => let (as, rest) := readAttrs r; (a :: as, rest)
    | .error _ r => ([], r)
termination_by d.length
decreasing_by
  have := length_of_attr _h
  simp only [Attr.headerLength] at this
  omega

/-- Takes all attributes up to the first that cannot be read; never fails. -/
def attrs : Reader (List Attr) := fun d => let (as, rest) := readAttrs d; .ok as rest

end Reader
end TrafficControl
