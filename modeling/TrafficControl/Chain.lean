import TrafficControl.Action

/-!
# Chains of actions

Actions are shared: a shared action has an identity, and two with equal contents may be different
ones. A chain holds at most 32 shared actions, none twice, in the order of their execution. Main
statements: when adding works and when it fails (`append_of_ok`, `append_of_full`,
`append_of_mem`), and that removing keeps the order of the rest (`toList_remove`).
-/
namespace TrafficControl

/-- An action with an identity. -/
structure Shared (P : Type) where
  id : Nat
  action : Action P

namespace Chain

def maxLength : Nat := 32

end Chain

/-- At most 32 shared actions, none twice, in the order of their execution. -/
structure Chain (P : Type) where
  toList : List (Shared P)
  length_le : toList.length ≤ Chain.maxLength
  nodup : (toList.map (·.id)).Nodup

namespace Chain

variable {P : Type}

def empty : Chain P := ⟨[], Nat.zero_le _, List.nodup_nil⟩

def length (c : Chain P) : Nat := c.toList.length

def isEmpty (c : Chain P) : Bool := c.toList.isEmpty

def actions (c : Chain P) : List (Action P) := c.toList.map (·.action)

def ids (c : Chain P) : List Nat := c.toList.map (·.id)

def contains (c : Chain P) (a : Shared P) : Bool := c.toList.any (·.id = a.id)

theorem contains_iff {c : Chain P} {a : Shared P} : c.contains a ↔ a.id ∈ c.ids := by
  simp [contains, ids]

/-- The chain with one more action at its end. A full chain refuses any action, and no action is
taken twice. -/
def append (c : Chain P) (a : Shared P) : Except Error (Chain P) :=
  if hl : c.length < maxLength then
    if hc : c.contains a then .error (.exist (.action a.action.kind))
    else .ok ⟨c.toList ++ [a], by rw [List.length_append]; exact hl, by
      have h := mt contains_iff.2 hc
      simp only [List.map_append, List.map_cons, List.map_nil, List.nodup_append, c.nodup,
        true_and]
      refine ⟨by simp, fun x hx y hy => ?_⟩
      rw [List.mem_singleton] at hy
      rintro rfl
      exact h (hy ▸ hx)⟩
  else .error (.chainFull maxLength)

theorem append_of_ok {c : Chain P} {a : Shared P} (hl : c.length < maxLength)
    (hc : a.id ∉ c.ids) : ∃ c', c.append a = .ok c' ∧ c'.toList = c.toList ++ [a] := by
  rw [append, dif_pos hl, dif_neg (mt contains_iff.1 hc)]
  exact ⟨_, rfl, rfl⟩

theorem append_of_full {c : Chain P} (a : Shared P) (h : c.length = maxLength) :
    c.append a = .error (.chainFull maxLength) := by
  rw [append, dif_neg (by omega)]

theorem append_of_mem {c : Chain P} {a : Shared P} (hl : c.length < maxLength)
    (hc : a.id ∈ c.ids) : c.append a = .error (.exist (.action a.action.kind)) := by
  rw [append, dif_pos hl, dif_pos (contains_iff.2 hc)]

def ofList (as : List (Shared P)) : Except Error (Chain P) := as.foldlM append empty

/-- An action, found by its identity, and the chain without it. -/
def remove (c : Chain P) (a : Shared P) : Except Error (Shared P × Chain P) :=
  match c.toList.find? (·.id = a.id) with
  | none => .error .notFound
  | some x => .ok (x, ⟨c.toList.filter (·.id ≠ a.id),
      Nat.le_trans (List.length_filter_le ..) c.length_le,
      c.nodup.sublist (List.filter_sublist.map _)⟩)

theorem toList_remove {c d : Chain P} {a x : Shared P} (h : c.remove a = .ok (x, d)) :
    d.toList = c.toList.filter (·.id ≠ a.id) := by
  simp only [remove] at h
  split at h
  · simp at h
  · simp only [Except.ok.injEq, Prod.mk.injEq] at h
    rw [← h.2]

def first? (c : Chain P) : Option (Shared P) := c.toList.head?

def get? (c : Chain P) (i : Nat) : Option (Shared P) := c.toList[i]?

def next? (c : Chain P) (a : Shared P) : Option (Shared P) :=
  (c.toList.findIdx? (·.id = a.id)).bind fun i => c.toList[i + 1]?

/-- The actions with their places, counted from one. -/
def ordered (c : Chain P) : List (Nat × Shared P) :=
  c.toList.mapIdx fun i a => (i + 1, a)

end Chain
end TrafficControl
