import TrafficControl.Octets

/-!
# Guarded computations

The octets that are decoded come from outside, and all lengths in them may be wrong. Taking and
dropping do not mind: out of bounds they give what there is. So that a bound cannot be missed, the
decoders have guarded forms, in which every slice and every index asks for its bounds and every
difference of lengths for its order, and which have no result where one of these is not given. A
decoder is in bounds when its guarded form is the decoder itself.

A loop in a guarded form has a number of rounds and no result when they do not suffice.
-/
namespace TrafficControl

/-- The difference, unless it is negative. -/
def sub? (m n : Nat) : Option Nat := if n ≤ m then some (m - n) else none

theorem sub?_of_le {m n : Nat} (h : n ≤ m) : sub? m n = some (m - n) := if_pos h

/-- Calls in a row that are all in bounds. -/
theorem mapM_eq_some_map {α β : Type} {f : α → Option β} {g : α → β} {l : List α}
    (h : ∀ a ∈ l, f a = some (g a)) : l.mapM f = some (l.map g) := by
  induction l with
  | nil => rfl
  | cons a l ih =>
      rw [List.mapM_cons, h a List.mem_cons_self, ih fun b hb => h b (List.mem_cons_of_mem a hb)]
      rfl

namespace Octets

/-- The octets from index `i` up to index `j`. -/
def slice? (d : Octets) (i j : Nat) : Option Octets :=
  if i ≤ j ∧ j ≤ d.length then some ((d.take j).drop i) else none

theorem slice?_of_le {d : Octets} {i j : Nat} (hi : i ≤ j) (hj : j ≤ d.length) :
    slice? d i j = some ((d.take j).drop i) := if_pos ⟨hi, hj⟩

/-- The octets behind index `i`. -/
theorem slice?_length {d : Octets} {i : Nat} (h : i ≤ d.length) :
    slice? d i d.length = some (d.drop i) := by
  rw [slice?_of_le h (Nat.le_refl _), List.take_length]

/-- The octets behind the first `n` and their filling, of which the end may be missing. -/
def behind? (d : Octets) (n : Nat) : Option Octets :=
  if d.length ≤ align n then some [] else slice? d (align n) d.length

theorem behind?_eq (d : Octets) (n : Nat) : behind? d n = some (d.drop (align n)) := by
  by_cases h : d.length ≤ align n
  · rw [behind?, if_pos h, List.drop_eq_nil_of_le h]
  · rw [behind?, if_neg h, slice?_length (Nat.le_of_not_le h)]

/-- As many octets as `k`, one by one, from index `i` on. -/
def octets? (d : Octets) (i k : Nat) : Option Octets := (List.range' i k).mapM (d[·]?)

theorem octets?_of_le {d : Octets} {i k : Nat} (h : i + k ≤ d.length) :
    octets? d i k = some ((d.drop i).take k) := by
  induction k generalizing i with
  | zero => rfl
  | succ k ih =>
      have hi : i < d.length := by omega
      have hrest : (List.range' (i + 1) k).mapM (d[·]?) = some ((d.drop (i + 1)).take k) :=
        ih (by omega)
      rw [octets?, List.range'_succ, List.mapM_cons, hrest, List.getElem?_eq_getElem hi,
        List.drop_eq_getElem_cons hi, List.take_succ_cons]
      rfl

def u16? (d : Octets) (i : Nat) : Option UInt16 :=
  (octets? d i 2).map fun e => UInt16.ofNat (natLE e)

def u16BE? (d : Octets) (i : Nat) : Option UInt16 :=
  (octets? d i 2).map fun e => UInt16.ofNat (natLE e.reverse)

def u32? (d : Octets) (i : Nat) : Option UInt32 :=
  (octets? d i 4).map fun e => UInt32.ofNat (natLE e)

theorem u16?_of_le {d : Octets} {i : Nat} (h : i + 2 ≤ d.length) :
    u16? d i = some (u16At d i) := by
  rw [u16?, octets?_of_le h, Option.map_some, u16At]

theorem u16BE?_of_le {d : Octets} {i : Nat} (h : i + 2 ≤ d.length) :
    u16BE? d i = some (u16BEAt d i) := by
  rw [u16BE?, octets?_of_le h, Option.map_some, u16BEAt]

theorem u32?_of_le {d : Octets} {i : Nat} (h : i + 4 ≤ d.length) :
    u32? d i = some (u32At d i) := by
  rw [u32?, octets?_of_le h, Option.map_some, u32At]

end Octets

/-- A computation that ends with a value or a failure, or has no result where an access is out of
bounds. -/
def Guarded (ε σ α : Type) : Type := σ → Option (EStateM.Result ε σ α)

namespace Guarded

variable {ε σ α β : Type}

instance : Monad (Guarded ε σ) where
  pure a := fun s => some (.ok a s)
  bind x f := fun s => match x s with
    | none => none
    | some (.ok a s) => f a s
    | some (.error e s) => some (.error e s)

/-- A computation without accesses of its own. -/
def ofEStateM (x : EStateM ε σ α) : Guarded ε σ α := fun s => some (x s)

def ofExcept (x : Except ε α) : Guarded ε σ α := ofEStateM (MonadExcept.ofExcept x)

/-- The value of an access. -/
def check (o : Option α) : Guarded ε σ α := fun s => o.map (.ok · s)

/-- The computation with another wording of its failures. -/
def adaptExcept {ε' : Type} (f : ε → ε') (x : Guarded ε σ α) : Guarded ε' σ α := fun s =>
  (x s).map fun
    | .ok a s => .ok a s
    | .error e s => .error (f e) s

/-- The value, or nothing where the computation failed. -/
def attempt {ε' : Type} (x : Guarded ε σ α) : Guarded ε' σ (Option α) := fun s =>
  (x s).map fun
    | .ok a s => .ok (some a) s
    | .error _ s => .ok none s

/-- Runs a computation that has a state of its own, and forgets that state. -/
def within {τ : Type} (t : τ) (x : Guarded ε τ α) : Guarded ε σ α := fun s =>
  (x t).map fun
    | .ok a _ => .ok a s
    | .error e _ => .error e s

@[simp] theorem check_some_bind (a : α) (f : α → Guarded ε σ β) : check (some a) >>= f = f a := rfl

@[simp] theorem pure_bind (a : α) (f : α → Guarded ε σ β) : pure a >>= f = f a := rfl

theorem ofEStateM_pure (a : α) : (ofEStateM (pure a) : Guarded ε σ α) = pure a := rfl

theorem ofEStateM_bind (x : EStateM ε σ α) (f : α → EStateM ε σ β) :
    ofEStateM (x >>= f) = ofEStateM x >>= fun a => ofEStateM (f a) := by
  funext s
  simp only [ofEStateM, bind, EStateM.bind]
  cases x s <;> rfl

theorem bind_assoc {γ : Type} (x : Guarded ε σ α) (f : α → Guarded ε σ β) (g : β → Guarded ε σ γ) :
    x >>= f >>= g = x >>= fun a => f a >>= g := by
  funext s
  simp only [bind]
  cases x s with
  | none => rfl
  | some res => cases res <;> rfl

theorem ofExcept_bind (x : Except ε α) (f : α → Except ε β) :
    (ofExcept (x >>= f) : Guarded ε σ β) = ofExcept x >>= fun a => ofExcept (f a) := by
  cases x <;> rfl

end Guarded
end TrafficControl
