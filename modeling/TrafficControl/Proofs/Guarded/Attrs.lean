import TrafficControl.Attr.Table
import TrafficControl.Attr.Value
import TrafficControl.Proofs.AttrReaders
import TrafficControl.Proofs.Guarded.Basic
import TrafficControl.Proofs.SizePolicy

/-!
# Guarded reading of attributes

Both ways of reading attributes stay in bounds, whatever the lengths in the headers say. Every
attribute takes at least its header, so a quarter of the octets is as many rounds as either needs. A
table is never asked beyond its size, and a payload that passed a policy is as long as its rule asks.
-/
namespace TrafficControl

namespace Table

/-- What a table holds at an index below its size. -/
def slot? (t : Table) (i : Nat) : Option (Option Octets) := t.slots[i]?

theorem slot?_of_lt {t : Table} {i : Nat} (h : i < t.slots.length) :
    t.slot? i = some (t.get i) := by
  rw [slot?, get, List.getElem?_eq_getElem h]
  rfl

/-- A payload in a checked table is as long as its rule asks. -/
theorem le_length_of_readChecked {policy : Policy} {d : Octets} {t : Table}
    (h : readChecked policy d = .ok t) {i : Nat} {r : Rule} {p : Octets}
    (hr : policy[i]? = some (some r)) (hp : t.get i = some p) : r.minLength ≤ p.length := by
  obtain ⟨hlong, rfl⟩ := readChecked_eq_ok_iff.mp h
  rw [get_read d (List.getElem?_eq_some_iff.mp hr).1] at hp
  exact le_length_of_last? hlong hr hp

theorem length_slots_of_readChecked {policy : Policy} {d : Octets} {t : Table}
    (h : readChecked policy d = .ok t) : t.slots.length = policy.length := by
  rw [read_of_readChecked h, length_slots_read]

end Table

namespace Guarded

variable {σ : Type}

/-- The attribute at the front, and what comes behind it and its filling. -/
def nextAttr? (d : Octets) : Option (Option (Attr × Octets)) :=
  if d.length < Attr.headerLength then some none
  else do
    let n := (← d.u16? 0).toNat
    let type ← d.u16? 2
    if n < Attr.headerLength ∨ d.length < n then return none
    else
      let payload ← d.slice? Attr.headerLength n
      let rest ← d.behind? n
      return some (⟨type &&& Attr.typeMask, payload⟩, rest)

theorem nextAttr?_eq (d : Octets) : nextAttr? d = some (Attr.next? d) := by
  by_cases hd : d.length < Attr.headerLength
  · rw [nextAttr?, if_pos hd, Attr.next?_of_length_lt hd]
  have hlength : d.u16? 0 = some (d.u16At 0) :=
    Octets.u16?_of_le (by rw [Attr.headerLength] at hd; omega)
  have htype : d.u16? 2 = some (d.u16At 2) :=
    Octets.u16?_of_le (by rw [Attr.headerLength] at hd; omega)
  rw [nextAttr?, if_neg hd, hlength, htype]
  change (if (d.u16At 0).toNat < Attr.headerLength ∨ d.length < (d.u16At 0).toNat then _ else _ :
    Option _) = _
  simp only [Attr.next?, Octets.hasAtLeast_iff]
  by_cases hn : Attr.headerLength ≤ (d.u16At 0).toNat ∧ (d.u16At 0).toNat ≤ d.length
  · rw [if_neg (by omega), if_pos hn, Octets.slice?_of_le hn.1 hn.2, Octets.behind?_eq]
    rfl
  · rw [if_pos (by omega), if_neg hn]
    rfl

/-- The attributes at the front in at most so many rounds, and what they leave. -/
def attrs? : Nat → Octets → Option (List Attr × Octets)
  | 0, _ => none
  | k + 1, d => do
    match ← nextAttr? d with
    | none => return ([], d)
    | some (a, r) =>
      let (as, rest) ← attrs? k r
      return (a :: as, rest)

/-- Rounds enough for attributes, of which each takes its header at least. -/
def rounds (d : Octets) : Nat := d.length / Attr.headerLength + 1

theorem attrs?_eq {k : Nat} {d : Octets} (h : d.length / Attr.headerLength < k) :
    attrs? k d = some (Attr.list d, Attr.leftover d) := by
  induction k generalizing d with
  | zero => exact absurd h (Nat.not_lt_zero _)
  | succ k ih =>
      rw [attrs?, nextAttr?_eq]
      cases hn : Attr.next? d with
      | none =>
          rw [Attr.list_of_next?_eq_none hn, Attr.leftover_of_next?_eq_none hn]
          rfl
      | some next =>
          obtain ⟨a, r⟩ := next
          have hr := Attr.length_of_next? hn
          rw [Attr.headerLength] at h hr
          have hk : r.length / Attr.headerLength < k := by
            rw [Attr.headerLength]
            omega
          rw [Attr.list_of_next?_eq_some hn, Attr.leftover_of_next?_eq_some hn]
          simp only [Option.bind_eq_bind, Option.bind_some, ih hk]
          rfl

def table? (n : Nat) (d : Octets) : Option Table := do
  let (as, _) ← attrs? (rounds d) d
  return as.foldl Table.put (.empty n)

theorem table?_eq (n : Nat) (d : Octets) : table? n d = some (Table.read n d) := by
  rw [table?, attrs?_eq (k := rounds d) (Nat.lt_succ_self _)]
  rfl

def checkedTable (policy : Policy) (d : Octets) : Guarded Error σ Table := do
  let t ← check (table? policy.length d)
  ofExcept (Table.check policy t.slots)
  return t

theorem checkedTable_eq (policy : Policy) (d : Octets) :
    (checkedTable policy d : Guarded Error σ Table) = ofExcept (Table.readChecked policy d) := by
  rw [checkedTable, table?_eq, check_some_bind]
  cases hc : Table.check policy (Table.read policy.length d).slots with
  | error e => rw [Table.readChecked, hc]; rfl
  | ok u => rw [Table.readChecked, hc]; rfl

/-- Takes the filling of an attribute of length `n`, if all of it is there. -/
def filling (n : Nat) : Guarded ReadFault Octets Unit := do
  let k ← check (sub? (align n) n)
  let left ← ofEStateM get
  if k ≤ left.length then
    let _ ← ofEStateM (Reader.take k)

theorem filling_eq (n : Nat) : filling n = ofEStateM (Reader.filling n) := by
  funext d
  rw [filling, sub?_of_le (le_align n), check_some_bind]
  change (if align n - n ≤ d.length then _ else _ : Guarded ReadFault Octets Unit) d =
    some (Reader.filling n d)
  by_cases h : align n - n ≤ d.length
  · rw [if_pos h, Reader.filling, if_pos (Octets.hasAtLeast_iff.mpr h)]
    simp only [bind, ofEStateM, Reader.take_of_le h]
    rfl
  · rw [if_neg h, Reader.filling, if_neg (by rwa [Octets.hasAtLeast_iff])]
    rfl

def readerAttr : Guarded ReadFault Octets Attr := do
  let n ← ofEStateM Reader.u16
  let type ← ofEStateM Reader.u16
  if n.toNat < Attr.headerLength then ofEStateM Reader.cut
  let length ← check (sub? n.toNat Attr.headerLength)
  let payload ← ofEStateM (Reader.take length)
  filling n.toNat
  return ⟨type &&& Attr.typeMask, payload⟩

theorem readerAttr_eq : readerAttr = ofEStateM Reader.attr := by
  simp only [readerAttr, Reader.attr, ofEStateM_bind]
  congr 1
  funext n
  congr 1
  funext type
  by_cases hn : n.toNat < Attr.headerLength
  · simp only [if_pos hn, ofEStateM_bind]
    rfl
  · simp only [if_neg hn, sub?_of_le (Nat.not_lt.mp hn), filling_eq, check_some_bind,
      ofEStateM_bind]
    rfl

/-- All attributes up to the first that cannot be read, in at most so many rounds. -/
def readerAttrs : Nat → Guarded ReadFault Octets (List Attr)
  | 0 => check none
  | k + 1 => do
    if (← ofEStateM get).length < Attr.headerLength then return []
    match ← attempt readerAttr with
    | none => return []
    | some a => return a :: (← readerAttrs k)

theorem readerAttrs_eq {k : Nat} {d : Octets} (h : d.length / Attr.headerLength < k) :
    readerAttrs k d = some (Reader.attrs d) := by
  induction k generalizing d with
  | zero => exact absurd h (Nat.not_lt_zero _)
  | succ k ih =>
      change (if d.length < Attr.headerLength then pure [] else attempt readerAttr >>= fun
        | none => pure []
        | some a => readerAttrs k >>= fun as => pure (a :: as) : Guarded _ _ _) d = _
      rw [Reader.attrs]
      by_cases hd : d.length < Attr.headerLength
      · rw [if_pos hd, Reader.readAttrs_of_length_lt hd]
        rfl
      rw [if_neg hd, readerAttr_eq]
      cases ha : Reader.attr d with
      | error e r =>
          rw [Reader.readAttrs_of_error (Nat.not_lt.mp hd) ha]
          simp only [bind, attempt, ofEStateM, ha, Option.map_some]
          rfl
      | ok a r =>
          have hr := Reader.length_of_attr ha
          rw [Attr.headerLength] at h hr
          have hk : r.length / Attr.headerLength < k := by
            rw [Attr.headerLength]
            omega
          rw [Reader.readAttrs_of_ok ha]
          simp only [bind, attempt, ofEStateM, ha, Option.map_some, ih hk, Reader.attrs]
          rfl

end Guarded
end TrafficControl
