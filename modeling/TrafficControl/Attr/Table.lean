import TrafficControl.Attr.Basic

/-!
# Tables of attributes

A table keeps one payload for each type below its size: the last one read. A policy asks for a
least payload length, type by type. Main statements: a look-up is the last occurrence
(`get_read`), and a checked table is the plain one (`read_of_readChecked`).
-/
namespace TrafficControl

/-- The last payload of each type below the size. -/
structure Table where
  slots : List (Option Octets)
deriving DecidableEq, Repr

namespace Table

def empty (n : Nat) : Table := ⟨List.replicate n none⟩

/-- The table after one more attribute; a type at or above the size changes nothing. -/
def put (t : Table) (a : Attr) : Table := ⟨t.slots.set a.type.toNat (some a.payload)⟩

/-- The table of the attributes in `d` with types below `n`. -/
def read (n : Nat) (d : Octets) : Table := (Attr.list d).foldl put (empty n)

def get (t : Table) (type : Nat) : Option Octets := t.slots[type]?.join

@[simp] theorem length_put (t : Table) (a : Attr) : (t.put a).slots.length = t.slots.length := by
  simp [put]

theorem get_put (t : Table) (a : Attr) (i : Nat) :
    (t.put a).get i =
      if a.type.toNat = i ∧ i < t.slots.length then some a.payload else t.get i := by
  simp only [get, put, List.getElem?_set]
  by_cases h : a.type.toNat = i
  · by_cases h' : i < t.slots.length <;> simp [h, h']
  · simp [h]

@[simp] theorem get_empty (n i : Nat) : (empty n).get i = none := by
  by_cases h : i < n <;> simp [get, empty, h]

def last? (type : Nat) (as : List Attr) : Option Octets :=
  (as.reverse.find? (·.type.toNat = type)).map (·.payload)

theorem get_foldl_put (t : Table) (as : List Attr) (i : Nat) (h : i < t.slots.length) :
    (as.foldl put t).get i = (last? i as).or (t.get i) := by
  induction as generalizing t with
  | nil => simp [last?]
  | cons a as ih =>
    rw [List.foldl_cons, ih (t.put a) (by simpa using h), get_put]
    simp only [last?, List.reverse_cons, List.find?_append]
    cases as.reverse.find? (·.type.toNat = i) with
    | some b => simp
    | none => by_cases ha : a.type.toNat = i <;> simp [ha, h]

@[simp] theorem length_slots_read (n : Nat) (d : Octets) : (read n d).slots.length = n := by
  have h (as : List Attr) (t : Table) : (as.foldl put t).slots.length = t.slots.length := by
    induction as generalizing t with
    | nil => rfl
    | cons a as ih => rw [List.foldl_cons, ih, length_put]
  rw [read, h, empty, List.length_replicate]

/-- A look-up below the size gives the last occurrence. -/
theorem get_read {n i : Nat} (d : Octets) (h : i < n) :
    (read n d).get i = last? i (Attr.list d) := by
  rw [read, get_foldl_put _ _ _ (by simpa [empty] using h), get_empty, Option.or_none]

end Table

/-- What is asked of the attributes of one type. -/
structure Rule where
  name : String
  /-- The least payload length. -/
  minLength : Nat
deriving DecidableEq, Repr

def Rule.check (r : Rule) (payload : Octets) : Except Error Unit :=
  if payload.length < r.minLength then
    .error (.attrTooShort r.name r.minLength payload.length)
  else .ok ()

/-- The rules for the types 0, 1, 2, … -/
abbrev Policy := List (Option Rule)

/-- The policy for `n` types with these rules; a later rule for a type replaces an earlier one. -/
def Policy.ofRules (n : Nat) (rules : List (Nat × Rule)) : Policy :=
  rules.foldl (fun p r => p.set r.1 (some r.2)) (List.replicate n none)

namespace Table

/-- Fails with the lowest type whose payload breaks its rule. -/
def check : Policy → List (Option Octets) → Except Error Unit
  | some r :: policy, some d :: slots => do
    r.check d
    check policy slots
  | _ :: policy, _ :: slots => check policy slots
  | _, _ => .ok ()

/-- The table of the attributes in `d` whose types the policy covers, when every payload in it
obeys its rule. -/
def readChecked (policy : Policy) (d : Octets) : Except Error Table := do
  let t := read policy.length d
  check policy t.slots
  return t

theorem read_of_readChecked {policy : Policy} {d : Octets} {t : Table}
    (h : readChecked policy d = .ok t) : t = read policy.length d := by
  simp only [readChecked] at h
  cases hc : check policy (read policy.length d).slots with
  | error e => simp [hc, bind, Except.bind] at h
  | ok u => simpa [hc, bind, Except.bind, pure, Except.pure] using h.symm

/-- The payload of a required type. -/
def require (t : Table) (type : Nat) (name : String) : Except Error Octets :=
  match t.get type with
  | some d => .ok d
  | none => .error (.missingAttr name)

end Table
end TrafficControl
