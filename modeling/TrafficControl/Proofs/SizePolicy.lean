import Mathlib.Data.List.Induction
import TrafficControl.Config.Builtin
import TrafficControl.Stats

/-!
# Size rules

A policy asks for a least length of the payloads of some types. It is asked of a table, and a table
keeps only the last attribute of each type. So a payload that is too short fails the reading when no
attribute of its type comes behind it, and otherwise nobody notices it. Of several types that break
their rules the lowest one is reported.
-/
namespace TrafficControl

namespace Policy

theorem getElem?_foldl_set {policy : Policy} {rules : List (Nat × Rule)} {i : Nat} {r : Rule}
    (h : (rules.foldl (fun p r => p.set r.1 (some r.2)) policy)[i]? = some (some r)) :
    (i, r) ∈ rules ∨ policy[i]? = some (some r) := by
  induction rules generalizing policy with
  | nil => exact .inr h
  | cons e rules ih =>
      rcases ih h with he | he
      · exact .inl (List.mem_cons_of_mem e he)
      · rw [List.getElem?_set] at he
        split at he
        · rename_i hi
          split at he
          · simp only [Option.some.injEq] at he
            exact .inl (by rw [← hi, ← he]; exact List.mem_cons_self)
          · simp at he
        · exact .inr he

theorem mem_of_getElem?_ofRules {n i : Nat} {rules : List (Nat × Rule)} {r : Rule}
    (h : (ofRules n rules)[i]? = some (some r)) : (i, r) ∈ rules := by
  rcases getElem?_foldl_set h with h | h
  · exact h
  · simp [List.getElem?_replicate] at h

@[simp] theorem length_ofRules (n : Nat) (rules : List (Nat × Rule)) :
    (ofRules n rules).length = n := by
  have h (p : Policy) : (rules.foldl (fun p r => p.set r.1 (some r.2)) p).length = p.length := by
    induction rules generalizing p with
    | nil => rfl
    | cons e rules ih => rw [List.foldl_cons, ih, List.length_set]
  rw [ofRules, h, List.length_replicate]

end Policy

namespace Table

variable {policy : Policy} {slots : List (Option Octets)}

/-- The payload at `i` is shorter than its rule asks. -/
structure IsShortAt (policy : Policy) (slots : List (Option Octets)) (i : Nat) (r : Rule)
    (p : Octets) : Prop where
  rule : policy[i]? = some (some r)
  slot : slots[i]? = some (some p)
  lt : p.length < r.minLength

theorem check_cons_of_lt {r : Rule} {p : Octets} (policy : Policy)
    (slots : List (Option Octets)) (h : p.length < r.minLength) :
    check (some r :: policy) (some p :: slots) =
      .error (.attrTooShort r.name r.minLength p.length) := by
  rw [check, Rule.check, if_pos h]
  rfl

/-- A type without a rule or a payload is passed over, and so is a payload that obeys its rule. -/
theorem check_cons_of_le {rule : Option Rule} {slot : Option Octets} (policy : Policy)
    (slots : List (Option Octets)) (h : ∀ r ∈ rule, ∀ p ∈ slot, r.minLength ≤ p.length) :
    check (rule :: policy) (slot :: slots) = check policy slots := by
  cases rule with
  | none => rfl
  | some r =>
      cases slot with
      | none => rfl
      | some p =>
          rw [check, Rule.check, if_neg (Nat.not_lt.mpr (h r rfl p rfl))]
          rfl

/-- What the check says: nothing, or the first payload that is too short. -/
inductive Checked (policy : Policy) (slots : List (Option Octets)) : Except Error Unit → Prop where
  | ok (h : ∀ i r p, ¬ IsShortAt policy slots i r p) : Checked policy slots (.ok ())
  | short {i : Nat} {r : Rule} {p : Octets} (h : IsShortAt policy slots i r p)
      (hmin : ∀ j s q, IsShortAt policy slots j s q → i ≤ j) :
      Checked policy slots (.error (.attrTooShort r.name r.minLength p.length))

theorem Checked.cons {rule : Option Rule} {slot : Option Octets} {x : Except Error Unit}
    (hle : ∀ r ∈ rule, ∀ p ∈ slot, r.minLength ≤ p.length) (h : Checked policy slots x) :
    Checked (rule :: policy) (slot :: slots) x := by
  have hzero (r : Rule) (p : Octets) : ¬ IsShortAt (rule :: policy) (slot :: slots) 0 r p :=
    fun h => absurd h.lt
      (Nat.not_lt.mpr (hle r (Option.some.inj h.rule) p (Option.some.inj h.slot)))
  cases h with
  | ok h =>
      refine .ok fun i r p hi => ?_
      cases i with
      | zero => exact hzero r p hi
      | succ i => exact h i r p ⟨hi.rule, hi.slot, hi.lt⟩
  | @short i r p h hmin =>
      have hnext : IsShortAt (rule :: policy) (slot :: slots) (i + 1) r p := ⟨h.rule, h.slot, h.lt⟩
      refine .short hnext fun j s q hj => ?_
      cases j with
      | zero => exact absurd hj (hzero s q)
      | succ j => exact Nat.succ_le_succ (hmin j s q ⟨hj.rule, hj.slot, hj.lt⟩)

theorem checked_check (policy : Policy) (slots : List (Option Octets)) :
    Checked policy slots (check policy slots) := by
  induction policy generalizing slots with
  | nil => exact .ok fun i r p h => by cases h.rule
  | cons rule policy ih =>
      cases slots with
      | nil =>
          have hc : check (rule :: policy) [] = .ok () := by cases rule <;> rfl
          rw [hc]
          exact .ok fun i r p h => by cases h.slot
      | cons slot slots =>
          by_cases hle : ∀ r ∈ rule, ∀ p ∈ slot, r.minLength ≤ p.length
          · rw [check_cons_of_le policy slots hle]
            exact (ih slots).cons hle
          · simp only [not_forall, Nat.not_le] at hle
            obtain ⟨r, rfl, p, rfl, hlt⟩ := hle
            rw [check_cons_of_lt policy slots hlt]
            exact .short ⟨rfl, rfl, hlt⟩ fun j s q _ => Nat.zero_le j

theorem check_eq_ok_iff :
    check policy slots = .ok () ↔ ∀ i r p, ¬ IsShortAt policy slots i r p := by
  have hc := checked_check policy slots
  generalize check policy slots = x at hc
  cases hc with
  | ok h => exact ⟨fun _ => h, fun _ => rfl⟩
  | short h hmin =>
      constructor
      · intro hx
        cases hx
      · intro hx
        exact absurd h (hx _ _ _)

/-- The check reports the lowest place that breaks its rule. -/
theorem check_eq_error_iff {e : Error} : check policy slots = .error e ↔
    ∃ i r p, IsShortAt policy slots i r p ∧ (∀ j s q, IsShortAt policy slots j s q → i ≤ j) ∧
      e = .attrTooShort r.name r.minLength p.length := by
  have hc := checked_check policy slots
  generalize check policy slots = x at hc
  cases hc with
  | ok h =>
      constructor
      · intro hx
        cases hx
      · intro hx
        obtain ⟨i, r, p, hi, -⟩ := hx
        exact absurd hi (h i r p)
  | @short i r p h hmin =>
      constructor
      · intro hx
        exact ⟨i, r, p, h, hmin, (Except.error.inj hx).symm⟩
      · intro hx
        obtain ⟨j, s, q, hj, hjmin, rfl⟩ := hx
        obtain rfl : i = j := Nat.le_antisymm (hmin j s q hj) (hjmin i r p h)
        obtain rfl : r = s := Option.some.inj (Option.some.inj (h.rule.symm.trans hj.rule))
        obtain rfl : p = q := Option.some.inj (Option.some.inj (h.slot.symm.trans hj.slot))
        rfl

end Table

namespace Attr

/-- No attribute of its type comes behind it. -/
def IsLastIn (as : List Attr) (a : Attr) : Prop :=
  ∃ before after, as = before ++ a :: after ∧ ∀ b ∈ after, b.type ≠ a.type

theorem IsLastIn.mem {as : List Attr} {a : Attr} (h : a.IsLastIn as) : a ∈ as := by
  obtain ⟨before, after, rfl, -⟩ := h
  exact List.mem_append_right before List.mem_cons_self

/-- Its payload is shorter than the rule for its type asks. -/
structure IsShort (policy : Policy) (r : Rule) (a : Attr) : Prop where
  rule : policy[a.type.toNat]? = some (some r)
  lt : a.payload.length < r.minLength

instance (policy : Policy) (a : Attr) : Decidable (∀ r, ¬ a.IsShort policy r) :=
  decidable_of_iff (∀ r ∈ (policy[a.type.toNat]?).join, r.minLength ≤ a.payload.length)
    ⟨fun h r hr => Nat.not_lt.mpr (h r (Option.join_eq_some_iff.mpr hr.rule)) hr.lt,
      fun h r hr => Nat.le_of_not_lt fun hlt => h r ⟨Option.join_eq_some_iff.mp hr, hlt⟩⟩

/-- No last attribute is too short. -/
def Admitted (policy : Policy) (as : List Attr) : Prop :=
  ∀ (a : Attr) (r : Rule), a.IsLastIn as → ¬ a.IsShort policy r

/-- No attribute is too short, not even one that another of its type comes behind. -/
def AllLong (policy : Policy) (as : List Attr) : Prop := ∀ a ∈ as, ∀ r, ¬ a.IsShort policy r

instance (policy : Policy) (as : List Attr) : Decidable (AllLong policy as) :=
  inferInstanceAs (Decidable (∀ a ∈ as, ∀ r, ¬ a.IsShort policy r))

theorem AllLong.admitted {policy : Policy} {as : List Attr} (h : AllLong policy as) :
    Admitted policy as :=
  fun a r ha => h a ha.mem r

theorem IsShort.mem {n : Nat} {rules : List (Nat × Rule)} {r : Rule} {a : Attr}
    (h : a.IsShort (.ofRules n rules) r) : (a.type.toNat, r) ∈ rules :=
  Policy.mem_of_getElem?_ofRules h.rule

theorem le_length_of_not_isShort {policy : Policy} {r : Rule} {a : Attr} {type : UInt16}
    (h : ¬ a.IsShort policy r) (ht : a.type = type)
    (hr : policy[type.toNat]? = some (some r)) : r.minLength ≤ a.payload.length :=
  Nat.le_of_not_lt fun hlt => h ⟨ht ▸ hr, hlt⟩

end Attr

namespace Table

theorem last?_eq_some_iff {i : Nat} {as : List Attr} {p : Octets} :
    last? i as = some p ↔ ∃ a : Attr, a.IsLastIn as ∧ a.type.toNat = i ∧ a.payload = p := by
  simp only [last?, Option.map_eq_some_iff, List.find?_eq_some_iff_append, decide_eq_true_eq,
    Bool.not_eq_eq_eq_not, Bool.not_true, decide_eq_false_iff_not]
  constructor
  · intro h
    obtain ⟨a, ⟨ha, before, after, hsplit, hbefore⟩, hp⟩ := h
    have has : as = after.reverse ++ a :: before.reverse := by
      rw [← List.reverse_reverse as, hsplit]
      simp
    refine ⟨a, ⟨_, _, has, fun b hb hba => ?_⟩, ha, hp⟩
    exact hbefore b (List.mem_reverse.mp hb) (hba ▸ ha)
  · intro h
    obtain ⟨a, ⟨before, after, has, hafter⟩, ha, hp⟩ := h
    refine ⟨a, ⟨ha, after.reverse, before.reverse, ?_, fun b hb hba => ?_⟩, hp⟩
    · rw [has]
      simp
    · exact hafter b (List.mem_reverse.mp hb) (UInt16.toNat_inj.mp (hba.trans ha.symm))

theorem forall_mem_last?_iff {type : UInt16} {as : List Attr} {P : Octets → Prop} :
    (∀ p ∈ last? type.toNat as, P p) ↔
      ∀ a : Attr, a.IsLastIn as → a.type = type → P a.payload := by
  simp only [Option.mem_def, last?_eq_some_iff, UInt16.toNat_inj]
  constructor
  · intro h a ha ht
    exact h _ ⟨a, ha, ht, rfl⟩
  · rintro h p ⟨a, ha, ht, rfl⟩
    exact h a ha ht

/-- The last payload of a type is as long as its rule asks. -/
theorem le_length_of_last? {policy : Policy} {as : List Attr} (h : Attr.Admitted policy as)
    {i : Nat} {r : Rule} (hr : policy[i]? = some (some r)) {p : Octets} (hp : last? i as = some p) :
    r.minLength ≤ p.length := by
  obtain ⟨a, ha, rfl, rfl⟩ := last?_eq_some_iff.mp hp
  exact Attr.le_length_of_not_isShort (h a r ha) rfl hr

theorem isSome_last?_iff {i : Nat} {as : List Attr} :
    (last? i as).isSome ↔ ∃ a ∈ as, a.type.toNat = i := by
  simp [last?, List.find?_isSome]

/-- A table finds the last attribute of a type. -/
theorem get_read_of_isLastIn {n : Nat} {d : Octets} {a : Attr} {type : UInt16}
    (ha : a.IsLastIn (Attr.list d)) (ht : a.type = type) (hn : type.toNat < n) :
    (read n d).get type.toNat = some a.payload := by
  rw [get_read d hn]
  exact last?_eq_some_iff.mpr ⟨a, ha, congrArg UInt16.toNat ht, rfl⟩

theorem isSome_get_read_iff {n : Nat} (d : Octets) (type : UInt16) (hn : type.toNat < n) :
    ((read n d).get type.toNat).isSome ↔ ∃ a ∈ Attr.list d, a.type = type := by
  rw [get_read d hn, isSome_last?_iff]
  simp only [UInt16.toNat_inj]

theorem slots_read (n : Nat) (d : Octets) :
    (read n d).slots = (List.range n).map fun i => last? i (Attr.list d) := by
  apply List.ext_getElem?
  intro i
  by_cases h : i < n
  · have hlt : i < (read n d).slots.length := by rwa [length_slots_read]
    have hget := get_read d h
    rw [get, List.getElem?_eq_getElem hlt, Option.join_some] at hget
    rw [List.getElem?_eq_getElem hlt, hget]
    simp [h]
  · rw [List.getElem?_eq_none, List.getElem?_eq_none] <;> simp <;> omega

section Read

variable {policy : Policy} {d : Octets}

/-- What breaks a rule in the table of some octets is a last attribute. -/
theorem isShortAt_read_iff {i : Nat} {r : Rule} {p : Octets} :
    IsShortAt policy (read policy.length d).slots i r p ↔
      ∃ a : Attr, a.IsLastIn (Attr.list d) ∧ a.IsShort policy r ∧ a.type.toNat = i ∧
        a.payload = p := by
  have hslot (hi : i < policy.length) : (read policy.length d).slots[i]? = some (some p) ↔
      last? i (Attr.list d) = some p := by
    rw [slots_read, List.getElem?_map, List.getElem?_range hi, Option.map_some, Option.some_inj]
  constructor
  · intro h
    have hi := (List.getElem?_eq_some_iff.mp h.rule).1
    obtain ⟨a, ha, rfl, rfl⟩ := last?_eq_some_iff.mp ((hslot hi).mp h.slot)
    exact ⟨a, ha, ⟨h.rule, h.lt⟩, rfl, rfl⟩
  · intro h
    obtain ⟨a, ha, hr, rfl, rfl⟩ := h
    have hi := (List.getElem?_eq_some_iff.mp hr.rule).1
    exact ⟨hr.rule, (hslot hi).mpr (last?_eq_some_iff.mpr ⟨a, ha, rfl, rfl⟩), hr.lt⟩

theorem readChecked_eq (policy : Policy) (d : Octets) : readChecked policy d =
    (check policy (read policy.length d).slots).map fun _ => read policy.length d := by
  rw [readChecked]
  cases check policy (read policy.length d).slots <;> rfl

theorem readChecked_eq_ok_iff {t : Table} : readChecked policy d = .ok t ↔
    Attr.Admitted policy (Attr.list d) ∧ t = read policy.length d := by
  have hok : check policy (read policy.length d).slots = .ok () ↔
      Attr.Admitted policy (Attr.list d) := by
    rw [check_eq_ok_iff]
    constructor
    · intro h a r ha hr
      exact h _ r _ (isShortAt_read_iff.mpr ⟨a, ha, hr, rfl, rfl⟩)
    · intro h i r p hi
      obtain ⟨a, ha, hr, -⟩ := isShortAt_read_iff.mp hi
      exact h a r ha hr
  rw [← hok, readChecked_eq]
  cases check policy (read policy.length d).slots with
  | error e => simp [Except.map]
  | ok u => simp [Except.map, eq_comm]

theorem readChecked_eq_error_iff {e : Error} : readChecked policy d = .error e ↔
    ∃ (a : Attr) (r : Rule), a.IsLastIn (Attr.list d) ∧ a.IsShort policy r ∧
      (∀ (b : Attr) (s : Rule), b.IsLastIn (Attr.list d) → b.IsShort policy s → a.type ≤ b.type) ∧
      e = .attrTooShort r.name r.minLength a.payload.length := by
  have herror : readChecked policy d = .error e ↔
      check policy (read policy.length d).slots = .error e := by
    rw [readChecked_eq]
    cases check policy (read policy.length d).slots <;> simp [Except.map]
  rw [herror, check_eq_error_iff]
  constructor
  · intro h
    obtain ⟨i, r, p, hi, hmin, he⟩ := h
    obtain ⟨a, ha, hr, rfl, rfl⟩ := isShortAt_read_iff.mp hi
    refine ⟨a, r, ha, hr, fun b s hb hs => ?_, he⟩
    exact hmin _ s _ (isShortAt_read_iff.mpr ⟨b, hb, hs, rfl, rfl⟩)
  · intro h
    obtain ⟨a, r, ha, hr, hmin, he⟩ := h
    refine ⟨_, r, _, isShortAt_read_iff.mpr ⟨a, ha, hr, rfl, rfl⟩, fun j s q hj => ?_, he⟩
    obtain ⟨b, hb, hs, rfl, rfl⟩ := isShortAt_read_iff.mp hj
    exact hmin b s hb hs

theorem admitted_of_bind {α : Type} {f : Table → Except Error α} {x : α}
    (h : readChecked policy d >>= f = .ok x) : Attr.Admitted policy (Attr.list d) := by
  cases ht : readChecked policy d with
  | error e =>
      rw [ht] at h
      cases h
  | ok t => exact (readChecked_eq_ok_iff.mp ht).1

/-- A policy is asked of the last attribute of each type. When all of them obey their rules the
table holds their payloads, and otherwise the lowest type that breaks its rule is reported. So
neither the statistics nor the options of a built-in kind are ever read with a last attribute that
is too short. -/
theorem readChecked_asks_last (policy : Policy) (d : Octets) :
    (∀ t, readChecked policy d = .ok t ↔ Attr.Admitted policy (Attr.list d) ∧
        t.slots = (List.range policy.length).map fun i => last? i (Attr.list d)) ∧
    (∀ e, readChecked policy d = .error e ↔
      ∃ (a : Attr) (r : Rule), a.IsLastIn (Attr.list d) ∧ a.IsShort policy r ∧
        (∀ (b : Attr) (s : Rule), b.IsLastIn (Attr.list d) → b.IsShort policy s →
          a.type ≤ b.type) ∧
        e = .attrTooShort r.name r.minLength a.payload.length) ∧
    (∀ s, Stats.decode d = .ok s → Attr.Admitted Stats.policy (Attr.list d)) ∧
    (∀ g, Gact.parse d = .ok g → Attr.Admitted Gact.policy (Attr.list d)) ∧
    (∀ m, Mirred.parse d = .ok m → Attr.Admitted Mirred.policy (Attr.list d)) ∧
    (∀ s, Skbedit.parse d = .ok s → Attr.Admitted Skbedit.policy (Attr.list d)) ∧
    ∀ v, Vlan.parse d = .ok v → Attr.Admitted Vlan.policy (Attr.list d) := by
  refine ⟨fun t => ?_, fun e => readChecked_eq_error_iff, fun _ => admitted_of_bind,
    fun _ => admitted_of_bind, fun _ => admitted_of_bind, fun _ => admitted_of_bind,
    fun _ => admitted_of_bind⟩
  rw [readChecked_eq_ok_iff, ← slots_read]
  refine and_congr_right fun _ => ⟨fun ht => by rw [ht], fun ht => ?_⟩
  cases t
  exact congrArg Table.mk ht

/-- A short payload behind a long one of its type is reported; statistics with a long payload behind
a short one are read. -/
theorem readChecked_asks_last_of_repeated :
    (∃ (a : Attr) (r : Rule),
      a.IsLastIn (Attr.list [8, 0, 1, 0, 1, 1, 1, 1, 5, 0, 1, 0, 0, 0, 0, 0]) ∧
        a.IsShort [none, some ⟨"TEST_A", 4⟩] r ∧ r.name = "TEST_A" ∧ a.payload.length = 1) ∧
    Attr.Admitted Stats.policy
      (Attr.list [4, 0, 1, 0, 16, 0, 1, 0, 5, 0, 0, 0, 0, 0, 0, 0, 6, 0, 0, 0]) := by
  have hshort : readChecked [none, some ⟨"TEST_A", 4⟩]
      [8, 0, 1, 0, 1, 1, 1, 1, 5, 0, 1, 0, 0, 0, 0, 0] = .error (.attrTooShort "TEST_A" 4 1) := by
    decide +kernel
  have hstats : Stats.decode [4, 0, 1, 0, 16, 0, 1, 0, 5, 0, 0, 0, 0, 0, 0, 0, 6, 0, 0, 0] =
      .ok { basic := some (5, 6) } := by decide +kernel
  obtain ⟨a, r, ha, hr, -, he⟩ := ((readChecked_asks_last _ _).2.1 _).mp hshort
  injection he with hname _ hlength
  exact ⟨⟨a, r, ha, hr, hname.symm, hlength.symm⟩,
    (readChecked_asks_last Stats.policy _).2.2.1 _ hstats⟩

/-- A payload that is too short is not noticed when one that is long enough comes behind it: neither
by a table with one rule nor by the statistics. -/
theorem exists_readChecked_of_isShort :
    (∃ (policy : Policy) (d : Octets) (a : Attr) (r : Rule) (t : Table), a ∈ Attr.list d ∧
      a.IsShort policy r ∧ readChecked policy d = .ok t) ∧
    ∃ (d : Octets) (a : Attr) (r : Rule) (s : Stats), a ∈ Attr.list d ∧
      a.IsShort Stats.policy r ∧ Stats.decode d = .ok s := by
  refine ⟨⟨[none, some ⟨"TEST_A", 8⟩, none, none],
    [8, 0, 1, 0, 0, 0, 0, 0, 12, 0, 1, 0, 1, 1, 1, 1, 1, 1, 1, 1],
    ⟨1, [0, 0, 0, 0]⟩, ⟨"TEST_A", 8⟩, ⟨[none, some [1, 1, 1, 1, 1, 1, 1, 1], none, none]⟩, ?_⟩,
    ⟨[4, 0, 1, 0, 16, 0, 1, 0, 5, 0, 0, 0, 0, 0, 0, 0, 6, 0, 0, 0],
    ⟨1, []⟩, ⟨"TCA_STATS_BASIC", 12⟩, { basic := some (5, 6) }, ?_⟩⟩
  · exact ⟨by decide +kernel, ⟨rfl, by decide⟩, by decide +kernel⟩
  · exact ⟨by decide +kernel, ⟨rfl, by decide⟩, by decide +kernel⟩

end Read

end Table
end TrafficControl
