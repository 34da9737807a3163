import TrafficControl.Config.Builtin
import TrafficControl.Proofs.Guarded.Attrs
import TrafficControl.Stats

/-!
# Guarded reading of options and statistics

A structure of a fixed length is read from the front of a payload, and only where that is long
enough. Behind a policy it always is, so the built-in kinds and the statistics never meet a payload
that is too short for the structure they read in it.
-/
namespace TrafficControl

namespace Octets

def u64? (d : Octets) (i : Nat) : Option UInt64 :=
  (octets? d i 8).map fun e => UInt64.ofNat (natLE e)

def i32? (d : Octets) (i : Nat) : Option Int32 := (u32? d i).map (·.toInt32)

theorem u64?_of_le {d : Octets} {i : Nat} (h : i + 8 ≤ d.length) :
    u64? d i = some (u64At d i) := by
  rw [u64?, octets?_of_le h, Option.map_some, u64At]

theorem i32?_of_le {d : Octets} {i : Nat} (h : i + 4 ≤ d.length) :
    i32? d i = some (i32At d i) := by
  rw [i32?, u32?_of_le h, Option.map_some, i32At]

end Octets

def Params.read? (d : Octets) : Option Params := do
  return ⟨← d.u32? 0, ← d.u32? 4, ← d.i32? 8, ← d.i32? 12, ← d.i32? 16⟩

theorem Params.read?_of_le {d : Octets} (h : Params.length ≤ d.length) :
    Params.read? d = some (Params.read d) := by
  rw [Params.length] at h
  rw [read?, Octets.u32?_of_le (by omega), Octets.u32?_of_le (by omega),
    Octets.i32?_of_le (by omega), Octets.i32?_of_le (by omega), Octets.i32?_of_le (by omega)]
  rfl

namespace Guarded

variable {σ α : Type}

/-- A number of `k` octets at the front of a payload. -/
def number (k : Nat) (fault : AttrFault) (read? : Octets → Option α) (d : Octets) :
    Guarded Error σ α :=
  if d.length < k then ofExcept (.error (.invalidAttr fault)) else check (read? d)

theorem number_eq {k : Nat} {fault : AttrFault} {read? : Octets → Option α} {d : Octets} {a : α}
    (h : k ≤ d.length → read? d = some a) :
    (number k fault read? d : Guarded Error σ α) =
      ofExcept (if d.length < k then .error (.invalidAttr fault) else .ok a) := by
  by_cases hd : d.length < k
  · rw [number, if_pos hd, if_pos hd]
  · rw [number, if_neg hd, if_neg hd, h (Nat.not_lt.mp hd)]
    rfl

def u16 : Octets → Guarded Error σ UInt16 := number 2 .short16 (·.u16? 0)

def u16BE : Octets → Guarded Error σ UInt16 := number 2 .short16 (·.u16BE? 0)

def u32 : Octets → Guarded Error σ UInt32 := number 4 .short32 (·.u32? 0)

theorem u16_eq (d : Octets) : (u16 d : Guarded Error σ _) = ofExcept (Attr.toU16 d) :=
  number_eq fun h => Octets.u16?_of_le (by omega)

theorem u16BE_eq (d : Octets) : (u16BE d : Guarded Error σ _) = ofExcept (Attr.toU16BE d) :=
  number_eq fun h => Octets.u16BE?_of_le (by omega)

theorem u32_eq (d : Octets) : (u32 d : Guarded Error σ _) = ofExcept (Attr.toU32 d) :=
  number_eq fun h => Octets.u32?_of_le (by omega)

/-- The payload of a required attribute, with a structure of `k` octets at its front. -/
def structured (k : Nat) (name : String) : Option Octets → Guarded Error σ Octets
  | none => ofExcept (.error (.missingAttr name))
  | some d => if d.length < k then ofExcept (.error (.attrTooShort name k d.length)) else pure d

def required (t : Table) (i k : Nat) (name : String) : Guarded Error σ Octets := do
  structured k name (← check (t.slot? i))

/-- What a payload says, if there is one. -/
def optional (t : Table) (i : Nat) (f : Octets → Guarded Error σ α) :
    Guarded Error σ (Option α) := do
  (← check (t.slot? i)).mapM f

/-- A structure of `k` octets at the front of a payload, if that is there and long enough. -/
def structure? (t : Table) (i k : Nat) (read? : Octets → Option α) : Option (Option α) := do
  match ← t.slot? i with
  | none => return none
  | some d => if d.length < k then return none else return some (← read? d)

theorem checkedTable_bind {policy : Policy} {d : Octets} {f : Table → Guarded Error σ α}
    {g : Table → Except Error α}
    (h : ∀ t, Table.readChecked policy d = .ok t → f t = ofExcept (g t)) :
    checkedTable policy d >>= f = ofExcept (Table.readChecked policy d >>= g) := by
  rw [checkedTable_eq]
  cases ht : Table.readChecked policy d with
  | error e => rfl
  | ok t => exact h t ht

section Checked

variable {policy : Policy} {d : Octets} {t : Table} (h : Table.readChecked policy d = .ok t)
  {i : Nat}

include h

theorem slot?_of_readChecked (hi : i < policy.length) : t.slot? i = some (t.get i) :=
  Table.slot?_of_lt (by rwa [Table.length_slots_of_readChecked h])

theorem optional_eq (hi : i < policy.length) {f : Octets → Guarded Error σ α}
    {g : Octets → Except Error α} (hf : ∀ s, f s = ofExcept (g s)) :
    optional t i f = ofExcept ((t.get i).mapM g) := by
  rw [optional, slot?_of_readChecked h hi, check_some_bind]
  cases t.get i with
  | none => rfl
  | some s =>
      change f s >>= _ = ofExcept (g s >>= _)
      rw [hf]
      cases g s <;> rfl

variable {r : Rule} (hr : policy[i]? = some (some r))

include hr

theorem required_bind {name : String} {f : Octets → Guarded Error σ α}
    {g : Octets → Except Error α} (hf : ∀ s : Octets, r.minLength ≤ s.length → f s = ofExcept (g s)) :
    required t i r.minLength name >>= f = ofExcept (t.require i name >>= g) := by
  rw [required, slot?_of_readChecked h (List.getElem?_eq_some_iff.mp hr).1, check_some_bind,
    Table.require]
  cases ht : t.get i with
  | none => rfl
  | some s =>
      have hs := Table.le_length_of_readChecked h hr ht
      rw [structured, if_neg (Nat.not_lt.mpr hs), pure_bind, hf s hs]
      rfl

theorem structure?_eq {read? : Octets → Option α} {read : Octets → α}
    (hread : ∀ s : Octets, r.minLength ≤ s.length → read? s = some (read s)) :
    structure? t i r.minLength read? = some ((t.get i).map read) := by
  rw [structure?, slot?_of_readChecked h (List.getElem?_eq_some_iff.mp hr).1]
  cases ht : t.get i with
  | none => rfl
  | some s =>
      have hs := Table.le_length_of_readChecked h hr ht
      change (if s.length < r.minLength then _ else read? s >>= fun a => pure (some a)) = _
      rw [if_neg (Nat.not_lt.mpr hs), hread s hs]
      rfl

end Checked

def gact (d : Octets) : Guarded Error σ Gact := do
  let t ← checkedTable Gact.policy d
  let p ← check (Params.read? (← required t Gact.paramsType.toNat Params.length "TCA_GACT_PARMS"))
  let g := (Gact.new p.verdict).withIndex p.index
  match ← check (t.slot? Gact.shareType.toNat) with
  | none => return g
  | some s =>
    let s ← structured 8 "TCA_GACT_PROB" (some s)
    return { g with
      mode := ← check (s.u16? 0), share := ← check (s.u16? 2), other := ← check (s.i32? 4) }

theorem gact_eq (d : Octets) : (gact d : Guarded Error σ Gact) = ofExcept (Gact.parse d) := by
  refine checkedTable_bind fun t ht => ?_
  refine required_bind ht (r := ⟨"TCA_GACT_PARMS", Params.length⟩) rfl fun s hs => ?_
  rw [Params.read?_of_le hs, check_some_bind, slot?_of_readChecked ht (by decide), check_some_bind]
  cases hshare : t.get Gact.shareType.toNat with
  | none => rfl
  | some s =>
      have hs : 8 ≤ s.length :=
        Table.le_length_of_readChecked ht (r := ⟨"TCA_GACT_PROB", 8⟩) rfl hshare
      dsimp only
      rw [structured, if_neg (Nat.not_lt.mpr hs), pure_bind, Octets.u16?_of_le (by omega),
        Octets.u16?_of_le (by omega), Octets.i32?_of_le (by omega)]
      rfl

def mirred (d : Octets) : Guarded Error σ Mirred := do
  let t ← checkedTable Mirred.policy d
  let s ← required t Mirred.paramsType.toNat 28 "TCA_MIRRED_PARMS"
  let p ← check (Params.read? s)
  return ⟨p.index, ← check (s.i32? 20), ← check (s.u32? 24), p.verdict⟩

theorem mirred_eq (d : Octets) :
    (mirred d : Guarded Error σ Mirred) = ofExcept (Mirred.parse d) := by
  refine checkedTable_bind fun t ht => ?_
  refine required_bind ht (r := ⟨"TCA_MIRRED_PARMS", 28⟩) rfl fun s hs => ?_
  dsimp only at hs
  rw [Params.read?_of_le (Nat.le_trans (by decide) hs), Octets.i32?_of_le (by omega),
    Octets.u32?_of_le (by omega)]
  rfl

def skbedit (d : Octets) : Guarded Error σ Skbedit := do
  let t ← checkedTable Skbedit.policy d
  let p ← check (Params.read?
    (← required t Skbedit.paramsType.toNat Params.length "TCA_SKBEDIT_PARMS"))
  return {
    index := p.index
    verdict := p.verdict
    queue := ← optional t Skbedit.queueType.toNat u16
    priority := ← optional t Skbedit.priorityType.toNat u32
    mark := ← optional t Skbedit.markType.toNat u32
    mask := ← optional t Skbedit.maskType.toNat u32 }

theorem skbedit_eq (d : Octets) :
    (skbedit d : Guarded Error σ Skbedit) = ofExcept (Skbedit.parse d) := by
  refine checkedTable_bind fun t ht => ?_
  refine required_bind ht (r := ⟨"TCA_SKBEDIT_PARMS", Params.length⟩) rfl fun s hs => ?_
  rw [Params.read?_of_le hs, check_some_bind, optional_eq ht (by decide) u16_eq,
    optional_eq ht (by decide) u32_eq, optional_eq ht (by decide) u32_eq,
    optional_eq ht (by decide) u32_eq]
  simp only [ofExcept_bind]
  rfl

def vlan (d : Octets) : Guarded Error σ Vlan := do
  let t ← checkedTable Vlan.policy d
  let s ← required t Vlan.paramsType.toNat 24 "TCA_VLAN_PARMS"
  let p ← check (Params.read? s)
  return {
    index := p.index
    operation := ← check (s.i32? 20)
    id := ← optional t Vlan.idType.toNat u16
    priority := ← optional t Vlan.priorityType.toNat fun d => ofExcept (Attr.toU8 d)
    protocol := (← optional t Vlan.protocolType.toNat u16BE).getD Vlan.plainProtocol
    verdict := p.verdict }

theorem vlan_eq (d : Octets) : (vlan d : Guarded Error σ Vlan) = ofExcept (Vlan.parse d) := by
  refine checkedTable_bind fun t ht => ?_
  refine required_bind ht (r := ⟨"TCA_VLAN_PARMS", 24⟩) rfl fun s hs => ?_
  dsimp only at hs
  rw [Params.read?_of_le (Nat.le_trans (by decide) hs), check_some_bind,
    Octets.i32?_of_le (by omega), check_some_bind, optional_eq ht (by decide) u16_eq,
    optional_eq ht (by decide) fun _ => rfl, optional_eq ht (by decide) u16BE_eq]
  simp only [ofExcept_bind]
  rfl

/-- A counter of 32 bits. -/
def narrow? (i : Nat) (s : Octets) : Option UInt64 := (s.u32? i).map (·.toUInt64)

theorem narrow?_of_le {i : Nat} {s : Octets} (h : i + 4 ≤ s.length) :
    narrow? i s = some (s.u32At i).toUInt64 := by
  rw [narrow?, Octets.u32?_of_le h, Option.map_some]

/-- Two counters in a structure. -/
def pair? (m n : Octets → Option UInt64) (s : Octets) : Option (UInt64 × UInt64) := do
  return (← m s, ← n s)

theorem pair?_eq {m n : Octets → Option UInt64} {s : Octets} {a b : UInt64} (hm : m s = some a)
    (hn : n s = some b) : pair? m n s = some (a, b) := by
  rw [pair?, hm, hn]
  rfl

def stats (d : Octets) : Guarded Error σ Stats := do
  let t ← checkedTable Stats.policy d
  let basic ← check (structure? t Stats.basicType 12 (pair? (·.u64? 0) (narrow? 8)))
  let wide ← check (structure? t Stats.rate64Type 16 (pair? (·.u64? 0) (·.u64? 8)))
  let rate ← match wide with
    | some r => pure (some r)
    | none => check (structure? t Stats.rateType 8 (pair? (narrow? 0) (narrow? 4)))
  let queue ← check (structure? t Stats.queueType 20 (pair? (narrow? 8) (narrow? 16)))
  return { basic, rate, queue }

theorem stats_eq (d : Octets) : (stats d : Guarded Error σ Stats) = ofExcept (Stats.decode d) := by
  refine checkedTable_bind fun t ht => ?_
  have hbasic := structure?_eq ht (i := Stats.basicType) (r := ⟨"TCA_STATS_BASIC", 12⟩) rfl
    fun s hs => pair?_eq (m := (·.u64? 0)) (Octets.u64?_of_le (Nat.le_trans (by decide) hs))
      (narrow?_of_le (i := 8) hs)
  have hwide := structure?_eq ht (i := Stats.rate64Type) (r := ⟨"TCA_STATS_RATE_EST64", 16⟩) rfl
    fun s hs => pair?_eq (m := (·.u64? 0)) (n := (·.u64? 8))
      (Octets.u64?_of_le (Nat.le_trans (by decide) hs)) (Octets.u64?_of_le hs)
  have hrate := structure?_eq ht (i := Stats.rateType) (r := ⟨"TCA_STATS_RATE_EST", 8⟩) rfl
    fun s hs => pair?_eq (narrow?_of_le (i := 0) (Nat.le_trans (by decide) hs))
      (narrow?_of_le (i := 4) hs)
  have hqueue := structure?_eq ht (i := Stats.queueType) (r := ⟨"TCA_STATS_QUEUE", 20⟩) rfl
    fun s hs => pair?_eq (narrow?_of_le (i := 8) (Nat.le_trans (by decide) hs))
      (narrow?_of_le (i := 16) hs)
  dsimp only at hbasic hwide hrate hqueue
  rw [hbasic, check_some_bind, hwide, check_some_bind, hrate, hqueue]
  simp only [Stats.ofTable]
  cases t.get Stats.rate64Type <;> rfl

end Guarded
end TrafficControl
