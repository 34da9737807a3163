import TrafficControl.Proofs.WrittenAttr
import TrafficControl.Proofs.SizePolicy

/-!
# Reading options

The options of a built-in kind are read from the last attribute of each type that the kind knows,
and there from fixed places. Nothing else counts: no other attribute, no flag of a type, no order,
nothing behind the places that are read. The parameters have to be there, and every other value is
set exactly when its attribute is there. Where no known attribute is repeated, the lowest type that
is too short is reported.
-/
namespace TrafficControl

/-- Octets of a payload: the type of its attribute, where they begin and how many they are. -/
structure Place where
  type : UInt16
  start : Nat
  width : Nat

/-- The octets at a place in the last attribute of its type, if there is one. -/
def Place.octets? (l : Place) (as : List Attr) : Option Octets :=
  (Table.last? l.type.toNat as).map fun p => (p.drop l.start).take l.width

namespace Attr

def lastU8? (as : List Attr) (type : UInt16) (start : Nat) : Option UInt8 :=
  (Place.octets? ⟨type, start, 1⟩ as).map fun e => UInt8.ofNat (Octets.natLE e)

def lastU16? (as : List Attr) (type : UInt16) (start : Nat) : Option UInt16 :=
  (Place.octets? ⟨type, start, 2⟩ as).map fun e => UInt16.ofNat (Octets.natLE e)

/-- A number in network order. -/
def lastU16BE? (as : List Attr) (type : UInt16) (start : Nat) : Option UInt16 :=
  (Place.octets? ⟨type, start, 2⟩ as).map fun e => UInt16.ofNat (Octets.natLE e.reverse)

def lastU32? (as : List Attr) (type : UInt16) (start : Nat) : Option UInt32 :=
  (Place.octets? ⟨type, start, 4⟩ as).map fun e => UInt32.ofNat (Octets.natLE e)

def lastI32? (as : List Attr) (type : UInt16) (start : Nat) : Option Int32 :=
  (Place.octets? ⟨type, start, 4⟩ as).map fun e => (UInt32.ofNat (Octets.natLE e)).toInt32

variable (as : List Attr) (type : UInt16) (start : Nat)

theorem lastU8?_eq : lastU8? as type start = (Table.last? type.toNat as).map fun p =>
    UInt8.ofNat (Octets.natLE ((p.drop start).take 1)) := Option.map_map ..

theorem lastU16?_eq : lastU16? as type start =
    (Table.last? type.toNat as).map (Octets.u16At · start) := Option.map_map ..

theorem lastU16BE?_eq : lastU16BE? as type start =
    (Table.last? type.toNat as).map (Octets.u16BEAt · start) := Option.map_map ..

theorem lastU32?_eq : lastU32? as type start =
    (Table.last? type.toNat as).map (Octets.u32At · start) := Option.map_map ..

theorem lastI32?_eq : lastI32? as type start =
    (Table.last? type.toNat as).map (Octets.i32At · start) := Option.map_map ..

theorem isSome_last?_type_iff :
    (Table.last? type.toNat as).isSome ↔ ∃ a ∈ as, a.type = type := by
  rw [Table.isSome_last?_iff]
  simp only [UInt16.toNat_inj]

/-- An attribute whose type is not repeated is the last of its type. -/
theorem isLastIn_of_countP_le_one {as : List Attr} {a : Attr} (ha : a ∈ as)
    (h : as.countP (·.type.toNat = a.type.toNat) ≤ 1) : a.IsLastIn as := by
  obtain ⟨before, after, rfl⟩ := List.append_of_mem ha
  refine ⟨before, after, rfl, fun b hb hba => ?_⟩
  have hpos : 0 < after.countP (·.type.toNat = a.type.toNat) :=
    List.countP_pos_iff.mpr ⟨b, hb, decide_eq_true (congrArg UInt16.toNat hba)⟩
  rw [List.countP_append, List.countP_cons_of_pos (by simp)] at h
  omega

end Attr

namespace Table

variable {policy : Policy} {d : Octets}

/-- Behind the policy a payload that is asked for is the last one of its type. -/
theorem readChecked_bind_require (h : Attr.Admitted policy (Attr.list d)) {i : Nat}
    (hi : i < policy.length) {name : String} {α : Type} (f : Table → Octets → Except Error α) :
    (readChecked policy d >>= fun t => t.require i name >>= f t) =
      (last? i (Attr.list d)).elim (.error (.missingAttr name)) (f (read policy.length d)) := by
  have ht := readChecked_eq_ok_iff.mpr ⟨h, rfl⟩
  simp only [ht, bind, Except.bind, require, get_read d hi]
  cases last? i (Attr.list d) <;> rfl

theorem bind_of_readChecked_error {α : Type} {f : Table → Except Error α} {e : Error}
    (h : readChecked policy d = .error e) : readChecked policy d >>= f = .error e := by
  rw [h]
  rfl

/-- A reader that never fails on payloads of the least length gives what it reads. -/
theorem mapM_get_read (h : Attr.Admitted policy (Attr.list d)) {i : Nat} {r : Rule}
    (hr : policy[i]? = some (some r)) {α : Type} {f : Octets → Except Error α} {g : Octets → α}
    (hf : ∀ p : Octets, r.minLength ≤ p.length → f p = .ok (g p)) :
    ((read policy.length d).get i).mapM f = .ok ((last? i (Attr.list d)).map g) := by
  rw [get_read d (List.getElem?_eq_some_iff.mp hr).1]
  cases hp : last? i (Attr.list d) with
  | none => rfl
  | some p =>
      rw [Option.mapM_some, hf p (le_length_of_last? h hr hp)]
      rfl

end Table

namespace Attr

theorem toU8_of_le {p : Octets} (h : 1 ≤ p.length) :
    toU8 p = .ok (UInt8.ofNat (Octets.natLE ((p.drop 0).take 1))) := by
  cases p with
  | nil => cases h
  | cons b p => simp [toU8, Octets.natLE]

theorem toU16_of_le {p : Octets} (h : 2 ≤ p.length) : toU16 p = .ok (Octets.u16At p 0) :=
  if_neg (Nat.not_lt.mpr h)

theorem toU16BE_of_le {p : Octets} (h : 2 ≤ p.length) : toU16BE p = .ok (Octets.u16BEAt p 0) :=
  if_neg (Nat.not_lt.mpr h)

theorem toU32_of_le {p : Octets} (h : 4 ≤ p.length) : toU32 p = .ok (Octets.u32At p 0) :=
  if_neg (Nat.not_lt.mpr h)

end Attr

namespace Configuration

/-- The options of a kind are read from these places in the last attribute of each type, provided
that the attributes of the types in the policy are long enough. -/
structure ReadsLast (α : Type) [Configuration α] (policy : Policy) (params : String)
    (places : List Place) (optional : List (UInt16 × (α → Bool)))
    (stated? : List Attr → Option α) : Prop where
  parse_eq_ok_iff {d : Octets} (h : Attr.AllLong policy (Attr.list d)) {c : α} :
    parse d = .ok c ↔ stated? (Attr.list d) = some c
  exists_parse_iff {d : Octets} (h : Attr.AllLong policy (Attr.list d)) :
    (∃ c : α, parse d = .ok c) ↔ ∃ a ∈ Attr.list d, a.type = 2
  parse_of_missing {d : Octets} (h : Attr.AllLong policy (Attr.list d))
    (hnone : ∀ a ∈ Attr.list d, a.type ≠ 2) : parse (α := α) d = .error (.missingAttr params)
  isSet_iff {d : Octets} (h : Attr.AllLong policy (Attr.list d)) {c : α}
    (hc : parse d = .ok c) : ∀ f ∈ optional, (f.2 c ↔ ∃ a ∈ Attr.list d, a.type = f.1)
  parse_congr {d e : Octets} (hd : Attr.AllLong policy (Attr.list d))
    (he : Attr.AllLong policy (Attr.list e))
    (h : ∀ l ∈ places, l.octets? (Attr.list d) = l.octets? (Attr.list e)) :
    parse (α := α) d = parse e
  /-- Where no type in the policy is repeated, the lowest one that is too short is reported. -/
  parse_of_isShort {d : Octets}
    (hone : ∀ i r, policy[i]? = some (some r) →
      (Attr.list d).countP (·.type.toNat = i) ≤ 1)
    (hshort : ∃ a ∈ Attr.list d, ∃ r, a.IsShort policy r) :
    ∃ a ∈ Attr.list d, ∃ r, a.IsShort policy r ∧
      (∀ b ∈ Attr.list d, ∀ s, b.IsShort policy s → a.type ≤ b.type) ∧
      parse (α := α) d = .error (.attrTooShort r.name r.minLength a.payload.length)

section ReadsLast

variable {α : Type} [Configuration α] {policy : Policy} {params : String} {places : List Place}
  {optional : List (UInt16 × (α → Bool))} {stated? : List Attr → Option α}

theorem parse_eq_error_of_isShort
    (herror : ∀ {d e}, Table.readChecked policy d = .error e → parse (α := α) d = .error e)
    {d : Octets}
    (hone : ∀ i r, policy[i]? = some (some r) → (Attr.list d).countP (·.type.toNat = i) ≤ 1)
    (hshort : ∃ a ∈ Attr.list d, ∃ r, a.IsShort policy r) :
    ∃ a ∈ Attr.list d, ∃ r, a.IsShort policy r ∧
      (∀ b ∈ Attr.list d, ∀ s, b.IsShort policy s → a.type ≤ b.type) ∧
      parse (α := α) d = .error (.attrTooShort r.name r.minLength a.payload.length) := by
  have hlast {a : Attr} {r : Rule} (ha : a ∈ Attr.list d) (hr : a.IsShort policy r) :
      a.IsLastIn (Attr.list d) := Attr.isLastIn_of_countP_le_one ha (hone _ r hr.rule)
  cases ht : Table.readChecked policy d with
  | ok t =>
      obtain ⟨a, ha, r, hr⟩ := hshort
      exact absurd hr ((Table.readChecked_eq_ok_iff.mp ht).1 a r (hlast ha hr))
  | error e =>
      obtain ⟨a, r, ha, hr, hmin, rfl⟩ := Table.readChecked_eq_error_iff.mp ht
      exact ⟨a, ha.mem, r, hr, fun b hb s hs => hmin b s (hlast hb hs) hs, herror ht⟩

theorem ReadsLast.of_parse
    (hparse : ∀ {d}, Attr.Admitted policy (Attr.list d) → parse d =
      (stated? (Attr.list d)).elim (.error (.missingAttr params)) Except.ok)
    (herror : ∀ {d e}, Table.readChecked policy d = .error e → parse (α := α) d = .error e)
    (hsome : ∀ as, (stated? as).isSome ↔ ∃ a ∈ as, a.type = 2)
    (hset : ∀ {as c}, stated? as = some c →
      ∀ f ∈ optional, (f.2 c ↔ ∃ a ∈ as, a.type = f.1))
    (hcongr : ∀ {as bs}, (∀ l ∈ places, l.octets? as = l.octets? bs) → stated? as = stated? bs) :
    ReadsLast α policy params places optional stated? := by
  have hok {d : Octets} (h : Attr.AllLong policy (Attr.list d)) {c : α} :
      parse d = .ok c ↔ stated? (Attr.list d) = some c := by
    rw [hparse h.admitted]
    cases stated? (Attr.list d) <;> simp
  refine ⟨hok, fun h => ?_, @fun d h hnone => ?_, fun h c hc => hset ((hok h).mp hc),
    fun hd he h => ?_, parse_eq_error_of_isShort herror⟩
  · rw [← hsome, Option.isSome_iff_exists]
    exact exists_congr fun c => hok h
  · have hmissing : stated? (Attr.list d) = none := by
      rw [← Option.not_isSome_iff_eq_none, hsome]
      intro hparams
      obtain ⟨a, ha, ht⟩ := hparams
      exact hnone a ha ht
    rw [hparse h.admitted, hmissing]
    rfl
  · rw [hparse hd.admitted, hparse he.admitted, hcongr h]

end ReadsLast

end Configuration

namespace Gact

/-- What the last attributes say of a plain verdict. -/
def stated? (as : List Attr) : Option Gact := do
  return {
    index := ← Attr.lastU32? as 2 0
    verdict := ← Attr.lastI32? as 2 8
    mode := (Attr.lastU16? as 3 0).getD always
    share := (Attr.lastU16? as 3 2).getD 0
    other := (Attr.lastI32? as 3 4).getD Verdict.pass }

theorem isSome_stated?_iff (as : List Attr) : (stated? as).isSome ↔ ∃ a ∈ as, a.type = 2 := by
  rw [← Attr.isSome_last?_type_iff]
  simp only [stated?, Attr.lastU32?_eq, Attr.lastI32?_eq]
  cases Table.last? (2 : UInt16).toNat as <;> rfl

theorem parse_of_admitted {d : Octets} (h : Attr.Admitted policy (Attr.list d)) :
    parse d = (stated? (Attr.list d)).elim (.error (.missingAttr "TCA_GACT_PARMS")) .ok := by
  refine (Table.readChecked_bind_require h (i := (2 : UInt16).toNat) (by decide) _).trans ?_
  have hshare : (Table.read policy.length d).get shareType.toNat =
      Table.last? (3 : UInt16).toNat (Attr.list d) := Table.get_read d (by decide)
  simp only [hshare, stated?, Attr.lastU32?_eq, Attr.lastI32?_eq, Attr.lastU16?_eq]
  cases Table.last? (2 : UInt16).toNat (Attr.list d) with
  | none => rfl
  | some p => cases Table.last? (3 : UInt16).toNat (Attr.list d) <;> rfl

theorem readsLast : Configuration.ReadsLast Gact policy "TCA_GACT_PARMS"
    [⟨2, 0, 4⟩, ⟨2, 8, 4⟩, ⟨3, 0, 2⟩, ⟨3, 2, 2⟩, ⟨3, 4, 4⟩] [] stated? := by
  refine .of_parse parse_of_admitted Table.bind_of_readChecked_error isSome_stated?_iff
    (fun _ f hf => absurd hf List.not_mem_nil) fun {as bs} h => ?_
  simp only [List.forall_mem_cons] at h
  obtain ⟨hindex, hverdict, hmode, hshare, hother, -⟩ := h
  simp only [stated?, Attr.lastU32?, Attr.lastI32?, Attr.lastU16?, hindex, hverdict, hmode, hshare,
    hother]

end Gact

namespace Mirred

def stated? (as : List Attr) : Option Mirred := do
  return {
    index := ← Attr.lastU32? as 2 0
    verdict := ← Attr.lastI32? as 2 8
    direction := ← Attr.lastI32? as 2 20
    ifindex := ← Attr.lastU32? as 2 24 }

theorem isSome_stated?_iff (as : List Attr) : (stated? as).isSome ↔ ∃ a ∈ as, a.type = 2 := by
  rw [← Attr.isSome_last?_type_iff]
  simp only [stated?, Attr.lastU32?_eq, Attr.lastI32?_eq]
  cases Table.last? (2 : UInt16).toNat as <;> rfl

theorem parse_of_admitted {d : Octets} (h : Attr.Admitted policy (Attr.list d)) :
    parse d = (stated? (Attr.list d)).elim (.error (.missingAttr "TCA_MIRRED_PARMS")) .ok := by
  refine (Table.readChecked_bind_require h (i := (2 : UInt16).toNat) (by decide) _).trans ?_
  simp only [stated?, Attr.lastU32?_eq, Attr.lastI32?_eq]
  cases Table.last? (2 : UInt16).toNat (Attr.list d) <;> rfl

theorem readsLast : Configuration.ReadsLast Mirred policy "TCA_MIRRED_PARMS"
    [⟨2, 0, 4⟩, ⟨2, 8, 4⟩, ⟨2, 20, 4⟩, ⟨2, 24, 4⟩] [] stated? := by
  refine .of_parse parse_of_admitted Table.bind_of_readChecked_error isSome_stated?_iff
    (fun _ f hf => absurd hf List.not_mem_nil) fun {as bs} h => ?_
  simp only [List.forall_mem_cons] at h
  obtain ⟨hindex, hverdict, hdirection, hifindex, -⟩ := h
  simp only [stated?, Attr.lastU32?, Attr.lastI32?, hindex, hverdict, hdirection, hifindex]

end Mirred

namespace Skbedit

def stated? (as : List Attr) : Option Skbedit := do
  return {
    index := ← Attr.lastU32? as 2 0
    verdict := ← Attr.lastI32? as 2 8
    priority := Attr.lastU32? as 3 0
    queue := Attr.lastU16? as 4 0
    mark := Attr.lastU32? as 5 0
    mask := Attr.lastU32? as 8 0 }

theorem isSome_stated?_iff (as : List Attr) : (stated? as).isSome ↔ ∃ a ∈ as, a.type = 2 := by
  rw [← Attr.isSome_last?_type_iff]
  simp only [stated?, Attr.lastU32?_eq, Attr.lastI32?_eq]
  cases Table.last? (2 : UInt16).toNat as <;> rfl

theorem parse_of_admitted {d : Octets} (h : Attr.Admitted policy (Attr.list d)) :
    parse d = (stated? (Attr.list d)).elim (.error (.missingAttr "TCA_SKBEDIT_PARMS")) .ok := by
  refine (Table.readChecked_bind_require h (i := (2 : UInt16).toNat) (by decide) _).trans ?_
  have hpriority : ((Table.read policy.length d).get priorityType.toNat).mapM Attr.toU32 =
      .ok ((Table.last? (3 : UInt16).toNat (Attr.list d)).map (Octets.u32At · 0)) :=
    Table.mapM_get_read h (r := ⟨"TCA_SKBEDIT_PRIORITY", 4⟩) rfl fun _ => Attr.toU32_of_le
  have hqueue : ((Table.read policy.length d).get queueType.toNat).mapM Attr.toU16 =
      .ok ((Table.last? (4 : UInt16).toNat (Attr.list d)).map (Octets.u16At · 0)) :=
    Table.mapM_get_read h (r := ⟨"TCA_SKBEDIT_QUEUE_MAPPING", 2⟩) rfl fun _ => Attr.toU16_of_le
  have hmark : ((Table.read policy.length d).get markType.toNat).mapM Attr.toU32 =
      .ok ((Table.last? (5 : UInt16).toNat (Attr.list d)).map (Octets.u32At · 0)) :=
    Table.mapM_get_read h (r := ⟨"TCA_SKBEDIT_MARK", 4⟩) rfl fun _ => Attr.toU32_of_le
  have hmask : ((Table.read policy.length d).get maskType.toNat).mapM Attr.toU32 =
      .ok ((Table.last? (8 : UInt16).toNat (Attr.list d)).map (Octets.u32At · 0)) :=
    Table.mapM_get_read h (r := ⟨"TCA_SKBEDIT_MASK", 4⟩) rfl fun _ => Attr.toU32_of_le
  simp only [bind, Except.bind, hpriority, hqueue, hmark, hmask, stated?, Attr.lastU32?_eq,
    Attr.lastI32?_eq, Attr.lastU16?_eq]
  cases Table.last? (2 : UInt16).toNat (Attr.list d) <;> rfl

theorem readsLast : Configuration.ReadsLast Skbedit policy "TCA_SKBEDIT_PARMS"
    [⟨2, 0, 4⟩, ⟨2, 8, 4⟩, ⟨3, 0, 4⟩, ⟨4, 0, 2⟩, ⟨5, 0, 4⟩, ⟨8, 0, 4⟩]
    [(3, (·.priority.isSome)), (4, (·.queue.isSome)), (5, (·.mark.isSome)), (8, (·.mask.isSome))]
    stated? := by
  refine .of_parse parse_of_admitted Table.bind_of_readChecked_error isSome_stated?_iff
    (fun {as c} h => ?_) fun {as bs} h => ?_
  · simp only [stated?, Option.bind_eq_bind, Option.bind_eq_some_iff] at h
    obtain ⟨index, -, verdict, -, hc⟩ := h
    obtain rfl := Option.some.inj hc
    simp only [List.forall_mem_cons, Attr.lastU32?_eq, Attr.lastU16?_eq, Option.isSome_map,
      Attr.isSome_last?_type_iff, true_and]
    exact List.forall_mem_nil _
  · simp only [List.forall_mem_cons] at h
    obtain ⟨hindex, hverdict, hpriority, hqueue, hmark, hmask, -⟩ := h
    simp only [stated?, Attr.lastU32?, Attr.lastI32?, Attr.lastU16?, hindex, hverdict, hpriority,
      hqueue, hmark, hmask]

end Skbedit

namespace Vlan

/-- A tag without a protocol is a plain one. -/
def stated? (as : List Attr) : Option Vlan := do
  return {
    index := ← Attr.lastU32? as 2 0
    verdict := ← Attr.lastI32? as 2 8
    operation := ← Attr.lastI32? as 2 20
    id := Attr.lastU16? as 3 0
    protocol := (Attr.lastU16BE? as 4 0).getD plainProtocol
    priority := Attr.lastU8? as 6 0 }

theorem isSome_stated?_iff (as : List Attr) : (stated? as).isSome ↔ ∃ a ∈ as, a.type = 2 := by
  rw [← Attr.isSome_last?_type_iff]
  simp only [stated?, Attr.lastU32?_eq, Attr.lastI32?_eq]
  cases Table.last? (2 : UInt16).toNat as <;> rfl

theorem parse_of_admitted {d : Octets} (h : Attr.Admitted policy (Attr.list d)) :
    parse d = (stated? (Attr.list d)).elim (.error (.missingAttr "TCA_VLAN_PARMS")) .ok := by
  refine (Table.readChecked_bind_require h (i := (2 : UInt16).toNat) (by decide) _).trans ?_
  have hid : ((Table.read policy.length d).get idType.toNat).mapM Attr.toU16 =
      .ok ((Table.last? (3 : UInt16).toNat (Attr.list d)).map (Octets.u16At · 0)) :=
    Table.mapM_get_read h (r := ⟨"TCA_VLAN_PUSH_VLAN_ID", 2⟩) rfl fun _ => Attr.toU16_of_le
  have hprotocol : ((Table.read policy.length d).get protocolType.toNat).mapM Attr.toU16BE =
      .ok ((Table.last? (4 : UInt16).toNat (Attr.list d)).map (Octets.u16BEAt · 0)) :=
    Table.mapM_get_read h (r := ⟨"TCA_VLAN_PUSH_VLAN_PROTOCOL", 2⟩) rfl fun _ =>
      Attr.toU16BE_of_le
  have hpriority : ((Table.read policy.length d).get priorityType.toNat).mapM Attr.toU8 =
      .ok ((Table.last? (6 : UInt16).toNat (Attr.list d)).map fun p =>
        UInt8.ofNat (Octets.natLE ((p.drop 0).take 1))) :=
    Table.mapM_get_read h (r := ⟨"TCA_VLAN_PUSH_VLAN_PRIORITY", 1⟩) rfl fun _ => Attr.toU8_of_le
  simp only [bind, Except.bind, hid, hprotocol, hpriority, stated?, Attr.lastU32?_eq,
    Attr.lastI32?_eq, Attr.lastU16?_eq, Attr.lastU16BE?_eq, Attr.lastU8?_eq]
  cases Table.last? (2 : UInt16).toNat (Attr.list d) <;> rfl

theorem readsLast : Configuration.ReadsLast Vlan policy "TCA_VLAN_PARMS"
    [⟨2, 0, 4⟩, ⟨2, 8, 4⟩, ⟨2, 20, 4⟩, ⟨3, 0, 2⟩, ⟨4, 0, 2⟩, ⟨6, 0, 1⟩]
    [(3, (·.id.isSome)), (6, (·.priority.isSome))] stated? := by
  refine .of_parse parse_of_admitted Table.bind_of_readChecked_error isSome_stated?_iff
    (fun {as c} h => ?_) fun {as bs} h => ?_
  · simp only [stated?, Option.bind_eq_bind, Option.bind_eq_some_iff] at h
    obtain ⟨index, -, verdict, -, operation, -, hc⟩ := h
    obtain rfl := Option.some.inj hc
    simp only [List.forall_mem_cons, Attr.lastU8?_eq, Attr.lastU16?_eq, Option.isSome_map,
      Attr.isSome_last?_type_iff, true_and]
    exact List.forall_mem_nil _
  · simp only [List.forall_mem_cons] at h
    obtain ⟨hindex, hverdict, hoperation, hid, hprotocol, hpriority, -⟩ := h
    simp only [stated?, Attr.lastU32?, Attr.lastI32?, Attr.lastU16?, Attr.lastU16BE?, Attr.lastU8?,
      hindex, hverdict, hoperation, hid, hprotocol, hpriority]

end Vlan

/-- The options of the four built-in kinds are read from the last attributes, at fixed places. -/
theorem Configuration.readsLast_builtin :
    ReadsLast Gact
      [none, none, some ⟨"TCA_GACT_PARMS", 20⟩, some ⟨"TCA_GACT_PROB", 8⟩, none] "TCA_GACT_PARMS"
      [⟨2, 0, 4⟩, ⟨2, 8, 4⟩, ⟨3, 0, 2⟩, ⟨3, 2, 2⟩, ⟨3, 4, 4⟩] [] Gact.stated? ∧
    ReadsLast Mirred [none, none, some ⟨"TCA_MIRRED_PARMS", 28⟩, none] "TCA_MIRRED_PARMS"
      [⟨2, 0, 4⟩, ⟨2, 8, 4⟩, ⟨2, 20, 4⟩, ⟨2, 24, 4⟩] [] Mirred.stated? ∧
    ReadsLast Skbedit
      [none, none, some ⟨"TCA_SKBEDIT_PARMS", 20⟩, some ⟨"TCA_SKBEDIT_PRIORITY", 4⟩,
        some ⟨"TCA_SKBEDIT_QUEUE_MAPPING", 2⟩, some ⟨"TCA_SKBEDIT_MARK", 4⟩, none, none,
        some ⟨"TCA_SKBEDIT_MASK", 4⟩, none, none] "TCA_SKBEDIT_PARMS"
      [⟨2, 0, 4⟩, ⟨2, 8, 4⟩, ⟨3, 0, 4⟩, ⟨4, 0, 2⟩, ⟨5, 0, 4⟩, ⟨8, 0, 4⟩]
      [(3, (·.priority.isSome)), (4, (·.queue.isSome)), (5, (·.mark.isSome)), (8, (·.mask.isSome))]
      Skbedit.stated? ∧
    ReadsLast Vlan
      [none, none, some ⟨"TCA_VLAN_PARMS", 24⟩, some ⟨"TCA_VLAN_PUSH_VLAN_ID", 2⟩,
        some ⟨"TCA_VLAN_PUSH_VLAN_PROTOCOL", 2⟩, none, some ⟨"TCA_VLAN_PUSH_VLAN_PRIORITY", 1⟩,
        none, none, none] "TCA_VLAN_PARMS"
      [⟨2, 0, 4⟩, ⟨2, 8, 4⟩, ⟨2, 20, 4⟩, ⟨3, 0, 2⟩, ⟨4, 0, 2⟩, ⟨6, 0, 1⟩]
      [(3, (·.id.isSome)), (6, (·.priority.isSome))] Vlan.stated? :=
  ⟨Gact.readsLast, Mirred.readsLast, Skbedit.readsLast, Vlan.readsLast⟩

/-- A tag with its attributes in a row. -/
def Vlan.tidy : Octets :=
  Attr.written 2 ((Params.of 7 .pipe).octets ++ Octets.i32 2) ++ Attr.written 3 (Octets.u16 100) ++
    Attr.written 6 [5]

/-- The same tag from back to front, with other counters, an identifier that does not count, flags,
an attribute that is not known, a payload that is too long, and an end that is no attribute. -/
def Vlan.untidy : Octets :=
  Attr.written 6 [5, 6, 7] ++ Attr.written 3 (Octets.u16 99) ++ Attr.written 9 [1] ++
    Attr.written 0x4003 (Octets.u16 100) ++
    Attr.written 0x8002 ((Params.mk 7 1 .pipe 2 3).octets ++ Octets.i32 2 ++ [0]) ++ [3, 0]

/-- Both attributes of a plain verdict, and both too short. -/
def Gact.short : Octets := Attr.written 3 [1] ++ Attr.written 2 [1, 2, 3]

theorem Configuration.readsLast_builtin_untidy :
    Vlan.parse Vlan.tidy = Vlan.parse Vlan.untidy ∧
      Vlan.parse Vlan.tidy = .ok ⟨7, 2, some 100, some 5, 0x8100, .pipe⟩ ∧
      ∃ (a : Attr) (r : Rule), Gact.parse Gact.short =
        .error (.attrTooShort r.name r.minLength a.payload.length) ∧ a.type = 2 := by
  obtain ⟨hgact, -, -, hvlan⟩ := readsLast_builtin
  have hcongr := hvlan.parse_congr (d := Vlan.tidy) (e := Vlan.untidy) (by decide +kernel)
    (by decide +kernel) (by decide +kernel)
  have hstated : Vlan.stated? (Attr.list Vlan.tidy) =
      some ⟨7, 2, some 100, some 5, 0x8100, .pipe⟩ := by decide +kernel
  have hread := (hvlan.parse_eq_ok_iff (d := Vlan.tidy) (by decide +kernel)).mpr hstated
  have hone (i : Nat) (r : Rule) (hr : Gact.policy[i]? = some (some r)) :
      (Attr.list Gact.short).countP (·.type.toNat = i) ≤ 1 := by
    have hle : ∀ i < Gact.policy.length,
        (Attr.list Gact.short).countP (·.type.toNat = i) ≤ 1 := by decide +kernel
    exact hle i (List.getElem?_eq_some_iff.mp hr).1
  obtain ⟨a, ha, r, hr, hmin, he⟩ := hgact.parse_of_isShort hone
    ⟨⟨2, [1, 2, 3]⟩, by decide +kernel, ⟨"TCA_GACT_PARMS", 20⟩, rfl, by decide⟩
  have htypes : ∀ a ∈ Attr.list Gact.short, a.type ≤ 2 → a.type = 2 := by decide +kernel
  have hlowest := hmin ⟨2, [1, 2, 3]⟩ (by decide +kernel) ⟨"TCA_GACT_PARMS", 20⟩
    ⟨rfl, by decide⟩
  exact ⟨hcongr, hread, a, r, he, htypes a ha hlowest⟩

end TrafficControl
