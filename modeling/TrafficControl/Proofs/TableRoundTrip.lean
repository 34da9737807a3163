import Mathlib.Data.List.Basic
import Mathlib.Tactic.Choose
import TrafficControl.Proofs.OptionRoundTrip
import TrafficControl.Proofs.Settled
import TrafficControl.Proofs.TableReading

/-!
# Round trips of tables

An action with a configuration goes into an entry by the codec of its kind, and comes back from the
entry as it was, but for the octets of its options, which a read action keeps. A chain of such
actions goes into a table and comes back in its order: the entries are numbered by place, and places
are read in order. What is written of an action depends on nothing but its kind and configuration,
so an action that was read is written as the one it came from.
-/
namespace TrafficControl

theorem kindName_kindName (s : String) : kindName (kindName s) = kindName s :=
  Text.truncate_eq_self (Nat.le_of_lt_succ (size_kindName_le s))

abbrev Configuration.name (α : Type) [Configuration α] : String :=
  kindName (Configuration.kind α)

theorem filterMap_getElem?_range' {α : Type} {l : List α} {n : Nat} (h : l.length ≤ n) (s : Nat) :
    (List.range' s n).filterMap (fun i => l[i - s]?) = l := by
  induction l generalizing n s with
  | nil => simp
  | cons a l ih =>
      obtain ⟨n, rfl⟩ : ∃ m, n = m + 1 := ⟨n - 1, by simp at h; omega⟩
      have hr : (List.range' (s + 1) n).filterMap (fun i => (a :: l)[i - s]?) =
          (List.range' (s + 1) n).filterMap (fun i => l[i - (s + 1)]?) := by
        refine List.filterMap_congr fun i hi => ?_
        obtain ⟨k, -, rfl⟩ := List.mem_range'.mp hi
        rw [show s + 1 + 1 * k - s = k + 1 by omega, show s + 1 + 1 * k - (s + 1) = k by omega,
          List.getElem?_cons_succ]
      rw [List.range'_succ, List.filterMap_cons, Nat.sub_self, List.getElem?_cons_zero, hr,
        ih (by simpa using h)]

variable {P : Type}

/-- The second builder has what the first one has and one attribute more, of this type and with this
payload. -/
def Builder.Gained (b b' : Builder) (type : UInt16) (d : Octets) : Prop :=
  ∃ e, b'.payload = b.payload ++ e ∧ Attr.list e = [⟨type &&& Attr.typeMask, d⟩] ∧
    Attr.leftover e = []

/-- A nest that was written is one attribute more, with what its contents write. -/
theorem Build.Settled.exists_gained_of_nested {x : Build Unit} (hx : Settled x) {t : UInt16}
    {b b' : Builder} (hb : Build.nested t x b = .ok () b') :
    ∃ d, Build.Writes x d ∧ b.Gained b' t d := by
  obtain ⟨e, he, hpayload⟩ := hx.nested.writes_of_ok hb
  obtain ⟨d, hd, hdl, rfl⟩ := he.of_nested hx
  refine ⟨d, hd, _, hpayload, ?_, ?_⟩
  · have hl := Attr.list_written_append (t := t ||| Attr.nestedFlag) [] hdl
    rwa [List.append_nil, Attr.list_nil, Attr.or_nestedFlag_and_typeMask] at hl
  · have hl := Attr.leftover_written_append (t := t ||| Attr.nestedFlag) [] hdl
    rwa [List.append_nil, Attr.leftover_nil] at hl

theorem Chain.map_ordered {β : Type} (c : Chain P) (F : Nat → Action P → β) :
    c.ordered.map (fun x => F x.1 x.2.action) = c.actions.mapIdx fun i a => F (i + 1) a := by
  refine List.ext_getElem? fun i => ?_
  simp only [ordered, actions, List.getElem?_map, List.getElem?_mapIdx, Option.map_map]
  rfl

/-- The registry has the codec of a configuration type, and the name of its kind can be read. -/
structure Registry.Serves [Payload P] (r : Registry P) (α : Type) [Configuration α] [Holds P α] :
    Prop where
  get? : r.get? (Configuration.name α) = some (.ofConfig α)
  zero_notMem : '\x00' ∉ (Configuration.name α).toList

namespace Registry

section Builtin

variable [Payload P] [Holds P Gact] [Holds P Mirred] [Holds P Skbedit] [Holds P Vlan]

theorem serves_gact : (builtin : Registry P).Serves Gact := ⟨rfl, by decide⟩

theorem serves_mirred : (builtin : Registry P).Serves Mirred := ⟨rfl, by decide⟩

theorem serves_skbedit : (builtin : Registry P).Serves Skbedit := ⟨rfl, by decide⟩

theorem serves_vlan : (builtin : Registry P).Serves Vlan := ⟨rfl, by decide⟩

/-- No kind but the four is known. -/
theorem get?_builtin (k : String) : (builtin : Registry P).get? k = none ∨
    k = Configuration.name Gact ∨ k = Configuration.name Mirred ∨
      k = Configuration.name Skbedit ∨ k = Configuration.name Vlan := by
  have hg : Configuration.name Gact = "gact" := rfl
  have hm : Configuration.name Mirred = "mirred" := rfl
  have hs : Configuration.name Skbedit = "skbedit" := rfl
  have hv : Configuration.name Vlan = "vlan" := rfl
  rw [hg, hm, hs, hv, or_iff_not_imp_right]
  intro hk
  rw [get?, List.find?_eq_none]
  simp only [not_or] at hk
  simp [builtin, Codec.ofConfig, Configuration.kind, Ne.symm hk.1, Ne.symm hk.2.1,
    Ne.symm hk.2.2.1, Ne.symm hk.2.2.2]

end Builtin
end Registry

namespace ActionTable

variable {r : Registry P}

/-- Octets that the entry of a built-in kind takes at most. -/
def maxEntryLength : Nat := 80

/-- The action is written as the entry `d` with the options `o`, the entry is read as the action
with these options, and whatever has the same kind and configuration is written the same way. -/
structure Carries (r : Registry P) (a : Action P) (d o : Octets) : Prop where
  writes : Build.Writes (writeEntry r a) d
  length_le : d.length ≤ maxEntryLength
  read : readEntry r d = .ok (a.setOptions o)
  writeEntry_eq {b : Action P} (hk : b.kind = a.kind) (hp : b.payload = a.payload) :
    writeEntry r b = writeEntry r a

/-- An entry with a name and perhaps options is read as what the codec of the kind makes of them. -/
theorem readEntry_of_toText {raw : Octets} {k : String} {d : Octets} {o : Option Octets}
    (hk : Attr.toText raw kindBound = .ok k)
    (hd : Attr.list d = [⟨kindType, raw⟩] ++ Attr.optional optionsType o) :
    readEntry r d =
      (readPayload r k o).map fun p => { kind := some k, options := o, payload := p } := by
  have hlast (i : Nat) (hi : i < entrySize) : (Table.read entrySize d).get i =
      (if 2 = i then o else none).or (if 1 = i then some raw else none) := by
    rw [Table.get_read d hi, hd, Table.last?_append, Table.last?_optional, Table.last?_singleton]
    rfl
  have hkind : (Table.read entrySize d).get kindType.toNat = some raw := hlast 1 (by decide)
  have hoptions : (Table.read entrySize d).get optionsType.toNat = o :=
    (hlast 2 (by decide)).trans Option.or_none
  have hstats : (Table.read entrySize d).get statsType.toNat = none := hlast 4 (by decide)
  have hshort : kindName k = k :=
    Text.truncate_eq_self (Attr.zero_notMem_and_size_le_of_toText hk).2
  simp only [readEntry, Table.require, hkind, hoptions, hstats, hk, bind, Except.bind]
  cases readPayload r k o with
  | error e => rfl
  | ok p =>
      rw [hshort]
      rfl

/-- An entry with a kind and perhaps options is read as what the codec of the kind makes of it. -/
theorem readEntry_of_list {k : String} {d : Octets} {o : Option Octets} (hk : kindName k = k)
    (h0 : '\x00' ∉ k.toList)
    (hd : Attr.list d = [⟨kindType, Attr.ofText k⟩] ++ Attr.optional optionsType o) :
    readEntry r d =
      (readPayload r k o).map fun p => { kind := some k, options := o, payload := p } :=
  readEntry_of_toText ((Attr.toText_ofText h0 kindBound).trans (congrArg Except.ok hk)) hd

/-- An entry that was written holds the kind, and the options if there are any. -/
theorem list_of_writes_named {k : String} {d : Octets} {o : Option Octets} {x : Build Unit}
    (hx : Build.Settled x)
    (ho : ∀ e, Build.Writes x e → Build.Yields x (Attr.optional optionsType o))
    (hd : Build.Writes (Build.attrText kindType k >>= fun _ => x) d) :
    Attr.list d = [⟨kindType, Attr.ofText k⟩] ++ Attr.optional optionsType o := by
  obtain ⟨d₁, d₂, h₁, h₂, -⟩ := hd.of_bind (.attr ..) hx
  exact ((h₁.yields_attr (by decide)).bind (ho d₂ h₂)).list_eq hd

/-- An entry that was written is read as what the codec of its kind makes of the options in it. -/
theorem readEntry_of_writes {k : String} {d : Octets} {o : Option Octets} {x : Build Unit}
    (hk : kindName k = k) (h0 : '\x00' ∉ k.toList) (hx : Build.Settled x)
    (ho : ∀ e, Build.Writes x e → Build.Yields x (Attr.optional optionsType o))
    (hd : Build.Writes (Build.attrText kindType k >>= fun _ => x) d) :
    readEntry r d =
      (readPayload r k o).map fun p => { kind := some k, options := o, payload := p } :=
  readEntry_of_list hk h0 (list_of_writes_named hx ho hd)

section Entry

variable [Payload P] {α : Type} [Configuration α] [Holds P α]

theorem writeEntry_of_serves (hr : r.Serves α) {a : Action P}
    (hk : a.kind = some (Configuration.name α)) :
    writeEntry r a =
      (Build.attrText kindType (Configuration.name α) >>= fun _ =>
        Build.nested optionsType ((Codec.fillPayload a).adaptExcept
          (Error.inCodec (Configuration.name α)))) := by
  have hw : writer? r a = some (Configuration.name α, .ofConfig α, .nested) := by
    simp only [writer?, hk, hr.get?, Option.bind_eq_bind, Option.bind_some]
    rfl
  simp only [writeEntry, hk, Option.forM, writeOptions, hw]
  rfl

theorem settled_writeEntry_of_serves (hr : r.Serves α) {a : Action P}
    (hk : a.kind = some (Configuration.name α)) (h : Build.Settled (Codec.fillPayload a)) :
    Build.Settled (writeEntry r a) := by
  rw [writeEntry_of_serves hr hk]
  exact (Build.Settled.attr ..).bind (h.adaptExcept fun _ _ => rfl).nested

theorem fillPayload_of_config {a : Action P} {c : α}
    (hp : a.payload = some (Holds.payload c)) : Codec.fillPayload a = Configuration.write c := by
  rw [← Holds.write_payload (P := P) c]
  simp only [Codec.fillPayload, hp]

/-- Kind and configuration alone decide what is written. -/
theorem writeEntry_of_config (hr : r.Serves α) {a : Action P} {c : α}
    (hk : a.kind = some (Configuration.name α))
    (hp : a.payload = some (Holds.payload c)) :
    writeEntry r a =
      (Build.attrText kindType (Configuration.name α) >>= fun _ =>
        Build.nested optionsType ((Configuration.write c).adaptExcept
          (Error.inCodec (Configuration.name α)))) := by
  rw [writeEntry_of_serves hr hk, fillPayload_of_config hp]

theorem readPayload_of_config (hr : r.Serves α) {c : α} {o : Octets}
    (ho : Configuration.parse o = .ok c) :
    readPayload r (Configuration.name α) (some o) = .ok (some (Holds.payload c)) := by
  rw [readPayload, hr.get?]
  simp only [Codec.parse, Codec.ofConfig, ho, bind, Except.bind]
  rfl

theorem readEntry_of_config (hr : r.Serves α) {c : α} {d o : Octets}
    (ho : Configuration.parse o = .ok c)
    (hd : Attr.list d =
      [⟨kindType, Attr.ofText (Configuration.name α)⟩] ++ [⟨optionsType, o⟩]) :
    readEntry r d = .ok ((Action.ofConfig c : Action P).setOptions o) := by
  rw [readEntry_of_list (o := some o) (kindName_kindName _) hr.zero_notMem hd,
    readPayload_of_config hr ho]
  rfl

theorem exists_carries (hr : r.Serves α) {c : α} (hc : Configuration.ReadsBack c) :
    ∃ d o, Carries r (Action.ofConfig c : Action P) d o := by
  obtain ⟨o, ho, hol, hop⟩ := hc
  have hkl : (Attr.ofText (Configuration.name α)).length ≤ kindBound := by
    have : Text.size (Configuration.name α).toList < kindBound := size_kindName_le _
    rw [Attr.ofText, List.length_append, Text.length_octets, List.length_singleton]
    omega
  have hnested : Build.Yields (Build.nested optionsType ((Configuration.write c).adaptExcept
      (Error.inCodec (Configuration.name α)))) [⟨optionsType, o⟩] := by
    refine .nested (by decide) (ho.adaptExcept fun n m => rfl) ?_
    rw [Configuration.maxLength] at hol
    rw [Attr.headerLength, Attr.maxLength]
    omega
  have hkind : Build.Yields (Build.attrText kindType (Configuration.name α))
      [⟨kindType, Attr.ofText (Configuration.name α)⟩] := by
    refine .attr (by decide) ?_
    rw [kindBound] at hkl
    rw [Attr.headerLength, Attr.maxLength]
    omega
  obtain ⟨d, hd, hdl, hda⟩ := (hkind.bind hnested).writes
  refine ⟨d, o, ?_, ?_, readEntry_of_config hr hop hda, fun hk hp => ?_⟩
  · rwa [writeEntry_of_config hr rfl rfl]
  · have h₁ := align_lt (Attr.headerLength + (Attr.ofText (Configuration.name α)).length)
    have h₂ := align_mod_four
      (Attr.headerLength + (Attr.ofText (Configuration.name α)).length)
    have h₃ : align (Attr.headerLength + o.length) = Attr.headerLength + o.length := by
      rw [align_add _ (by rfl), align_eq_self ho.aligned]
    rw [hdl, Attr.sizeAll_append, Attr.sizeAll_singleton, Attr.sizeAll_singleton, h₃]
    simp only [Attr.headerLength, kindBound, Configuration.maxLength, maxEntryLength] at *
    omega
  · rw [writeEntry_of_config hr hk hp, writeEntry_of_config hr rfl rfl]

end Entry

section Table

variable {c : Chain P} {entry options : Action P → Octets}

def entries (as : List (Action P)) (entry : Action P → Octets) : List Attr :=
  as.mapIdx fun i a => ⟨UInt16.ofNat (i + 1), entry a⟩

theorem entries_eq_map (c : Chain P) (entry : Action P → Octets) :
    entries c.actions entry =
      c.ordered.map fun x => (⟨UInt16.ofNat x.1, entry x.2.action⟩ : Attr) := by
  rw [entries, Chain.map_ordered c fun n a => (⟨UInt16.ofNat n, entry a⟩ : Attr)]

theorem mem_actions_of_mem_ordered {x : Nat × Shared P} (hx : x ∈ c.ordered) :
    x.1 ≤ Chain.maxLength ∧ x.2.action ∈ c.actions := by
  obtain ⟨i, hi, rfl⟩ := List.mem_mapIdx.mp hx
  exact ⟨Nat.le_trans hi c.length_le, List.mem_map.mpr ⟨_, List.getElem_mem hi, rfl⟩⟩

theorem exists_mem_ordered_of_mem_actions {a : Action P} (ha : a ∈ c.actions) :
    ∃ x ∈ c.ordered, x.2.action = a := by
  obtain ⟨s, hs, rfl⟩ := List.mem_map.mp ha
  obtain ⟨i, hi, rfl⟩ := List.getElem_of_mem hs
  exact ⟨_, List.mem_mapIdx.mpr ⟨i, hi, rfl⟩, rfl⟩

/-- Entries that can be written stand in their table by place. -/
theorem yields_entries (h : ∀ a ∈ c.actions, Build.Writes (writeEntry r a) (entry a) ∧
      Attr.headerLength + (entry a).length ≤ Attr.maxLength) :
    Build.Yields
      (c.ordered.forM fun x => Build.nested (UInt16.ofNat x.1) (writeEntry r x.2.action))
      (entries c.actions entry) := by
  rw [entries_eq_map]
  refine Build.Yields.forM fun x hx => ?_
  obtain ⟨hp, ha⟩ := mem_actions_of_mem_ordered hx
  obtain ⟨hw, hl⟩ := h _ ha
  rw [Chain.maxLength] at hp
  refine .nested ?_ hw hl
  rw [UInt16.toNat_ofNat_of_lt' (Nat.lt_of_le_of_lt hp (by decide)), Attr.typeBound]
  omega

theorem exists_writes (type : UInt16) (h : ∀ a ∈ c.actions, Carries r a (entry a) (options a)) :
    ∃ d, Build.Writes (write type c r) (Attr.written (type ||| Attr.nestedFlag) d) ∧
      d.length ≤ Chain.maxLength * (Attr.headerLength + maxEntryLength) ∧
      Attr.list d = entries c.actions entry := by
  have hy : Build.Yields _ (entries c.actions entry) := yields_entries (r := r) fun a ha => by
    have hl := (h a ha).length_le
    exact ⟨(h a ha).writes, Nat.le_trans (Nat.add_le_add_left hl _) (by decide)⟩
  obtain ⟨d, hd, hdl, hda⟩ := hy.writes
  have hl : d.length ≤ Chain.maxLength * (Attr.headerLength + maxEntryLength) := by
    rw [hdl, entries_eq_map]
    refine Nat.le_trans (Attr.sizeAll_map_le fun x hx => ?_) (Nat.mul_le_mul_right _ ?_)
    · have hle := (h _ (mem_actions_of_mem_ordered hx).2).length_le
      exact align_le_of_le (Nat.add_le_add_left hle _) (by decide)
    · rw [Chain.ordered, List.length_mapIdx]
      exact c.length_le
  exact ⟨d, hd.nested (Nat.le_trans (Nat.add_le_add_left hl _) (by decide)), hl, hda⟩

theorem settled_nested_of_mem_ordered (h : ∀ a ∈ c.actions, Build.Settled (writeEntry r a)) :
    ∀ x ∈ c.ordered, Build.Settled (Build.nested (UInt16.ofNat x.1) (writeEntry r x.2.action)) :=
  fun _ hx => (h _ (mem_actions_of_mem_ordered hx).2).nested

/-- When entries have been written one behind the other, so has each of them. -/
theorem exists_writes_of_writes_forM {d : Octets}
    (h : ∀ a ∈ c.actions, Build.Settled (writeEntry r a))
    (hd : Build.Writes
      (c.ordered.forM fun x => Build.nested (UInt16.ofNat x.1) (writeEntry r x.2.action)) d) :
    ∀ a ∈ c.actions, ∃ o, Build.Writes (writeEntry r a) o ∧
      Attr.headerLength + o.length ≤ Attr.maxLength := by
  intro a ha
  obtain ⟨x, hx, rfl⟩ := exists_mem_ordered_of_mem_actions ha
  obtain ⟨o', ho'⟩ := hd.of_forM (settled_nested_of_mem_ordered h) x hx
  obtain ⟨o, ho, hol, -⟩ := ho'.of_nested (h _ ha)
  exact ⟨o, ho, hol⟩

/-- A table that was written holds what was written of each action, in the order of their places. -/
theorem exists_entries_of_write_eq_ok {type : UInt16} {b b' : Builder}
    (h : ∀ a ∈ c.actions, Build.Settled (writeEntry r a)) (hb : write type c r b = .ok () b') :
    ∃ d entry, b.Gained b' type d ∧ Attr.list d = entries c.actions entry ∧
      ∀ a ∈ c.actions, Build.Writes (writeEntry r a) (entry a) := by
  obtain ⟨d, hd, hgain⟩ :=
    (Build.Settled.forM (settled_nested_of_mem_ordered h)).exists_gained_of_nested hb
  have hentry := exists_writes_of_writes_forM h hd
  choose! entry hentry using hentry
  exact ⟨d, entry, hgain, (yields_entries hentry).list_eq hd, fun a ha => (hentry a ha).1⟩

theorem forM_ordered_eq (c : Chain P) (r : Registry P) :
    (c.ordered.forM fun x => Build.nested (UInt16.ofNat x.1) (writeEntry r x.2.action)) =
      (c.actions.mapIdx fun i a => Build.nested (UInt16.ofNat (i + 1)) (writeEntry r a)).forM
        id := by
  rw [← Chain.map_ordered c fun n a => Build.nested (UInt16.ofNat n) (writeEntry r a)]
  rw [List.forM_eq_forM, List.forM_eq_forM, List.forM_map]
  rfl

/-- What is written depends on the actions in their order, and on nothing else of the chain. -/
theorem write_eq (type : UInt16) (c : Chain P) (r : Registry P) :
    write type c r = Build.nested type
      ((c.actions.mapIdx fun i a => Build.nested (UInt16.ofNat (i + 1)) (writeEntry r a)).forM
        id) := congrArg (Build.nested type) (forM_ordered_eq c r)

theorem write_congr {b : Chain P} {g : Action P → Action P} (type : UInt16)
    (hb : b.actions = c.actions.map g)
    (h : ∀ a ∈ c.actions, writeEntry r (g a) = writeEntry r a) :
    write type b r = write type c r := by
  rw [write_eq, write_eq]
  congr 2
  refine List.ext_getElem? fun i => ?_
  rw [List.getElem?_mapIdx, List.getElem?_mapIdx, hb, List.getElem?_map]
  cases hi : c.actions[i]? with
  | none => rfl
  | some a => simp only [Option.map_some, h a (List.mem_of_getElem? hi)]

/-- The places of a table have its entries in order. -/
theorem filterMap_places {d : Octets} (h : Attr.list d = entries c.actions entry) :
    places.filterMap (Table.read (Chain.maxLength + 1) d).get = c.actions.map entry := by
  have hl : c.actions.length ≤ Chain.maxLength := by
    rw [Chain.actions, List.length_map]
    exact c.length_le
  have hget (i : Nat) (hi : i ∈ places) :
      (Table.read (Chain.maxLength + 1) d).get i = c.actions[i - 1]?.map entry := by
    obtain ⟨j, hj, rfl⟩ := List.mem_range'.mp hi
    rw [Table.get_read d (by omega), h, entries, Nat.one_mul, Nat.add_comm 1 j,
      Table.last?_mapIdx (Nat.lt_of_le_of_lt hl (by decide)), Nat.add_sub_cancel]
  rw [List.filterMap_congr hget, ← List.map_filterMap, places, filterMap_getElem?_range' hl]

variable {σ : Type} {g back : Action P → Action P}

theorem mapM_readEntry_of_ok {as : List (Action P)}
    (h : ∀ a ∈ as, readEntry r (entry a) = .ok (back a)) :
    (as.map entry).mapM (readEntry r) = .ok (as.map back) := by
  induction as with
  | nil => rfl
  | cons a as ih =>
      have hrest := ih fun x hx => h x (List.mem_cons_of_mem a hx)
      exact mapM_cons_eq_ok_iff.mpr ⟨_, _, h a List.mem_cons_self, hrest, rfl⟩

/-- A table is read as what its entries are read as, in the order of their places. -/
theorem readWith_of_list {d : Octets} (first : Nat)
    (h : ∀ a ∈ c.actions, readEntry r (entry a) = .ok (back a))
    (hd : Attr.list d = entries c.actions entry) (s : σ) :
    ∃ b : Chain P, readWith r (fun a => pure (g a)) first d s = .ok b s ∧
      b.actions = c.actions.map fun a => g (back a) := by
  have hread := actions_map_readWith_pure (σ := σ) r g first d
  rw [← filterMap_get_read, filterMap_places hd, mapM_readEntry_of_ok h] at hread
  obtain ⟨b, hb, hba⟩ := exists_of_map_eq_ok (congrFun hread s)
  exact ⟨b, hb, hba.trans List.map_map⟩

theorem read_eq_ok {d : Octets} {first : Nat} {b : Chain P}
    (h : readWith r (fun a => pure a) first d () = .ok b ()) : read r first d = .ok b := by
  rw [read, h]

theorem read_of_list {d : Octets} (first : Nat)
    (h : ∀ a ∈ c.actions, readEntry r (entry a) = .ok (back a))
    (hd : Attr.list d = entries c.actions entry) :
    ∃ b : Chain P, read r first d = .ok b ∧ b.actions = c.actions.map back := by
  obtain ⟨b, hb, hba⟩ := readWith_of_list (σ := Unit) (g := id) first h hd ()
  exact ⟨b, read_eq_ok hb, hba⟩

end Table

end ActionTable
end TrafficControl
