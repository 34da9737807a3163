import TrafficControl.Proofs.Reencoding
import TrafficControl.Proofs.TableWriting

/-!
# Registered configurations

A registry keeps the codec of a configuration type under the whole name of its kind. An action keeps
the name cut to its bound, and by this name the codec is looked up, both when the action is written
and when it is read. So the codec of a short name is found on both sides, and what is written of a
configuration is read as this configuration. The codec of a long name is found on neither side: only
the cut name is written, and what is read is an action of this kind with nothing attached to it
(`exists_read_of_get?_eq_none`). Neither side fails.
-/
namespace TrafficControl

/-- Cutting a name brings nothing into it. -/
theorem zero_notMem_kindName {name : String} (h0 : '\x00' ∉ name.toList) :
    '\x00' ∉ (kindName name).toList := by
  intro hm
  rw [kindName, Text.truncate, String.toList_ofList] at hm
  exact h0 ((Text.takeOctets_isPrefix ..).subset hm)

variable {P : Type} [Payload P]

/-- The codec of the configuration type was registered, and whatever was done to the registry since,
it was not removed. -/
inductive Registry.IsRegistered (α : Type) [Configuration α] [Holds P α] : Registry P → Prop
  | registerConfig {r s : Registry P} (h : r.registerConfig α = .ok s) : IsRegistered α s
  | register {r s : Registry P} {c : Codec P} (hr : IsRegistered α r) (h : r.register c = .ok s) :
      IsRegistered α s
  | unregister {r s : Registry P} {c : Codec P} {name : String} (hr : IsRegistered α r)
      (hn : name ≠ Configuration.kind α) (h : r.unregister name = .ok (c, s)) : IsRegistered α s

/-- The configuration is written by additions to the message, and what these add is read as the
configuration. -/
structure Configuration.IsFaithful {α : Type} [Configuration α] (v : α) : Prop where
  onlyAdds : Build.OnlyAdds (Configuration.write v)
  parse_eq {o : Octets} (h : Build.Writes (Configuration.write v) o) : Configuration.parse o = .ok v

namespace Registry

omit [Payload P] in
theorem name_ne_of_register {r s : Registry P} {c d : Codec P} {name : String}
    (hd : r.get? name = some d) (h : r.register c = .ok s) : c.name ≠ name := by
  intro hn
  obtain ⟨hmem, hname⟩ := mem_and_name_of_get? hd
  have hm : c.name ∈ r.names := List.mem_map.mpr ⟨d, hmem, hname.trans hn.symm⟩
  rw [register_of_mem hm] at h
  cases h

variable {α : Type} [Configuration α] [Holds P α] {r : Registry P}

theorem IsRegistered.get? (h : r.IsRegistered α) :
    r.get? (Configuration.kind α) = some (.ofConfig α) := by
  induction h with
  | registerConfig h => exact get?_register h
  | register _ h ih => rw [get?_register_of_ne h (name_ne_of_register ih h), ih]
  | unregister _ hn h ih => rw [get?_unregister_of_ne h hn.symm, ih]

/-- Actions of the kind find the codec exactly when its name is short. -/
theorem IsRegistered.get?_name_iff (h : r.IsRegistered α) :
    r.get? (Configuration.name α) = some (.ofConfig α) ↔
      Text.size (Configuration.kind α).toList < kindBound := by
  constructor
  · intro hname
    have hkind : Configuration.kind α = Configuration.name α := (mem_and_name_of_get? hname).2
    rw [hkind]
    exact size_kindName_le _
  · intro hs
    have hname : Configuration.name α = Configuration.kind α :=
      Text.truncate_eq_self (Nat.le_of_lt_succ hs)
    rw [hname, h.get?]

theorem IsRegistered.serves (h : r.IsRegistered α)
    (h0 : '\x00' ∉ (Configuration.kind α).toList)
    (hs : Text.size (Configuration.kind α).toList < kindBound) : r.Serves α where
  get? := h.get?_name_iff.mpr hs
  zero_notMem := zero_notMem_kindName h0

end Registry

namespace ActionTable

variable {α : Type} [Configuration α] [Holds P α] {r : Registry P} {v : α} {c : Chain P}
  {type : UInt16} {b b' : Builder}

omit [Payload P] in
/-- A table with one entry is read as what this entry is read as. -/
theorem exists_read_of_singleton {a : Action P} (hc : c.actions = [a])
    (ha : Build.Settled (writeEntry r a)) (hb : write type c r b = .ok () b') :
    ∃ d e, b.Gained b' type d ∧ Build.Writes (writeEntry r a) e ∧
      ∀ x, readEntry r e = .ok x → ∀ first, ∃ c', read r first d = .ok c' ∧ c'.actions = [x] := by
  have hsettled : ∀ x ∈ c.actions, Build.Settled (writeEntry r x) := by
    rw [hc]
    exact List.forall_mem_singleton.mpr ha
  obtain ⟨d, entry, hgain, hlist, hentry⟩ := exists_entries_of_write_eq_ok hsettled hb
  rw [hc] at hentry
  refine ⟨d, entry a, hgain, hentry a List.mem_cons_self, fun x hx first => ?_⟩
  have hback : ∀ y ∈ c.actions, readEntry r (entry y) = .ok x := by
    rw [hc]
    exact List.forall_mem_singleton.mpr hx
  obtain ⟨c', hc', hactions⟩ := read_of_list first hback hlist
  exact ⟨c', hc', by rw [hactions, hc, List.map_singleton]⟩

theorem fillPayload_ofConfig (v : α) :
    Codec.fillPayload (Action.ofConfig v : Action P) = Configuration.write v :=
  fillPayload_of_config rfl

theorem exists_readEntry_of_serves (hr : r.Serves α) (hv : Configuration.IsFaithful v) {d : Octets}
    (hd : Build.Writes (writeEntry r (Action.ofConfig v : Action P)) d) :
    ∃ o, readEntry r d = .ok ((Action.ofConfig v : Action P).setOptions o) := by
  have hsettled := hv.onlyAdds.settled
  have hf (n m : Nat) : Error.inCodec (Configuration.name α) (.tooLarge n m) = .tooLarge n m := rfl
  have hw := hd
  rw [writeEntry_of_config hr rfl rfl] at hw
  obtain ⟨-, nest, -, hnest, -⟩ := hw.of_bind (.attr ..) (hsettled.adaptExcept hf).nested
  obtain ⟨o, ho, -⟩ := hnest.of_nested (hsettled.adaptExcept hf)
  have hopts : Build.Writes (Configuration.write v) o := ho.of_adaptExcept hsettled hf
  have hfill : Build.Writes (Codec.fillPayload (Action.ofConfig v : Action P)) o := by
    rwa [fillPayload_ofConfig]
  refine ⟨o, ?_⟩
  rw [readEntry_of_fill hr rfl hfill hd, readPayload_of_config hr (hv.parse_eq hopts)]
  rfl

/-- The configuration comes back, with the octets of its options. -/
theorem exists_read_of_serves (hr : r.Serves α) (hv : Configuration.IsFaithful v)
    (hc : c.actions = [.ofConfig v]) (hb : write type c r b = .ok () b') :
    ∃ d o, b.Gained b' type d ∧ ∀ first, ∃ c', read r first d = .ok c' ∧
      c'.actions = [(Action.ofConfig v).setOptions o] := by
  have hfill : Build.Settled (Codec.fillPayload (Action.ofConfig v : Action P)) := by
    rw [fillPayload_ofConfig]
    exact hv.onlyAdds.settled
  have hsettled := settled_writeEntry_of_serves hr rfl hfill
  obtain ⟨d, e, hgain, he, hread⟩ := exists_read_of_singleton hc hsettled hb
  obtain ⟨o, ho⟩ := exists_readEntry_of_serves hr hv he
  exact ⟨d, o, hgain, hread _ ho⟩

omit [Payload P] in
theorem isRaw_ofKind {name : String} (h0 : '\x00' ∉ name.toList)
    (hr : r.get? (kindName name) = none) : (Action.ofKind name : Action P).IsRaw r where
  kind := ⟨kindName name, rfl, zero_notMem_kindName h0, size_kindName_le name, hr⟩
  payload := rfl

/-- Nothing but the kind comes back. -/
theorem exists_read_of_get?_eq_none (h0 : '\x00' ∉ (Configuration.kind α).toList)
    (hr : r.get? (Configuration.name α) = none) (hc : c.actions = [.ofConfig v])
    (hb : write type c r b = .ok () b') :
    ∃ d, b.Gained b' type d ∧ ∀ first, ∃ c', read r first d = .ok c' ∧
      c'.actions = [.ofKind (Configuration.kind α)] := by
  have hraw : (Action.ofKind (Configuration.kind α) : Action P).IsRaw r := isRaw_ofKind h0 hr
  -- Without a codec the payload is not looked at.
  have hsame : writeEntry r (Action.ofConfig v : Action P) =
      writeEntry r (Action.ofKind (Configuration.kind α)) := by
    rw [writeEntry_of_raw (k := Configuration.name α) rfl hr,
      writeEntry_of_raw (k := Configuration.name α) rfl hr]
    rfl
  have hsettled : Build.Settled (writeEntry r (Action.ofConfig v : Action P)) := by
    rw [hsame]
    exact settled_writeEntry_of_isRaw hraw
  obtain ⟨d, e, hgain, he, hread⟩ := exists_read_of_singleton hc hsettled hb
  rw [hsame] at he
  have hback : readEntry r e = .ok (.ofKind (Configuration.kind α)) := by
    rw [readEntry_of_isRaw hraw he]
    rfl
  exact ⟨d, hgain, hread _ hback⟩

/-- The codec of a registered configuration type is found by the actions of its kind exactly when
the name of the kind is short. Then what is written of a configuration is read as this
configuration. If no codec is found, the configuration is dropped without an error. -/
theorem read_write_of_isRegistered (hr : r.IsRegistered α)
    (h0 : '\x00' ∉ (Configuration.kind α).toList) (hv : Configuration.IsFaithful v)
    (hc : c.actions = [.ofConfig v]) (hb : write type c r b = .ok () b') :
    (r.get? (Configuration.name α) = some (.ofConfig α) ↔
      Text.size (Configuration.kind α).toList < kindBound) ∧
    (Text.size (Configuration.kind α).toList < kindBound →
      ∃ d o, b.Gained b' type d ∧ ∀ first, ∃ c', read r first d = .ok c' ∧
        c'.actions = [(Action.ofConfig v).setOptions o]) ∧
    (r.get? (Configuration.name α) = none →
      ∃ d, b.Gained b' type d ∧ ∀ first, ∃ c', read r first d = .ok c' ∧
        c'.actions = [.ofKind (Configuration.kind α)]) :=
  ⟨hr.get?_name_iff, fun hs => exists_read_of_serves (hr.serves h0 hs) hv hc hb,
    fun hnone => exists_read_of_get?_eq_none h0 hnone hc hb⟩

end ActionTable

/-- A configuration of one number. -/
structure Meter (name : String) where
  index : UInt32
deriving DecidableEq

namespace Meter

variable {name : String}

def write (m : Meter name) : Build Unit := Build.attrU32 1 m.index

def parse (d : Octets) : Except Error (Meter name) := do
  return ⟨← Attr.toU32 (← (Table.read 2 d).require 1 "METER_INDEX")⟩

instance : Configuration (Meter name) where
  kind := name
  index := index
  write := write
  parse := parse

theorem isFaithful (m : Meter name) : Configuration.IsFaithful m where
  onlyAdds := .attr 1 (Octets.u32 m.index)
  parse_eq {o} h := by
    change Build.Writes (Build.attr 1 (Octets.u32 m.index)) o at h
    have hlist : Attr.list o = [⟨1, Octets.u32 m.index⟩] := (h.yields_attr (by decide)).list_eq h
    have hget : (Table.read 2 o).get 1 = some (Octets.u32 m.index) := by
      rw [Table.get_read o (by decide), hlist]
      rfl
    change parse o = .ok m
    simp only [parse, Table.require, hget, bind, Except.bind, Attr.toU32_u32]
    rfl

/-- A registry with the codec of this type. -/
def registry (name : String) : Registry (Builtin ⊕ Meter name) where
  codecs := [.ofConfig (Meter name)]
  nodup := List.nodup_cons.mpr ⟨List.not_mem_nil, List.nodup_nil⟩

theorem isRegistered_registry (name : String) : (registry name).IsRegistered (Meter name) :=
  .registerConfig (r := .empty) rfl

def chain (m : Meter name) : Chain (Builtin ⊕ Meter name) where
  toList := [⟨0, .ofConfig m⟩]
  length_le := (by decide : 1 ≤ Chain.maxLength)
  nodup := List.nodup_cons.mpr ⟨List.not_mem_nil, List.nodup_nil⟩

end Meter

namespace ActionTable

theorem read_write_meter :
    ∃ (m : Meter "meter") (b b' : Builder), Configuration.IsFaithful m ∧
      (Meter.registry "meter").IsRegistered (Meter "meter") ∧
      write 1 m.chain (Meter.registry "meter") b = .ok () b' ∧
      ∃ d o, b.Gained b' 1 d ∧ ∀ first, ∃ c', read (Meter.registry "meter") first d = .ok c' ∧
        c'.actions = [(Action.ofConfig m).setOptions o] := by
  let m : Meter "meter" := ⟨7⟩
  have hw : (pure m >>= fun m => Build.message (write 1 m.chain (Meter.registry "meter"))
      (.new 0 0)).map (·.payload.length) = .ok 32 := by decide +kernel
  obtain ⟨m, b', -, hb, -⟩ := Build.exists_of_message_eq_ok hw
  have hr := Meter.isRegistered_registry "meter"
  exact ⟨m, _, b', m.isFaithful, hr, hb,
    (read_write_of_isRegistered hr (by decide) m.isFaithful rfl hb).2.1 (by decide)⟩

/-- A registered configuration under a long name is written, and read as an action without it. -/
theorem exists_read_without_config :
    ∃ (m : Meter "rate_meter_per_class") (b b' : Builder) (d : Octets)
      (c : Chain (Builtin ⊕ Meter "rate_meter_per_class")), Configuration.IsFaithful m ∧
      (Meter.registry "rate_meter_per_class").IsRegistered (Meter "rate_meter_per_class") ∧
      '\x00' ∉ (Configuration.kind (Meter "rate_meter_per_class")).toList ∧
      write 1 m.chain (Meter.registry _) b = .ok () b' ∧ b.Gained b' 1 d ∧
      read (Meter.registry _) 0 d = .ok c ∧ c.actions.map (·.payload) = [none] := by
  let m : Meter "rate_meter_per_class" := ⟨7⟩
  have hw : (pure m >>= fun m => Build.message (write 1 m.chain (Meter.registry _))
      (.new 0 0)).map (·.payload.length) = .ok 28 := by decide +kernel
  obtain ⟨m, b', -, hb, -⟩ := Build.exists_of_message_eq_ok hw
  have h0 : '\x00' ∉ (Configuration.kind (Meter "rate_meter_per_class")).toList := by decide
  obtain ⟨d, hgain, hread⟩ := exists_read_of_get?_eq_none h0 (by decide) rfl hb
  obtain ⟨c, hc, hactions⟩ := hread 0
  exact ⟨m, _, b', d, c, m.isFaithful, Meter.isRegistered_registry _, h0, hb, hgain, hc,
    by rw [hactions]; rfl⟩

end ActionTable
end TrafficControl
