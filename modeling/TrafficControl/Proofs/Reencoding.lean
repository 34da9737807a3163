import TrafficControl.Proofs.RawOptions
import TrafficControl.Proofs.TableReading

/-!
# Writing what was read

A table that was read can be written again, from the chain that it gave. Of every action its kind
and its options go out, the options as its codec writes the payload. What this gives can be read in
its turn, with one exception. An entry of a known kind without options is read as an action without
payload; it is written with options that are empty, and these its own codec refuses.
-/
namespace TrafficControl

variable {P : Type}

/-- Reading gave this action: its kind fits, and its payload is what a codec read from its
options. -/
structure Action.IsRead (r : Registry P) (a : Action P) : Prop where
  kind : ∃ k, a.kind = some k ∧ '\x00' ∉ k.toList ∧ Text.size k.toList < kindBound ∧
    ActionTable.readPayload r k a.options = .ok a.payload

/-- A codec knows the kind of the action, and yet it has no payload. -/
def Action.IsBare (r : Registry P) (a : Action P) : Prop :=
  (∃ k ∈ a.kind, (r.get? k).isSome) ∧ a.payload = none

structure Action.IsAlike (a b : Action P) : Prop where
  kind : b.kind = a.kind
  payload : b.payload.isSome = a.payload.isSome

/-- Every configuration is written as options that can be read, though perhaps as another one that is
written alike, and empty options cannot be read. -/
structure Configuration.IsReadable (α : Type) [Configuration α] : Prop where
  write (c : α) : ∃ d, ∃ c' : α, Build.Writes (Configuration.write c) d ∧
    Configuration.parse d = .ok c' ∧ Configuration.write c' = Configuration.write c
  empty : ∃ e, Configuration.parse (α := α) [] = .error e

theorem Configuration.IsReadable.of_readsBack {α : Type} [Configuration α]
    (h : ∀ c : α, ReadsBack c) (he : ∃ e, parse (α := α) [] = .error e) : IsReadable α where
  write c := by
    obtain ⟨d, hd, -, hp⟩ := h c
    exact ⟨d, c, hd, hp, rfl⟩
  empty := he

theorem Gact.isReadable : Configuration.IsReadable Gact where
  write g := by
    obtain ⟨d, hd, -, hl⟩ := g.yields_write.writes
    exact ⟨d, g.normal, hd, parse_of_list hl, g.write_normal⟩
  empty := ⟨_, show parse [] = .error (.missingAttr "TCA_GACT_PARMS") by decide +kernel⟩

theorem Mirred.isReadable : Configuration.IsReadable Mirred :=
  .of_readsBack readsBack
    ⟨_, show parse [] = .error (.missingAttr "TCA_MIRRED_PARMS") by decide +kernel⟩

theorem Skbedit.isReadable : Configuration.IsReadable Skbedit :=
  .of_readsBack readsBack
    ⟨_, show parse [] = .error (.missingAttr "TCA_SKBEDIT_PARMS") by decide +kernel⟩

theorem Vlan.isReadable : Configuration.IsReadable Vlan :=
  .of_readsBack readsBack
    ⟨_, show parse [] = .error (.missingAttr "TCA_VLAN_PARMS") by decide +kernel⟩

namespace ActionTable

variable {r : Registry P} {a : Action P} {d : Octets}

theorem isRead_of_readEntry (h : readEntry r d = .ok a) : a.IsRead r := by
  obtain ⟨k, options, stats, payload, rfl, hp, h0, hs⟩ := exists_of_readEntry h
  exact ⟨k, rfl, h0, hs, hp⟩

theorem isRead_of_read {first : Nat} {b : Chain P} (h : read r first d = .ok b) :
    ∀ a ∈ b.actions, a.IsRead r := by
  intro a ha
  obtain ⟨e, he⟩ := exists_readEntry_of_mem h ha
  exact isRead_of_readEntry he

/-- What becomes of an action that is written into an entry and read from it again. -/
structure ComesBack (r : Registry P) (a : Action P) : Prop where
  settled : Build.Settled (writeEntry r a)
  error (h : a.IsBare r) {d : Octets} (hd : Build.Writes (writeEntry r a) d) :
    ∃ e, readEntry r d = .error e
  ok (h : ¬ a.IsBare r) {d : Octets} (hd : Build.Writes (writeEntry r a) d) :
    ∃ b, readEntry r d = .ok b ∧ a.IsAlike b
  writeEntry_eq {d : Octets} {b : Action P} (hd : Build.Writes (writeEntry r a) d)
    (hb : readEntry r d = .ok b) : writeEntry r b = writeEntry r a

theorem comesBack_of_get?_eq_none (h : a.IsRead r) {k : String} (hk : a.kind = some k)
    (hr : r.get? k = none) : ComesBack r a := by
  obtain ⟨k', hk', h0, hs, hp⟩ := h.kind
  obtain rfl : k = k' := Option.some.inj (hk.symm.trans hk')
  rw [readPayload, hr] at hp
  have hpayload : a.payload = none := (Except.ok.inj hp).symm
  have hraw : a.IsRaw r := ⟨⟨k, hk, h0, hs, hr⟩, hpayload⟩
  refine ⟨settled_writeEntry_of_isRaw hraw, fun hbare => ?_, fun _ _ hd => ?_, fun hd hb => ?_⟩
  · obtain ⟨⟨k', hk', hsome⟩, -⟩ := hbare
    obtain rfl : k = k' := Option.some.inj (hk.symm.trans hk')
    rw [hr] at hsome
    cases hsome
  · exact ⟨_, readEntry_of_isRaw hraw hd, rfl, congrArg Option.isSome hpayload.symm⟩
  · rw [readEntry_of_isRaw hraw hd] at hb
    cases hb
    rw [writeEntry_of_raw hk hr, ← writeRaw_map_pad]
    exact writeEntry_of_raw hk hr

section Configuration

variable [Payload P] {α : Type} [Configuration α] [Holds P α]

section Fill

variable (hr : r.Serves α) (hk : a.kind = some (Configuration.name α)) {o : Octets}
  (ho : Build.Writes (Codec.fillPayload a) o)

include hr hk ho

/-- What the codec of a kind writes is read by that codec. -/
theorem readEntry_of_fill (hd : Build.Writes (writeEntry r a) d) :
    readEntry r d = (readPayload r (Configuration.name α) (some o)).map fun p =>
      { kind := a.kind, options := some o, payload := p } := by
  have ho' := ho.adaptExcept (f := Error.inCodec (Configuration.name α)) fun _ _ => rfl
  rw [writeEntry_of_serves hr hk] at hd
  rw [hk]
  exact readEntry_of_writes (kindName_kindName _) hr.zero_notMem ho'.settled.nested
    (fun _ => ho'.yields_nested (by decide)) hd

end Fill

/-- Without payload and options nothing is written, so the options are there and empty. -/
theorem comesBack_of_none (hr : r.Serves α) (hα : Configuration.IsReadable α)
    (hk : a.kind = some (Configuration.name α)) (hp : a.payload = none) (ho : a.options = none) :
    ComesBack r a := by
  have hfill : Codec.fillPayload a = pure () := by simp only [Codec.fillPayload, hp, ho]
  have hw : Build.Writes (Codec.fillPayload a) [] := hfill ▸ .pure
  have hbare : a.IsBare r := ⟨⟨_, hk, by rw [hr.get?]; rfl⟩, hp⟩
  have hfail {d : Octets} (hd : Build.Writes (writeEntry r a) d) :
      ∃ e, readEntry r d = .error e := by
    obtain ⟨e, he⟩ := hα.empty
    rw [readEntry_of_fill hr hk hw hd, readPayload, hr.get?]
    simp only [Codec.parse, Codec.ofConfig, he]
    exact ⟨_, rfl⟩
  refine ⟨settled_writeEntry_of_serves hr hk hw.settled, fun _ _ => hfail,
    fun hn => absurd hbare hn, fun hd hb => ?_⟩
  obtain ⟨e, he⟩ := hfail hd
  rw [he] at hb
  cases hb

theorem comesBack_of_config (hr : r.Serves α) (hα : Configuration.IsReadable α) {c : α}
    (hk : a.kind = some (Configuration.name α)) (hp : a.payload = some (Holds.payload c)) :
    ComesBack r a := by
  obtain ⟨o, c', hw, hread, hsame⟩ := hα.write c
  rw [← fillPayload_of_config hp] at hw
  have hback {d : Octets} (hd : Build.Writes (writeEntry r a) d) : readEntry r d =
      .ok { kind := a.kind, options := some o, payload := some (Holds.payload c') } := by
    rw [readEntry_of_fill hr hk hw hd, readPayload_of_config hr hread]
    rfl
  refine ⟨settled_writeEntry_of_serves hr hk hw.settled, fun hbare => ?_, fun _ _ hd => ?_,
    fun hd hb => ?_⟩
  · rw [Action.IsBare, hp] at hbare
    cases hbare.2
  · exact ⟨_, hback hd, rfl, by rw [hp]; rfl⟩
  · rw [hback hd] at hb
    cases hb
    rw [writeEntry_of_config hr hk hp, ← hsame]
    exact writeEntry_of_config hr hk rfl

theorem comesBack_of_serves (hr : r.Serves α) (hα : Configuration.IsReadable α)
    (h : a.IsRead r) (hk : a.kind = some (Configuration.name α)) : ComesBack r a := by
  obtain ⟨k, hk', -, -, hp⟩ := h.kind
  obtain rfl : Configuration.name α = k := Option.some.inj (hk.symm.trans hk')
  rw [readPayload, hr.get?] at hp
  simp only [Codec.parse, Codec.ofConfig] at hp
  cases ho : a.options with
  | none =>
      rw [ho] at hp
      exact comesBack_of_none hr hα hk (Except.ok.inj hp).symm ho
  | some o =>
      rw [ho] at hp
      cases hc : Configuration.parse (α := α) o with
      | error e =>
          simp only [hc] at hp
          cases hp
      | ok c =>
          simp only [hc] at hp
          exact comesBack_of_config hr hα hk (Except.ok.inj hp).symm

end Configuration

section Builtin

variable [Payload P] [Holds P Gact] [Holds P Mirred] [Holds P Skbedit] [Holds P Vlan]

theorem comesBack_of_isRead (h : a.IsRead .builtin) : ComesBack .builtin a := by
  obtain ⟨k, hk, -⟩ := h.kind
  rcases Registry.get?_builtin (P := P) k with hr | rfl | rfl | rfl | rfl
  · exact comesBack_of_get?_eq_none h hk hr
  · exact comesBack_of_serves Registry.serves_gact Gact.isReadable h hk
  · exact comesBack_of_serves Registry.serves_mirred Mirred.isReadable h hk
  · exact comesBack_of_serves Registry.serves_skbedit Skbedit.isReadable h hk
  · exact comesBack_of_serves Registry.serves_vlan Vlan.isReadable h hk

/-- A chain that was read and written again can be read once more, and gives the same kinds with
payloads in the same places, unless an action of a known kind has no payload. With such an action
reading fails. -/
theorem read_write_read {c : Chain P} {first : Nat} {type : UInt16} {b b' : Builder}
    (hr : read .builtin first d = .ok c) (hb : write type c .builtin b = .ok () b') :
    ∃ e, b.Gained b' type e ∧ ∀ first',
      ((∀ a ∈ c.actions, ¬ a.IsBare .builtin) → ∃ c', read .builtin first' e = .ok c' ∧
        List.Forall₂ Action.IsAlike c.actions c'.actions) ∧
      ((∃ a ∈ c.actions, a.IsBare .builtin) → ∃ err,
        read (P := P) .builtin first' e = .error err) := by
  have hback : ∀ a ∈ c.actions, ComesBack .builtin a := fun a ha =>
    comesBack_of_isRead (isRead_of_read hr a ha)
  obtain ⟨e, entry, hgain, hlist, hentry⟩ :=
    exists_entries_of_write_eq_ok (fun a ha => (hback a ha).settled) hb
  refine ⟨e, hgain, fun first' => ⟨fun hnone => ?_, fun hsome => ?_⟩⟩
  · have hread : ∀ a ∈ c.actions, ∃ a', readEntry .builtin (entry a) = .ok a' ∧ a.IsAlike a' :=
      fun a ha => (hback a ha).ok (hnone a ha) (hentry a ha)
    choose! again hread using hread
    obtain ⟨c', hc', hactions⟩ := read_of_list first' (fun a ha => (hread a ha).1) hlist
    refine ⟨c', hc', ?_⟩
    rw [hactions, List.forall₂_map_right_iff]
    exact List.forall₂_same.mpr fun a ha => (hread a ha).2
  · obtain ⟨a, ha, hbare⟩ := hsome
    obtain ⟨err, herr⟩ := (hback a ha).error hbare (hentry a ha)
    cases hc : read (P := P) .builtin first' e with
    | error err' => exact ⟨err', rfl⟩
    | ok c' =>
        have hmap := map_readEntry_of_read hc
        rw [filterMap_places hlist, List.map_map] at hmap
        have hm := List.mem_map_of_mem (f := readEntry (P := P) .builtin ∘ entry) ha
        rw [hmap, Function.comp, herr] at hm
        obtain ⟨_, -, hok⟩ := List.mem_map.mp hm
        cases hok

end Builtin

/-- A table with an entry of each sort that comes back: one for a codec, one with raw options, one
without options, and a gap in front of them. -/
def gappedTable : Octets :=
  Attr.written 2 (Attr.written 1 (Attr.ofText "gact") ++
      Attr.written 2 (Attr.written 2 (Params.of 7 .drop).octets)) ++
    Attr.written 5 (Attr.written 2 [1] ++ Attr.written 1 (Attr.ofText "police")) ++
    Attr.written 6 (Attr.written 1 (Attr.ofText "police"))

theorem read_write_read_gappedTable :
    ∃ (c : Chain Builtin) (b b' : Builder), read .builtin 0 gappedTable = .ok c ∧
      write 1 c .builtin b = .ok () b' ∧ ∃ e, b.Gained b' 1 e ∧ ∀ first',
        ((∀ a ∈ c.actions, ¬ a.IsBare .builtin) → ∃ c', read .builtin first' e = .ok c' ∧
          List.Forall₂ Action.IsAlike c.actions c'.actions) ∧
        ((∃ a ∈ c.actions, a.IsBare .builtin) → ∃ err,
          read (P := Builtin) .builtin first' e = .error err) := by
  have h : ((read .builtin 0 gappedTable : Except Error (Chain Builtin)) >>= fun c =>
      Build.message (write 1 c .builtin) (.new 0 0)).map (·.payload.length) = .ok 88 := by
    decide +kernel
  obtain ⟨c, b', hr, hb, -⟩ := Build.exists_of_message_eq_ok h
  exact ⟨c, _, b', hr, hb, read_write_read hr hb⟩

/-- An entry of a known kind without options is read, but what is written of it is not. -/
theorem exists_read_write_not_read :
    ∃ (d : Octets) (c : Chain Builtin) (b b' : Builder) (e : Octets),
      read .builtin 0 d = .ok c ∧ write 1 c .builtin b = .ok () b' ∧ b.Gained b' 1 e ∧
        read (P := Builtin) .builtin 0 e =
          .error (.codec "gact" (.missingAttr "TCA_GACT_PARMS")) := by
  let kind : Octets := [9, 0, 1, 0, 103, 97, 99, 116, 0, 0, 0, 0]
  let e : Octets := [20, 0, 1, 128] ++ kind ++ [4, 0, 2, 128]
  have h : ((read .builtin 0 ([16, 0, 1, 128] ++ kind) : Except Error (Chain Builtin)) >>=
      fun c => Build.message (write 1 c .builtin) (.new 0 0)).map (·.payload) =
      .ok ([24, 0, 1, 128] ++ e) := by decide +kernel
  have he : (read (P := Builtin) .builtin 0 e).map (·.length) =
      .error (.codec "gact" (.missingAttr "TCA_GACT_PARMS")) := by decide +kernel
  obtain ⟨c, b', hr, hb, hpayload⟩ := Build.exists_of_message_eq_ok h
  refine ⟨_, c, _, b', e, hr, hb, ⟨_, hpayload, ?_, ?_⟩, ?_⟩
  · decide +kernel
  · decide +kernel
  · cases hc : read (P := Builtin) .builtin 0 e with
    | error err =>
        rw [hc] at he
        exact congrArg Except.error (Except.error.inj he)
    | ok c' =>
        rw [hc] at he
        cases he

end ActionTable
end TrafficControl
