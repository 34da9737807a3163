import Mathlib.Data.List.Forall2
import TrafficControl.Proofs.TableRoundTrip

/-!
# Round trips of raw options

An action of a kind that no codec knows carries its options raw. They go into a nest of their own,
and a nest counts all that was written into it. So what comes back is the options with their filling:
whole words come back as they were, and any other options come back longer, with zeros behind them.
Options that are absent stay absent, and empty ones stay empty.
-/
namespace TrafficControl

variable {P : Type}

/-- No codec knows the kind of the action, and nothing but options is attached to it. -/
structure Action.IsRaw (r : Registry P) (a : Action P) : Prop where
  kind : ∃ k, a.kind = some k ∧ '\x00' ∉ k.toList ∧ Text.size k.toList < kindBound ∧
    r.get? k = none
  payload : a.payload = none

/-- The second action is read from what is written of the first, whose options are raw. -/
structure Action.IsFilled (a b : Action P) : Prop where
  kind : b.kind = a.kind
  payload : b.payload = none
  options : b.options = a.options.map Octets.pad

namespace Octets

/-- Filling up changes exactly what is not a whole number of words. -/
theorem pad_eq_self_iff {d : Octets} : pad d = d ↔ d.length % 4 = 0 := by
  constructor
  · intro h
    rw [← h, length_pad, align_mod_four]
  · exact pad_eq_self

end Octets

namespace ActionTable

variable {r : Registry P} {a : Action P} {c : Chain P} {d : Octets}

/-- Writes raw options into a nest of their own, if there are any. -/
def writeRaw (o : Option Octets) : Build Unit :=
  o.forM fun d => Build.nested optionsType (Build.append d)

theorem writer?_eq_some_iff {kind : String} {codec : Codec P} {style : FillStyle} :
    writer? r a = some (kind, codec, style) ↔
      a.kind = some kind ∧ r.get? kind = some codec ∧ codec.style = some style := by
  simp only [writer?, Option.bind_eq_bind, Option.bind_eq_some_iff]
  constructor
  · rintro ⟨kind', hkind, codec', hget, style', hstyle, hw⟩
    cases hw
    exact ⟨hkind, hget, hstyle⟩
  · rintro ⟨hkind, hget, hstyle⟩
    exact ⟨kind, hkind, codec, hget, style, hstyle, rfl⟩

theorem writeOptions_of_writer?_eq_none (hw : writer? r a = none) :
    writeOptions r a = writeRaw a.options := by
  simp only [writeOptions, hw]
  cases a.options <;> rfl

theorem writeEntry_of_raw {k : String} (hk : a.kind = some k) (hr : r.get? k = none) :
    writeEntry r a = (Build.attrText kindType k >>= fun _ => writeRaw a.options) := by
  have hw : writer? r a = none := by
    simp only [writer?, hk, hr, Option.bind_eq_bind, Option.bind_some, Option.bind_none]
  simp only [writeEntry, hk, Option.forM, writeOptions_of_writer?_eq_none hw]

/-- Options that were filled up once are written as they were before. -/
theorem writeRaw_map_pad (o : Option Octets) : writeRaw (o.map Octets.pad) = writeRaw o := by
  cases o with
  | none => rfl
  | some d => exact congrArg (Build.nested optionsType) (Build.append_pad d)

theorem settled_writeRaw (o : Option Octets) : Build.Settled (writeRaw o) :=
  .option fun d _ => (Build.Writes.append d).settled.nested

theorem settled_writeEntry_of_isRaw (h : a.IsRaw r) : Build.Settled (writeEntry r a) := by
  obtain ⟨k, hk, -, -, hr⟩ := h.kind
  rw [writeEntry_of_raw hk hr]
  exact (Build.Settled.attr ..).bind (settled_writeRaw a.options)

/-- Raw options stand in their nest together with their filling. -/
theorem yields_writeRaw {o : Option Octets} (h : Build.Writes (writeRaw o) d) :
    Build.Yields (writeRaw o) (Attr.optional optionsType (o.map Octets.pad)) := by
  cases o with
  | none => exact .pure
  | some p => exact (Build.Writes.append p).yields_nested (by decide) h

theorem readEntry_of_isRaw (h : a.IsRaw r) (hd : Build.Writes (writeEntry r a) d) :
    readEntry r d = .ok { kind := a.kind, options := a.options.map Octets.pad } := by
  obtain ⟨k, hk, h0, hs, hr⟩ := h.kind
  have hkind : kindName k = k := Text.truncate_eq_self (Nat.le_of_lt_succ hs)
  rw [writeEntry_of_raw hk hr] at hd
  rw [readEntry_of_writes hkind h0 (settled_writeRaw a.options) (fun _ => yields_writeRaw) hd,
    readPayload, hr, hk]
  rfl

/-- A table of actions with raw options is read back as the same actions with their options filled
up. So the options come back as they were exactly when all of them are whole words. -/
theorem read_write_of_isRaw {type : UInt16} {b b' : Builder} (first : Nat)
    (h : ∀ a ∈ c.actions, a.IsRaw r) (hb : write type c r b = .ok () b') :
    ∃ d c', b.Gained b' type d ∧ read r first d = .ok c' ∧
      List.Forall₂ Action.IsFilled c.actions c'.actions ∧
      (c'.actions.map (·.options) = c.actions.map (·.options) ↔
        ∀ a ∈ c.actions, ∀ o ∈ a.options, o.length % 4 = 0) := by
  obtain ⟨d, entry, hgain, hlist, hentry⟩ :=
    exists_entries_of_write_eq_ok (fun a ha => settled_writeEntry_of_isRaw (h a ha)) hb
  let back (a : Action P) : Action P := { kind := a.kind, options := a.options.map Octets.pad }
  have hread : ∀ a ∈ c.actions, readEntry r (entry a) = .ok (back a) := fun a ha =>
    readEntry_of_isRaw (h a ha) (hentry a ha)
  obtain ⟨c', hc', hback⟩ := read_of_list first hread hlist
  refine ⟨d, c', hgain, hc', ?_, ?_⟩
  · rw [hback, List.forall₂_map_right_iff]
    exact List.forall₂_same.mpr fun a _ => ⟨rfl, rfl, rfl⟩
  · rw [hback, List.map_map, List.map_inj_left]
    refine forall₂_congr fun a _ => ?_
    cases ho : a.options with
    | none => simp [back, ho]
    | some o => simp [back, ho, Octets.pad_eq_self_iff]

/-- Three actions of a kind without a codec: no options, empty ones, and five octets. -/
def police : Chain Builtin where
  toList :=
    [⟨4, { kind := some "police" }⟩, ⟨2, { kind := some "police", options := some [] }⟩,
      ⟨7, { kind := some "police", options := some [1, 2, 3, 4, 5] }⟩]
  length_le := by decide
  nodup := by decide

theorem read_write_police :
    (∀ a ∈ police.actions, a.IsRaw .builtin) ∧
      ∃ b b' : Builder, write 1 police .builtin b = .ok () b' ∧
        ∃ d c', b.Gained b' 1 d ∧ read .builtin 9 d = .ok c' ∧
          List.Forall₂ Action.IsFilled police.actions c'.actions ∧
          (c'.actions.map (·.options) = police.actions.map (·.options) ↔
            ∀ a ∈ police.actions, ∀ o ∈ a.options, o.length % 4 = 0) := by
  have hraw : ∀ a ∈ police.actions, a.IsRaw .builtin := by
    intro a ha
    have hkind : a.kind = some "police" ∧ a.payload = none := by
      simp only [Chain.actions, police, List.map_cons, List.map_nil, List.mem_cons,
        List.not_mem_nil, or_false] at ha
      rcases ha with rfl | rfl | rfl <;> exact ⟨rfl, rfl⟩
    exact ⟨⟨"police", hkind.1, by decide, by decide, by decide⟩, hkind.2⟩
  have hw : (pure police >>= fun c => Build.message (write 1 c .builtin) (.new 0 0)).map
      (·.payload.length) = .ok 68 := by decide +kernel
  obtain ⟨c, b', hc, hb, -⟩ := Build.exists_of_message_eq_ok hw
  cases hc
  exact ⟨hraw, .new 0 0, b', hb, read_write_of_isRaw 9 hraw hb⟩

/-- One octet of raw options comes back as four. -/
theorem exists_read_write_ne :
    ∃ (c : Chain Builtin) (b b' : Builder) (d : Octets) (c' : Chain Builtin),
      (∀ a ∈ c.actions, a.IsRaw .builtin) ∧ write 1 c .builtin b = .ok () b' ∧
        b.Gained b' 1 d ∧ read .builtin 0 d = .ok c' ∧
        c.actions.map (·.options) = [some [1]] ∧
        c'.actions.map (·.options) = [some [1, 0, 0, 0]] := by
  let a : Action Builtin := { kind := some "police", options := some [1] }
  let c : Chain Builtin := ⟨[⟨0, a⟩], by decide, by decide⟩
  let d : Octets := [24, 0, 1, 128, 11, 0, 1, 0, 112, 111, 108, 105, 99, 101, 0, 0,
    8, 0, 2, 128, 1, 0, 0, 0]
  have hraw : ∀ x ∈ c.actions, x.IsRaw .builtin := by
    intro x hx
    rw [List.mem_singleton.mp hx]
    exact ⟨⟨"police", rfl, by decide, by decide, by decide⟩, rfl⟩
  have hw : (pure c >>= fun c => Build.message (write 1 c .builtin) (.new 0 0)).map (·.payload) =
      .ok ([28, 0, 1, 128] ++ d) := by decide +kernel
  have hr : (read .builtin 0 d).map (fun c' : Chain Builtin => c'.actions.map (·.options)) =
      .ok [some [1, 0, 0, 0]] := by decide +kernel
  obtain ⟨_, b', hpure, hb, hpayload⟩ := Build.exists_of_message_eq_ok hw
  cases hpure
  obtain ⟨c', hc, hoptions⟩ := exists_eq_ok_of_map_eq_ok hr
  refine ⟨c, _, b', d, c', hraw, hb, ⟨_, hpayload, ?_, ?_⟩, hc, rfl, hoptions⟩
  · decide +kernel
  · decide +kernel

end ActionTable
end TrafficControl
