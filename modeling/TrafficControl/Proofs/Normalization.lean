import TrafficControl.Proofs.Reencoding

/-!
# Normal tables

Reading a table loses much of it: the gaps between places, all but the last entry of a place, attributes
that nobody asks for, the parameters that a configuration does not keep, a share that its mode rules
out. Writing fills raw options up. All this happens the first time. What was read and written once is,
if it can be read at all, read as a chain that is written as the same octets, so reading and writing
again changes nothing any more.

The step is that of one entry: what is read from a written entry is written alike
(`ComesBack.writeEntry_eq`). A table follows because its entries are read one by one, and because what
a nest writes does not depend on the builder or on the type of the nest.
-/
namespace TrafficControl

variable {P : Type}

theorem Builder.Gained.unique {b b' : Builder} {type : UInt16} {d e : Octets}
    (hd : b.Gained b' type d) (he : b.Gained b' type e) : d = e := by
  obtain ⟨f, hf, hlist, -⟩ := hd
  obtain ⟨g, hg, hlist', -⟩ := he
  obtain rfl : f = g := List.append_cancel_left (hf.symm.trans hg)
  rw [hlist] at hlist'
  cases hlist'
  rfl

namespace ActionTable

variable {r : Registry P} {c c' : Chain P} {entry : Action P → Octets} {e : Octets}

/-- A table holds the same octets wherever it is written. -/
theorem gained_of_write_eq_ok (h : ∀ a ∈ c.actions, Build.Settled (writeEntry r a))
    {type t : UInt16} {b b' b₁ b₁' : Builder} (hb : write type c r b = .ok () b')
    (he : b.Gained b' type e) (hb₁ : write t c r b₁ = .ok () b₁') : b₁.Gained b₁' t e := by
  have hentries : Build.Settled
      (c.ordered.forM fun x => Build.nested (UInt16.ofNat x.1) (writeEntry r x.2.action)) :=
    .forM fun x hx => (h _ (mem_actions_of_mem_ordered hx).2).nested
  obtain ⟨d, hd, hgain⟩ := hentries.exists_gained_of_nested hb
  obtain ⟨d₁, hd₁, hgain₁⟩ := hentries.exists_gained_of_nested hb₁
  rwa [he.unique hgain, hd.unique hd₁]

/-- A table that can be read has only entries that can, and the chain has what they give. -/
theorem exists_actions_eq_map (hlist : Attr.list e = entries c.actions entry) {first : Nat}
    (hc : read r first e = .ok c') :
    ∃ back, (∀ a ∈ c.actions, readEntry r (entry a) = .ok (back a)) ∧
      c'.actions = c.actions.map back := by
  have hmap := map_readEntry_of_read hc
  rw [filterMap_places hlist, List.map_map] at hmap
  have hback : ∀ a ∈ c.actions, ∃ a', readEntry r (entry a) = .ok a' := by
    intro a ha
    have hm := List.mem_map_of_mem (f := readEntry r ∘ entry) ha
    rw [hmap] at hm
    obtain ⟨a', -, ha'⟩ := List.mem_map.mp hm
    exact ⟨a', ha'.symm⟩
  choose! back hback using hback
  refine ⟨back, hback, ?_⟩
  apply List.map_injective_iff.mpr fun _ _ => Except.ok.inj
  rw [← hmap, List.map_map, List.map_inj_left]
  exact hback

section Builtin

variable [Payload P] [Holds P Gact] [Holds P Mirred] [Holds P Skbedit] [Holds P Vlan]

/-- What is written of a table that was read is normal: if it can be read in its turn, then as the same
kinds in the same order, and the chain that it gives is written as the same octets, into any builder
and under any type. -/
theorem read_write_normal {d : Octets} {first first' : Nat} {type : UInt16} {b b' : Builder}
    (hd : read .builtin first d = .ok c) (hb : write type c .builtin b = .ok () b')
    (he : b.Gained b' type e) (hc : read .builtin first' e = .ok c') :
    write type c' .builtin b = .ok () b' ∧
      (∀ t b₁, write t c' .builtin b₁ = write t c .builtin b₁) ∧
      (∀ t b₁ b₁', write t c' .builtin b₁ = .ok () b₁' → b₁.Gained b₁' t e) ∧
      c'.length = c.length ∧ c'.actions.map (·.kind) = c.actions.map (·.kind) := by
  have hcomes : ∀ a ∈ c.actions, ComesBack .builtin a := fun a ha =>
    comesBack_of_isRead (isRead_of_read hd a ha)
  have hsettled : ∀ a ∈ c.actions, Build.Settled (writeEntry .builtin a) := fun a ha =>
    (hcomes a ha).settled
  obtain ⟨e', entry, hgain, hlist, hentry⟩ := exists_entries_of_write_eq_ok hsettled hb
  obtain rfl := he.unique hgain
  obtain ⟨back, hback, hactions⟩ := exists_actions_eq_map hlist hc
  have hkind : ∀ a ∈ c.actions, (back a).kind = a.kind := by
    intro a ha
    by_cases hbare : a.IsBare .builtin
    · obtain ⟨err, herr⟩ := (hcomes a ha).error hbare (hentry a ha)
      rw [hback a ha] at herr
      cases herr
    · obtain ⟨a', ha', halike⟩ := (hcomes a ha).ok hbare (hentry a ha)
      rw [hback a ha] at ha'
      cases ha'
      exact halike.kind
  have hwrite (t : UInt16) : write t c' .builtin = write t c .builtin :=
    write_congr t hactions fun a ha => (hcomes a ha).writeEntry_eq (hentry a ha) (hback a ha)
  have hlength : c'.actions.length = c.actions.length := by rw [hactions, List.length_map]
  refine ⟨?_, fun t b₁ => ?_, fun t b₁ b₁' hb₁ => ?_, ?_, ?_⟩
  · rw [hwrite, hb]
  · rw [hwrite]
  · rw [hwrite] at hb₁
    exact gained_of_write_eq_ok hsettled hb he hb₁
  · rwa [Chain.actions, Chain.actions, List.length_map, List.length_map] at hlength
  · rw [hactions, List.map_map, List.map_inj_left]
    exact hkind

end Builtin

/-- A table with much to lose: two entries for one place, a gap, places out of order, raw options of one
octet, a share whose mode rules it out, and parameters that only the kernel sets. -/
def lossyTable : Octets :=
  Attr.written 2 [] ++
    Attr.written 6 (Attr.written 2 [1] ++ Attr.written 1 (Attr.ofText "police")) ++
    Attr.written 2 (Attr.written 1 (Attr.ofText "gact") ++
      Attr.written 2 (Attr.written 2 (Params.octets ⟨7, 9, .drop, 1, 1⟩) ++
        Attr.written 3 (Octets.u16 0 ++ Octets.u16 5 ++ Octets.i32 1)))

/-- What is left of it. -/
def normalTable : Octets :=
  Attr.written 0x8001 (Attr.written 1 (Attr.ofText "gact") ++
      Attr.written 0x8002 (Attr.written 2 (Params.of 7 .drop).octets)) ++
    Attr.written 0x8002 (Attr.written 1 (Attr.ofText "police") ++
      Attr.written 0x8002 [1, 0, 0, 0])

theorem read_write_normal_lossyTable :
    ∃ (c c' : Chain Builtin) (b b' : Builder), read .builtin 0 lossyTable = .ok c ∧
      write 1 c .builtin b = .ok () b' ∧ b.Gained b' 1 normalTable ∧
      read .builtin 4 normalTable = .ok c' ∧ write 1 c' .builtin b = .ok () b' ∧
      (∀ t b₁, write t c' .builtin b₁ = write t c .builtin b₁) ∧
      (∀ t b₁ b₁', write t c' .builtin b₁ = .ok () b₁' → b₁.Gained b₁' t normalTable) ∧
      c'.length = c.length ∧ c'.actions.map (·.kind) = c.actions.map (·.kind) := by
  have h : ((read .builtin 0 lossyTable : Except Error (Chain Builtin)) >>= fun c =>
      Build.message (write 1 c .builtin) (.new 0 0)).map (·.payload) =
      .ok (Attr.written 0x8001 normalTable) := by decide +kernel
  have hnormal : (read (P := Builtin) .builtin 4 normalTable).isOk := by decide +kernel
  obtain ⟨c, b', hd, hb, hpayload⟩ := Build.exists_of_message_eq_ok h
  have he : Builder.Gained (.new 0 0) b' 1 normalTable :=
    ⟨_, hpayload, by decide +kernel, by decide +kernel⟩
  cases hc : read (P := Builtin) .builtin 4 normalTable with
  | error err =>
      rw [hc] at hnormal
      cases hnormal
  | ok c' => exact ⟨c, c', _, b', hd, hb, he, rfl, read_write_normal hd hb he hc⟩

end ActionTable
end TrafficControl
