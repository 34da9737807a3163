import TrafficControl.Proofs.RawOptions

/-!
# Tables as they are written

A table of actions is one nest, and what it holds is the entries of its actions, one behind the
other, each a nest whose type is the place of the action. What is inside an entry depends on the
action alone: not on its place, not on the actions around it, and not on the message that is
written. So a table is put together from the entries of its actions, and one action more or less
shifts the places of those behind it and changes nothing else.

The codecs of the built-in kinds write whatever configuration an action carries. All that is asked
of a configuration from outside is that it is written by additions to the message and by nothing
else, as those of the library are (`Action.onlyAdds`). Without that its writer has the message in
its hands: it may change the header, or write what it finds there (`Custom`).
-/
namespace TrafficControl

namespace Build

/-- The computation does nothing but add to a message. -/
inductive OnlyAdds : Build Unit → Prop
  | pure : OnlyAdds (pure ())
  | append (d : Octets) : OnlyAdds (append d)
  | attr (t : UInt16) (d : Octets) : OnlyAdds (attr t d)
  | bind {x y} (hx : OnlyAdds x) (hy : OnlyAdds y) : OnlyAdds (x >>= fun _ => y)
  | nested {x} (t : UInt16) (hx : OnlyAdds x) : OnlyAdds (nested t x)

variable {x : Build Unit}

theorem OnlyAdds.option {α : Type} {f : α → Build Unit} (h : ∀ v, OnlyAdds (f v))
    (o : Option α) : OnlyAdds (o.forM f) := by
  cases o with
  | none => exact .pure
  | some v => exact h v

theorem OnlyAdds.settled (h : OnlyAdds x) : Settled x := by
  induction h with
  | pure => exact Writes.pure.settled
  | append d => exact (Writes.append d).settled
  | attr t d => exact .attr t d
  | bind _ _ ihx ihy => exact ihx.bind ihy
  | nested t _ ih => exact ih.nested

/-- What a computation writes into a message with room for the longest attribute. -/
def output (x : Build Unit) : Octets :=
  match x (.withLimit 0 0 (Message.headerLength + Attr.maxLength)) with
  | .ok _ b => b.payload
  | .error .. => []

theorem Writes.output_eq {d : Octets} (hx : Writes x d) (h : d.length ≤ Attr.maxLength) :
    output x = d := by
  let b : Builder := .withLimit 0 0 (Message.headerLength + Attr.maxLength)
  have hroom : b.length + align d.length ≤ b.limit := by
    rw [align_eq_self hx.aligned]
    exact Nat.le_trans (Nat.add_le_add_left h _) (Nat.le_max_left ..)
  rw [output, hx.ok b hroom]
  exact Octets.pad_eq_self hx.aligned

end Build

namespace Attr

/-- The written form of a nest with whole words in it. -/
def nest (type : UInt16) (d : Octets) : Octets :=
  (Header.ofPayload (type ||| nestedFlag) d.length).octets ++ d

theorem nest_eq_written {d : Octets} (type : UInt16) (h : d.length % 4 = 0) :
    nest type d = written (type ||| nestedFlag) d := (written_of_aligned _ h).symm

/-- Two nests with the same contents differ in their type alone. -/
theorem nest_eq_putU16 (s t : UInt16) (d : Octets) :
    nest t d = Octets.putU16 (nest s d) 2 (t ||| nestedFlag) := by
  simp only [nest, Header.octets, Header.ofPayload, List.append_assoc]
  rw [← Octets.length_u16, Octets.putU16_append]

end Attr

theorem Gact.onlyAdds_write (g : Gact) : Build.OnlyAdds g.write := by
  refine .bind (.attr ..) ?_
  split
  · exact .attr ..
  · exact .pure

theorem Mirred.onlyAdds_write (m : Mirred) : Build.OnlyAdds m.write := .attr ..

theorem Skbedit.onlyAdds_write (s : Skbedit) : Build.OnlyAdds s.write :=
  .bind (.attr ..) <| .bind (.option (fun _ => .attr ..) s.queue) <|
    .bind (.option (fun _ => .attr ..) s.priority) <|
      .bind (.option (fun _ => .attr ..) s.mark) (.option (fun _ => .attr ..) s.mask)

theorem Vlan.onlyAdds_write (v : Vlan) : Build.OnlyAdds v.write :=
  .bind (.attr ..) <| .bind (.option (fun _ => .attr ..) v.id) <|
    .bind (.option (fun _ => .attr ..) v.priority) (.attr ..)

variable {P : Type} [Payload P]

/-- A payload that a codec of the registry writes is written by additions. -/
def Action.OnlyAdds (r : Registry P) (a : Action P) : Prop :=
  ∀ k ∈ a.kind, (r.get? k).isSome → ∀ p ∈ a.payload, Build.OnlyAdds (Payload.write p)

/-- The configurations of the library itself are all written by additions. -/
theorem Action.onlyAdds (r : Registry Builtin) (a : Action Builtin) : a.OnlyAdds r := by
  intro _ _ _ p _
  cases p with
  | gact c => exact c.onlyAdds_write
  | mirred c => exact c.onlyAdds_write
  | skbedit c => exact c.onlyAdds_write
  | vlan c => exact c.onlyAdds_write

namespace ActionTable

omit [Payload P] in
theorem writeEntry_of_none (r : Registry P) {a : Action P} (hk : a.kind = none) :
    writeEntry r a = writeRaw a.options := by
  have hw : writer? r a = none := by
    simp only [writer?, hk, Option.bind_eq_bind, Option.bind_none]
  simp only [writeEntry, hk, Option.forM, writeOptions_of_writer?_eq_none hw]
  rfl

theorem onlyAdds_fillPayload {a : Action P}
    (h : ∀ p ∈ a.payload, Build.OnlyAdds (Payload.write p)) :
    Build.OnlyAdds (Codec.fillPayload a) := by
  rw [Codec.fillPayload]
  cases hp : a.payload with
  | some p => exact h p hp
  | none =>
      cases a.options with
      | some d => exact .append d
      | none => exact .pure

theorem settled_writeEntry_of_onlyAdds {r : Registry P} {α : Type} [Configuration α] [Holds P α]
    (hr : r.Serves α) {a : Action P} (h : a.OnlyAdds r)
    (hk : a.kind = some (Configuration.name α)) : Build.Settled (writeEntry r a) :=
  settled_writeEntry_of_serves hr hk (onlyAdds_fillPayload (h _ hk (by rw [hr.get?]; rfl))).settled

variable [Holds P Gact] [Holds P Mirred] [Holds P Skbedit] [Holds P Vlan]

theorem settled_writeEntry {a : Action P} (h : a.OnlyAdds .builtin) :
    Build.Settled (writeEntry .builtin a) := by
  cases hk : a.kind with
  | none =>
      rw [writeEntry_of_none _ hk]
      exact settled_writeRaw a.options
  | some k =>
      rcases Registry.get?_builtin (P := P) k with hr | rfl | rfl | rfl | rfl
      · rw [writeEntry_of_raw hk hr]
        exact (Build.Settled.attr ..).bind (settled_writeRaw a.options)
      · exact settled_writeEntry_of_onlyAdds Registry.serves_gact h hk
      · exact settled_writeEntry_of_onlyAdds Registry.serves_mirred h hk
      · exact settled_writeEntry_of_onlyAdds Registry.serves_skbedit h hk
      · exact settled_writeEntry_of_onlyAdds Registry.serves_vlan h hk

theorem settled_write {c : Chain P} (type : UInt16) (h : ∀ a ∈ c.actions, a.OnlyAdds .builtin) :
    Build.Settled (write type c .builtin) :=
  .nested (.forM (settled_nested_of_mem_ordered fun a ha => settled_writeEntry (h a ha)))

section Registry

omit [Holds P Gact] [Holds P Mirred] [Holds P Skbedit] [Holds P Vlan]

/-- What is written of an action wherever it stands. -/
def entry (r : Registry P) (a : Action P) : Octets := Build.output (writeEntry r a)

/-- The contents of a table: the entries of the actions, the first of them at this place. -/
def contents (r : Registry P) (place : Nat) (as : List (Action P)) : Octets :=
  (as.mapIdx fun i a => Attr.nest (.ofNat (place + i)) (entry r a)).flatten

omit [Payload P]

variable {r : Registry P} {as : List (Action P)}

theorem contents_cons (r : Registry P) (place : Nat) (a : Action P) (as : List (Action P)) :
    contents r place (a :: as) =
      Attr.nest (.ofNat place) (entry r a) ++ contents r (place + 1) as := by
  simp only [contents, List.mapIdx_cons, List.flatten_cons, Nat.add_zero, Nat.add_assoc,
    Nat.add_comm 1]

theorem contents_append (r : Registry P) (place : Nat) (as bs : List (Action P)) :
    contents r place (as ++ bs) = contents r place as ++ contents r (place + as.length) bs := by
  simp only [contents, List.mapIdx_append, List.flatten_append, Nat.add_assoc,
    Nat.add_comm as.length]

/-- The entries of these actions can be written, and none of them is too long. -/
def AreWritten (r : Registry P) (as : List (Action P)) : Prop :=
  ∀ a ∈ as, Build.Writes (writeEntry r a) (entry r a) ∧
    Attr.headerLength + (entry r a).length ≤ Attr.maxLength

theorem writes_contents (h : AreWritten r as) (place : Nat) :
    Build.Writes ((as.mapIdx fun i a => Build.nested (.ofNat (place + i)) (writeEntry r a)).forM id)
      (contents r place as) := by
  induction as generalizing place with
  | nil => exact .pure
  | cons a as ih =>
      obtain ⟨hw, hl⟩ := h a List.mem_cons_self
      have hrest := ih (fun b hb => h b (List.mem_cons_of_mem a hb)) (place + 1)
      simp only [Nat.add_assoc, Nat.add_comm 1] at hrest
      rw [List.mapIdx_cons, contents_cons, Attr.nest_eq_written _ hw.aligned]
      exact (hw.nested hl).bind hrest

/-- The contents of a table are read as its entries, numbered by place, and nothing is left over. -/
theorem list_contents (h : AreWritten r as) (place : Nat)
    (hp : place + as.length ≤ Attr.typeBound) :
    Attr.list (contents r place as) =
        as.mapIdx (fun i a => ⟨.ofNat (place + i), entry r a⟩) ∧
      Attr.leftover (contents r place as) = [] := by
  induction as generalizing place with
  | nil => exact ⟨Attr.list_nil, Attr.leftover_nil⟩
  | cons a as ih =>
      obtain ⟨hw, hl⟩ := h a List.mem_cons_self
      rw [List.length_cons] at hp
      obtain ⟨hlist, hleft⟩ := ih (fun b hb => h b (List.mem_cons_of_mem a hb)) (place + 1)
        (by omega)
      have htype : (UInt16.ofNat place).toNat < Attr.typeBound := by
        rw [Attr.typeBound] at *
        rw [UInt16.toNat_ofNat_of_lt' (by rw [UInt16.size]; omega)]
        omega
      simp only [Nat.add_assoc, Nat.add_comm 1] at hlist
      rw [contents_cons, Attr.nest_eq_written _ hw.aligned, Attr.list_written_append _ hl,
        Attr.leftover_written_append _ hl, Attr.or_nestedFlag_and_typeMask,
        Attr.and_typeMask htype, hlist, List.mapIdx_cons]
      exact ⟨rfl, hleft⟩

/-- A table that can be written at all is a nest with its contents, and these can be written. -/
theorem eq_nest_of_writes {c : Chain P} {type : UInt16} {d : Octets}
    (h : ∀ a ∈ c.actions, Build.Settled (writeEntry r a)) (hd : Build.Writes (write type c r) d) :
    AreWritten r c.actions ∧ d = Attr.nest type (contents r 1 c.actions) ∧
      Attr.headerLength + (contents r 1 c.actions).length ≤ Attr.maxLength := by
  obtain ⟨e, he, hl, rfl⟩ := hd.of_nested (.forM (settled_nested_of_mem_ordered h))
  have hwritten : AreWritten r c.actions := by
    intro a ha
    obtain ⟨o, ho, hol⟩ := exists_writes_of_writes_forM h he a ha
    have hentry : entry r a = o := ho.output_eq (Nat.le_trans (Nat.le_add_left ..) hol)
    exact hentry ▸ ⟨ho, hol⟩
  have hcontents := writes_contents hwritten 1
  simp only [Nat.add_comm 1] at hcontents
  rw [forM_ordered_eq] at he
  obtain rfl := he.unique hcontents
  exact ⟨hwritten, (Attr.nest_eq_written _ he.aligned).symm, hl⟩

/-- The octets are a nest of this type around the entries of the actions, and are read as such. -/
structure IsTable (r : Registry P) (type : UInt16) (as : List (Action P)) (d : Octets) : Prop where
  eq_nest : d = Attr.nest type (contents r 1 as)
  list_eq : Attr.list d = [⟨type, contents r 1 as⟩]
  leftover_eq : Attr.leftover d = []
  list_contents : Attr.list (contents r 1 as) = entries as (entry r)
  types : (Attr.list (contents r 1 as)).map (·.type.toNat) = List.range' 1 as.length
  leftover_contents : Attr.leftover (contents r 1 as) = []

theorem isTable_of_writes {c : Chain P} {type : UInt16} {d : Octets}
    (h : ∀ a ∈ c.actions, Build.Settled (writeEntry r a)) (ht : type.toNat < Attr.typeBound)
    (hd : Build.Writes (write type c r) d) : IsTable r type c.actions d := by
  obtain ⟨hwritten, rfl, hl⟩ := eq_nest_of_writes h hd
  have hlength : c.actions.length ≤ Chain.maxLength := by
    rw [Chain.actions, List.length_map]
    exact c.length_le
  have hnest := Attr.nest_eq_written type (writes_contents hwritten 1).aligned
  have hlist := Attr.list_written_append (t := type ||| Attr.nestedFlag) [] hl
  have hleft := Attr.leftover_written_append (t := type ||| Attr.nestedFlag) [] hl
  rw [List.append_nil, ← hnest] at hlist hleft
  rw [Attr.or_nestedFlag_and_typeMask, Attr.and_typeMask ht, Attr.list_nil] at hlist
  obtain ⟨hcontents, hrest⟩ := list_contents hwritten 1
    (Nat.le_trans (Nat.add_le_add_left hlength 1) (by decide))
  simp only [Nat.add_comm 1] at hcontents
  refine ⟨rfl, hlist, hleft.trans Attr.leftover_nil, hcontents, ?_, hrest⟩
  rw [hcontents]
  refine List.ext_getElem (by simp) fun i _ hi => ?_
  rw [List.length_range'] at hi
  rw [Chain.maxLength] at hlength
  rw [List.getElem_map, List.getElem_mapIdx, List.getElem_range', Nat.one_mul, Nat.add_comm 1,
    UInt16.toNat_ofNat_of_lt' (by rw [UInt16.size]; omega)]

end Registry

/-- What a chain adds to a message is its table, whatever the message holds and whatever its limit
is, if the payloads that codecs write are written by additions. With one action more or less in a
chain, the entries behind it have other places and are the same for the rest. -/
theorem isTable_and_contents {c : Chain P} (h : ∀ a ∈ c.actions, a.OnlyAdds .builtin)
    {type : UInt16} (ht : type.toNat < Attr.typeBound) :
    (∀ b b', write type c .builtin b = .ok () b' →
      ∃ d, b'.octets = b.octets ++ d ∧ IsTable .builtin type c.actions d) ∧
    (∀ (xs : List (Action P)) (a : Action P) (ys : List (Action P)),
      contents .builtin 1 (xs ++ ys) =
          contents .builtin 1 xs ++ contents .builtin (1 + xs.length) ys ∧
        contents .builtin 1 (xs ++ a :: ys) =
          contents .builtin 1 xs ++ (Attr.nest (.ofNat (1 + xs.length)) (entry .builtin a) ++
            contents .builtin (1 + xs.length + 1) ys)) ∧
    ∀ (s t : UInt16) (a : Action P),
      Attr.nest t (entry .builtin a) =
        Octets.putU16 (Attr.nest s (entry .builtin a)) 2 (t ||| Attr.nestedFlag) := by
  refine ⟨fun b b' hb => ?_, fun xs a ys => ⟨contents_append .., ?_⟩,
    fun s t a => Attr.nest_eq_putU16 s t _⟩
  · obtain ⟨d, hd, -⟩ := (settled_write type h).writes_of_ok hb
    exact ⟨d, hd.octets_eq hb, isTable_of_writes (fun a ha => settled_writeEntry (h a ha)) ht hd⟩
  · rw [contents_append, contents_cons]

/-- One entry of each shape: a configuration, raw options for a known and for an unknown kind,
options without a kind, and nothing at all. -/
def shapes : Chain Builtin where
  toList :=
    [⟨4, .ofConfig (Gact.new .pipe)⟩, ⟨2, { kind := some "vlan", options := some [1] }⟩,
      ⟨7, { kind := some "police", options := some [1, 2, 3, 4, 5] }⟩,
      ⟨1, { options := some [] }⟩, ⟨9, {}⟩]
  length_le := by decide
  nodup := by decide

theorem isTable_shapes :
    (∀ a ∈ shapes.actions, a.OnlyAdds .builtin) ∧
      ∃ b b' : Builder, write 1 shapes .builtin b = .ok () b' ∧
        ∃ d, b'.octets = b.octets ++ d ∧ IsTable .builtin 1 shapes.actions d := by
  have h : ∀ a ∈ shapes.actions, a.OnlyAdds .builtin := fun a _ => a.onlyAdds .builtin
  have hw : (pure shapes >>= fun c => Build.message (write 1 c .builtin) (.new 0 0)).map
      (·.payload.length) = .ok 112 := by decide +kernel
  obtain ⟨c, b', hc, hb, -⟩ := Build.exists_of_message_eq_ok hw
  cases hc
  exact ⟨h, .new 0 0, b', hb, (isTable_and_contents h (by decide)).1 _ _ hb⟩

end ActionTable

/-- A configuration from outside under the name of a built-in kind. Any computation on the message
can be what writes it. -/
structure Custom where
  write : Build Unit

namespace Custom

instance : Configuration Custom where
  kind := Configuration.kind Gact
  index _ := 0
  write := write
  parse _ := .error .notFound

/-- A chain with just this configuration. -/
def chain (v : Custom) : Chain (Builtin ⊕ Custom) where
  toList := [⟨0, .ofConfig v⟩]
  length_le := Nat.succ_pos 31
  nodup := List.nodup_cons.mpr ⟨List.not_mem_nil, List.nodup_nil⟩

/-- Its writer fails. -/
def refusing : Custom where
  write := throw .notFound

/-- Its writer adds a flag to the header of the message. -/
def flagging : Custom where
  write := modify (·.addFlags 0x400)

/-- Its writer writes the limit of the message. -/
def measuring : Custom where
  write := do Build.attrU32 1 (.ofNat (← get).limit)

end Custom

namespace ActionTable

/-- Of payloads that are written by more than additions, one changes the octets in front of the
table, and with another the same chain adds other octets under another limit. -/
theorem exists_write_not_isTable :
    (∃ b b' : Builder, write 1 Custom.flagging.chain .builtin b = .ok () b' ∧
      ∀ d, b'.octets ≠ b.octets ++ d) ∧
    ∃ b₁ b₂ b₁' b₂' : Builder, b₁.octets = b₂.octets ∧
      write 1 Custom.measuring.chain .builtin b₁ = .ok () b₁' ∧
      write 1 Custom.measuring.chain .builtin b₂ = .ok () b₂' ∧ b₁'.octets ≠ b₂'.octets := by
  have hflags : (pure Custom.flagging.chain >>= fun c =>
      Build.message (write 1 c .builtin) (.new 0 0)).map (·.octets.take 8) =
      .ok [16, 0, 0, 0, 0, 0, 0, 4] := by decide +kernel
  obtain ⟨c, b', hc, hb, hfront⟩ := Build.exists_of_message_eq_ok hflags
  cases hc
  refine ⟨⟨.new 0 0, b', hb, fun d hd => ?_⟩, ?_⟩
  · rw [hd, List.take_append_of_le_length (by decide)] at hfront
    revert hfront
    decide
  · have hless : (pure Custom.measuring.chain >>= fun c =>
        Build.message (write 1 c .builtin) (.withLimit 0 0 100)).map (·.octets.drop 44) =
        .ok [100, 0, 0, 0] := by decide +kernel
    have hmore : (pure Custom.measuring.chain >>= fun c =>
        Build.message (write 1 c .builtin) (.withLimit 0 0 200)).map (·.octets.drop 44) =
        .ok [200, 0, 0, 0] := by decide +kernel
    obtain ⟨c, b₁', hc, hb₁, hrest₁⟩ := Build.exists_of_message_eq_ok hless
    cases hc
    obtain ⟨c, b₂', hc, hb₂, hrest₂⟩ := Build.exists_of_message_eq_ok hmore
    cases hc
    refine ⟨.withLimit 0 0 100, .withLimit 0 0 200, b₁', b₂', rfl, hb₁, hb₂, fun heq => ?_⟩
    rw [heq, hrest₂] at hrest₁
    cases hrest₁

end ActionTable
end TrafficControl
