import TrafficControl.Proofs.TableWriting
import TrafficControl.Request

/-!
# Requests under a limit

Every addition to a message is checked against the limit: headers, texts, options and raw octets,
and also what a codec writes. All these checks together come to one, which compares the length of
the finished message with the limit. So the limit decides whether a request can be built, and
nothing about what is in it.

A payload that is written by more than additions is not bound by this. Its writer may fail for any
reason, and it may look at the limit and write it.
-/
namespace TrafficControl

namespace Build

variable {x : Build Unit} {d : Octets} {limit : Nat}

/-- A message without sequence number and with this payload, as it is sent. -/
def finished (type flags : UInt16) (d : Octets) : Octets :=
  Message.Header.octets ⟨UInt32.ofNat (Message.headerLength + d.length), type, flags, 0, 0⟩ ++ d

theorem length_finished (type flags : UInt16) (d : Octets) :
    (finished type flags d).length = Message.headerLength + d.length := by
  rw [finished, List.length_append, Message.Header.length_octets, Message.headerLength]

theorem Writes.exists_message_eq_ok (hx : Writes x d) (type flags : UInt16)
    (h : Message.headerLength + d.length ≤ max limit Message.headerLength) :
    ∃ b, message x (.withLimit type flags limit) = .ok b ∧ b.finish = finished type flags d := by
  have hroom : (Builder.withLimit type flags limit).length + align d.length ≤
      (Builder.withLimit type flags limit).limit := by
    rwa [align_eq_self hx.aligned]
  refine ⟨(Builder.withLimit type flags limit).extend d hroom, ?_, ?_⟩
  · rw [message, hx.ok _ hroom]
  · rw [Builder.finish, Builder.length_extend, align_eq_self hx.aligned, Builder.payload_extend,
      Octets.pad_eq_self hx.aligned]
    rfl

theorem Writes.exists_message_eq_tooLarge (hx : Writes x d) (type flags : UInt16)
    (h : max limit Message.headerLength < Message.headerLength + d.length) :
    ∃ n, max limit Message.headerLength < n ∧ message x (.withLimit type flags limit) =
      .error (.tooLarge n (max limit Message.headerLength)) := by
  obtain ⟨n, b, hn, hb⟩ := hx.tooLarge (.withLimit type flags limit) h
  refine ⟨n, hn, ?_⟩
  rw [message, hb]
  rfl

theorem Writes.finish_of_message (hx : Writes x d) {type flags : UInt16} {b : Builder}
    (h : message x (.withLimit type flags limit) = .ok b) : b.finish = finished type flags d := by
  by_cases hroom : Message.headerLength + d.length ≤ max limit Message.headerLength
  · obtain ⟨b', hb', hfinish⟩ := hx.exists_message_eq_ok type flags hroom
    cases h.symm.trans hb'
    exact hfinish
  · obtain ⟨n, -, he⟩ := hx.exists_message_eq_tooLarge type flags (Nat.not_le.mp hroom)
    cases h.symm.trans he

theorem Settled.exists_tooLarge_of_message (hx : Settled x) {b : Builder} {e : Error}
    (h : message x b = .error e) : ∃ n m, m < n ∧ e = .tooLarge n m := by
  rw [message] at h
  cases hb : x b with
  | ok u b' =>
      rw [hb] at h
      cases h
  | error err b' =>
      rw [hb] at h
      cases h
      exact hx.exists_tooLarge hb

end Build

namespace Request

variable {P : Type} [Payload P] [Holds P Gact] [Holds P Mirred] [Holds P Skbedit] [Holds P Vlan]

/-- What a request says behind its header: a family, and the table of the actions. -/
def body (c : Chain P) (r : Registry P) : Build Unit := do
  Build.append Message.Family.unspecified.octets
  ActionTable.write Message.tableType c r

omit [Payload P] [Holds P Gact] [Holds P Mirred] [Holds P Skbedit] [Holds P Vlan] in
theorem buildWithLimit_eq (q : Request) (c : Chain P) (flags : UInt16) (r : Registry P)
    (limit : Nat) : q.buildWithLimit c flags r limit =
      Build.message (body c r) (.withLimit q.type (q.flags flags) limit) := rfl

variable {c : Chain P}

theorem settled_body (h : ∀ a ∈ c.actions, a.OnlyAdds .builtin) :
    Build.Settled (body c .builtin) :=
  (Build.Writes.append _).settled.bind (ActionTable.settled_write _ h)

/-- The family alone takes octets, so the least limit there is leaves no room for a request. -/
theorem length_pos_of_writes_body {d : Octets} (h : ∀ a ∈ c.actions, a.OnlyAdds .builtin)
    (hd : Build.Writes (body c .builtin) d) : 0 < d.length := by
  obtain ⟨e, _, he, -, rfl⟩ :=
    hd.of_bind (Build.Writes.append _).settled (ActionTable.settled_write _ h)
  obtain rfl := he.unique (.append _)
  rw [List.length_append]
  exact Nat.lt_of_lt_of_le (by decide) (Nat.le_add_right ..)

/-- A request is refused for its length alone, if the payloads that codecs write are written by
additions. Where it can be built at all, the limits under which it can be built are those that its
finished message does not exceed, and the message is the same under all of them. -/
theorem buildWithLimit_of_limits (q : Request) (flags : UInt16)
    (h : ∀ a ∈ c.actions, a.OnlyAdds .builtin) :
    (∀ limit e, q.buildWithLimit c flags .builtin limit = .error e →
      ∃ n m, m < n ∧ e = .tooLarge n m) ∧
    ∀ limit b, q.buildWithLimit c flags .builtin limit = .ok b →
      (∀ limit', b.finish.length ≤ limit' →
        ∃ b', q.buildWithLimit c flags .builtin limit' = .ok b' ∧ b'.finish = b.finish) ∧
      ∀ limit' < b.finish.length,
        ∃ n, max limit' Message.headerLength < n ∧ q.buildWithLimit c flags .builtin limit' =
          .error (.tooLarge n (max limit' Message.headerLength)) := by
  simp only [buildWithLimit_eq]
  refine ⟨fun limit e he => (settled_body h).exists_tooLarge_of_message he, fun limit b hb => ?_⟩
  rcases settled_body h with ⟨d, hd⟩ | hr
  · have hlength : b.finish.length = Message.headerLength + d.length := by
      rw [hd.finish_of_message hb, Build.length_finished]
    have hpos := length_pos_of_writes_body h hd
    refine ⟨fun limit' hl => ?_, fun limit' hl => ?_⟩
    · rw [hlength] at hl
      rw [hd.finish_of_message hb]
      exact hd.exists_message_eq_ok _ _ (Nat.le_trans hl (Nat.le_max_left ..))
    · rw [hlength] at hl
      exact hd.exists_message_eq_tooLarge _ _
        (Nat.max_lt.mpr ⟨hl, Nat.lt_add_of_pos_right hpos⟩)
  · obtain ⟨n, m, b', -, he⟩ := hr (.withLimit q.type (q.flags flags) limit)
    rw [Build.message, he] at hb
    cases hb

/-- One entry of each shape fits into 132 octets and not into fewer. -/
theorem buildWithLimit_shapes :
    (∀ a ∈ ActionTable.shapes.actions, a.OnlyAdds .builtin) ∧
      ∃ b, add.buildWithLimit ActionTable.shapes 0x400 .builtin 132 = .ok b ∧
        b.finish.length = 132 ∧
        ∀ limit' < b.finish.length,
          ∃ n, max limit' Message.headerLength < n ∧
            add.buildWithLimit ActionTable.shapes 0x400 .builtin limit' =
              .error (.tooLarge n (max limit' Message.headerLength)) := by
  have h : ∀ a ∈ ActionTable.shapes.actions, a.OnlyAdds .builtin := fun a _ => a.onlyAdds .builtin
  have hl : (add.buildWithLimit ActionTable.shapes 0x400 .builtin 132).map (·.finish.length) =
      .ok 132 := by decide +kernel
  obtain ⟨b, hb, hlength⟩ := exists_eq_ok_of_map_eq_ok hl
  exact ⟨h, b, hb, hlength, ((buildWithLimit_of_limits add 0x400 h).2 _ b hb).2⟩

/-- Of payloads that are written by more than additions, one has its request refused under the name
of its kind, and another puts the limit into the message. -/
theorem exists_buildWithLimit_ne :
    add.buildWithLimit Custom.refusing.chain 0 .builtin Builder.defaultLimit =
      .error (.codec "gact" .notFound) ∧
    ∃ b b' : Builder, add.buildWithLimit Custom.measuring.chain 0 .builtin 100 = .ok b ∧
      add.buildWithLimit Custom.measuring.chain 0 .builtin 200 = .ok b' ∧
      b.finish.length ≤ 200 ∧ b'.finish ≠ b.finish := by
  have hless : (add.buildWithLimit Custom.measuring.chain 0 .builtin 100).map
      (fun b => (b.finish.length, b.finish.drop 48)) = .ok (52, [100, 0, 0, 0]) := by
    decide +kernel
  have hmore : (add.buildWithLimit Custom.measuring.chain 0 .builtin 200).map
      (·.finish.drop 48) = .ok [200, 0, 0, 0] := by decide +kernel
  obtain ⟨b, hb, hpair⟩ := exists_eq_ok_of_map_eq_ok hless
  obtain ⟨b', hb', hrest'⟩ := exists_eq_ok_of_map_eq_ok hmore
  obtain ⟨hlength, hrest⟩ := Prod.mk.inj hpair
  refine ⟨by decide +kernel, b, b', hb, hb', by rw [hlength]; decide, fun heq => ?_⟩
  rw [heq, hrest] at hrest'
  cases hrest'

end Request
end TrafficControl
