import Mathlib.Data.List.Forall2
import Mathlib.Tactic.Choose
import TrafficControl.Proofs.ChainRuns
import TrafficControl.Proofs.MessageDelivery
import TrafficControl.Proofs.MessageReading
import TrafficControl.Proofs.TableRoundTrip
import TrafficControl.Request

/-!
# Round trips of requests

A request for a chain of actions made from built-in configurations can always be built, since no
chain is long enough to reach the limit of a message. A receiver of the finished message gets the
actions back in their order, each with its kind and its configuration, and a request for the actions
it got is the same message again.
-/
namespace TrafficControl

namespace Message

theorem Header.readAt_octets_append (h : Header) (d : Octets) : readAt (h.octets ++ d) 0 = h := by
  simp only [readAt, octets, List.append_assoc]
  simp [Octets.u32At_append_right, Octets.u16At_append_right, Octets.u32At_u32_append,
    Octets.u16At_u16_append]

/-- The attributes of a message are those behind its fixed part. -/
theorem ActionMessage.read_octets_append (h : Family) (d : Octets) :
    read (h.octets ++ d) = .ok ((Attr.list d).foldl put { family := h }) := by
  have hl : 4 ≤ (h.octets ++ d).length := by
    rw [List.length_append, h.length_octets]
    exact Nat.le_add_right 4 d.length
  have hp : Octets.u16At (h.octets ++ d) 2 = h.pad2 := by
    rw [Family.octets, List.append_assoc, Octets.u16At_append_right (Nat.le_refl 2)]
    exact Octets.u16At_u16_append h.pad2 d
  have hd : (h.octets ++ d).drop 4 = d := List.drop_left' h.length_octets
  rw [read_of_le hl, hd, hp]
  rfl

theorem front_finish {b : Builder} (h : b.length < 2 ^ 32) :
    front b.finish = ⟨b.header b.length, b.payload⟩ := by
  have hh : Header.readAt b.finish 0 = b.header b.length := Header.readAt_octets_append ..
  have hn : (b.header b.length).length.toNat = b.length := UInt32.toNat_ofNat_of_lt' h
  have hp : (b.finish.take b.length).drop headerLength = b.payload := by
    rw [← Builder.length_finish, List.take_length, Builder.finish, headerLength,
      List.drop_left' (Header.length_octets _)]
  rw [front, hh, hn, hp]

theorem length_front_finish {b : Builder} (h : b.length < 2 ^ 32) :
    (front b.finish).header.length.toNat = b.length := by
  rw [front_finish h]
  exact UInt32.toNat_ofNat_of_lt' h

theorem isWhole_finish {b : Builder} (h : b.length < 2 ^ 32) : IsWhole b.finish := by
  rw [IsWhole, length_front_finish h, Builder.length_finish]
  exact ⟨Nat.le_add_right .., Nat.le_refl _⟩

end Message

/-- A receiver that takes every action in and always wants more. -/
def Receiver.proceeding {P σ : Type} (f : Action P → σ → σ) : Receiver P σ :=
  fun a s => .ok .proceed (f a s)

namespace Delivery

/-- A finished message is read as its header and its payload. -/
theorem readFrame_finish (b : Builder) (h : b.length < 2 ^ 32) :
    readFrame b.finish = .ok ⟨b.header b.length, b.payload⟩ := by
  rw [readFrame_of_isWhole (Message.isWhole_finish h), Message.front_finish h]

variable {P σ : Type}

theorem deliver_proceeding (f : Action P → σ → σ) (as : List (Action P)) (s : σ) :
    deliver (.proceeding f) as s = .ok () (as.foldl (fun s a => f a s) s) := by
  induction as generalizing s with
  | nil => rfl
  | cons a as ih => exact ih (f a s)

end Delivery

namespace Request

variable {P : Type} {r : Registry P} {c : Chain P} {entry options : Action P → Octets}

/-- A chain whose actions have short entries gives a message of known contents. -/
theorem build_of_carries (q : Request) (flags : UInt16)
    (h : ∀ a ∈ c.actions, ActionTable.Carries r a (entry a) (options a)) :
    ∃ b d, q.build c flags r = .ok b ∧ b.type = q.type ∧ b.length ≤ Builder.defaultLimit ∧
      b.payload = Message.Family.unspecified.octets ++
        Attr.written (Message.tableType ||| Attr.nestedFlag) d ∧
      Attr.headerLength + d.length ≤ Attr.maxLength ∧
      Attr.list d = ActionTable.entries c.actions entry := by
  obtain ⟨d, hd, hdl, hda⟩ := ActionTable.exists_writes Message.tableType h
  have hw := (Build.Writes.append Message.Family.unspecified.octets).bind hd
  have hf : Octets.pad Message.Family.unspecified.octets = Message.Family.unspecified.octets := rfl
  rw [hf] at hw
  have hsize : (Attr.written (Message.tableType ||| Attr.nestedFlag) d).length ≤ 2692 := by
    rw [Attr.length_written]
    exact align_le_of_le (Nat.add_le_add_left hdl _) (by decide)
  have hroom : (Builder.withLimit q.type (q.flags flags) Builder.defaultLimit).length +
      align (Message.Family.unspecified.octets ++
        Attr.written (Message.tableType ||| Attr.nestedFlag) d).length ≤
      (Builder.withLimit q.type (q.flags flags) Builder.defaultLimit).limit := by
    rw [align_eq_self hw.aligned, List.length_append, Message.Family.length_octets]
    simp only [Builder.withLimit, Builder.length, List.length_nil, Message.headerLength,
      Message.Family.length, Builder.defaultLimit]
    omega
  have hfit : Attr.headerLength + d.length ≤ Attr.maxLength :=
    Nat.le_trans (Nat.add_le_add_left hdl _) (by decide)
  refine ⟨Builder.extend _ _ hroom, d, ?_, rfl, ?_, ?_, hfit, hda⟩
  · rw [build, buildWithLimit, Build.message, hw.ok _ hroom]
  · rw [Builder.length_extend]
    exact hroom
  · rw [Builder.payload_extend, Octets.pad_eq_self hw.aligned]
    rfl

theorem readActions_of_carries (q : Request) (links : Option LinkLookup) {h : Message.Header}
    {d : Octets} (ht : h.type = q.type) (hd : Attr.headerLength + d.length ≤ Attr.maxLength)
    (hc : ∀ a ∈ c.actions, ActionTable.Carries r a (entry a) (options a))
    (hda : Attr.list d = ActionTable.entries c.actions entry) :
    Delivery.readActions r links ⟨h, Message.Family.unspecified.octets ++
        Attr.written (Message.tableType ||| Attr.nestedFlag) d⟩ =
      .ok (c.actions.map fun a =>
        Delivery.stamp q.type 0 links (a.setOptions (options a))) := by
  have hk : ¬ (StoreInfo.actions.kind? q.type).isNone := by cases q <;> decide
  have hl : Attr.list (Attr.written (Message.tableType ||| Attr.nestedFlag) d) =
      [⟨Message.tableType, d⟩] := by
    rw [← List.append_nil (Attr.written _ d), Attr.list_written_append [] hd, Attr.list_nil]
    rfl
  have hm : Message.ActionMessage.read (Message.Family.unspecified.octets ++
      Attr.written (Message.tableType ||| Attr.nestedFlag) d) =
      .ok { family := .unspecified, table := some d } := by
    rw [Message.ActionMessage.read_octets_append, hl]
    rfl
  obtain ⟨b, hb, hba⟩ := ActionTable.readWith_of_list (σ := Unit)
    (g := Delivery.stamp q.type 0 links) 0 (fun a ha => (hc a ha).read) hda ()
  have hf : Message.Family.unspecified.family = 0 := rfl
  rw [Delivery.readActions]
  simp only [ht, if_neg hk, hm, bind, Except.bind, hf, hb, ← hba]
  rfl

theorem receive_finish_of_carries (q : Request) (flags : UInt16) (links : Option LinkLookup)
    (h : ∀ a ∈ c.actions, ActionTable.Carries r a (entry a) (options a)) :
    ∃ b, q.build c flags r = .ok b ∧ ∀ {σ : Type} (receiver : Receiver P σ),
      Delivery.receive r links receiver b.finish =
        Delivery.deliver receiver (c.actions.map fun a =>
          Delivery.stamp q.type 0 links (a.setOptions (options a))) := by
  obtain ⟨b, d, hb, ht, hl, hp, hd, hda⟩ := q.build_of_carries flags h
  refine ⟨b, hb, fun {_} receiver => ?_⟩
  have hf := Delivery.readFrame_finish b (Nat.lt_of_le_of_lt hl (by decide))
  have ha := readActions_of_carries q links (h := b.header b.length) ht hd h hda
  rw [hp] at hf
  rw [Delivery.receive, hf]
  change Delivery.receiveFrame r links receiver _ = _
  rw [Delivery.receiveFrame, ha]
  rfl

end Request

/-- What a message of the given type tells of an action that was written: its kind and its
configuration, no statistics, and where it came from. -/
structure Action.IsCopy {P : Type} (type : UInt16) (a d : Action P) : Prop where
  kind : d.kind = a.kind
  payload : d.payload = a.payload
  stats : d.stats = .empty
  messageType : d.messageType = some type
  family : d.family = 0

theorem Action.isCopy_stamp {P : Type} {a : Action P} (h : a.stats = .empty) (type : UInt16)
    (links : Option LinkLookup) (o : Octets) :
    a.IsCopy type (Delivery.stamp type 0 links (a.setOptions o)) := by
  cases links with
  | none => exact ⟨rfl, rfl, h, rfl, rfl⟩
  | some links =>
      simp only [Delivery.stamp, Action.resolve]
      split
      · exact ⟨rfl, rfl, h, rfl, rfl⟩
      · exact ⟨rfl, rfl, h, rfl, rfl⟩

section Builtin

variable {P : Type} [Payload P] [Holds P Gact] [Holds P Mirred] [Holds P Skbedit] [Holds P Vlan]

inductive Action.FromBuiltin : Action P → Prop where
  | gact {c : Gact} (h : c.Made) : FromBuiltin (.ofConfig c)
  | mirred (c : Mirred) : FromBuiltin (.ofConfig c)
  | skbedit (c : Skbedit) : FromBuiltin (.ofConfig c)
  | vlan (c : Vlan) : FromBuiltin (.ofConfig c)

theorem Action.FromBuiltin.exists_carries {a : Action P} (h : a.FromBuiltin) :
    ∃ d o, ActionTable.Carries .builtin a d o := by
  cases h with
  | gact h => exact ActionTable.exists_carries Registry.serves_gact (Gact.readsBack h)
  | mirred c => exact ActionTable.exists_carries Registry.serves_mirred c.readsBack
  | skbedit c => exact ActionTable.exists_carries Registry.serves_skbedit c.readsBack
  | vlan c => exact ActionTable.exists_carries Registry.serves_vlan c.readsBack

/-- A request for actions of the built-in kinds can be built, is delivered as those actions in their
order, and is built again from what was delivered. -/
theorem build_receive_build (q : Request) (flags : UInt16) (links : Option LinkLookup)
    (c : Chain P) (h : ∀ a ∈ c.actions, a.FromBuiltin) :
    ∃ b as, q.build c flags .builtin = .ok b ∧
      (∀ {σ : Type} (f : Action P → σ → σ) (s : σ),
        Delivery.receive .builtin links (.proceeding f) b.finish s =
          .ok () (as.foldl (fun s a => f a s) s)) ∧
      List.Forall₂ (Action.IsCopy q.type) c.actions as ∧
      ∀ xs : List (Shared P), xs.map (·.action) = as → (xs.map (·.id)).Nodup →
        ∃ c' b', Chain.ofList xs = .ok c' ∧ q.build c' flags .builtin = .ok b' ∧
          b'.finish = b.finish := by
  choose! entry options hcarries using fun a ha => (h a ha).exists_carries
  obtain ⟨b, hb, hreceive⟩ := q.receive_finish_of_carries flags links hcarries
  let back (a : Action P) := Delivery.stamp q.type 0 links (a.setOptions (options a))
  have hcopy : ∀ a ∈ c.actions, a.IsCopy q.type (back a) := fun a ha =>
    Action.isCopy_stamp (by cases h a ha <;> rfl) q.type links (options a)
  refine ⟨b, c.actions.map back, hb, fun f s => ?_, ?_, fun xs hxs hn => ?_⟩
  · rw [hreceive]
    exact Delivery.deliver_proceeding f _ s
  · rw [List.forall₂_map_right_iff]
    exact List.forall₂_same.mpr hcopy
  · have hl : xs.length ≤ Chain.maxLength := by
      have := congrArg List.length hxs
      rw [List.length_map, List.length_map, Chain.actions, List.length_map] at this
      exact this ▸ c.length_le
    obtain ⟨c', hc', hc'l⟩ := Chain.ofList_of_nodup hl hn
    have hactions : c'.actions = c.actions.map back := by rw [Chain.actions, hc'l, hxs]
    have hwrite := ActionTable.write_congr Message.tableType hactions fun a ha =>
      (hcarries a ha).writeEntry_eq (hcopy a ha).kind (hcopy a ha).payload
    refine ⟨c', b, hc', ?_, rfl⟩
    rw [← hb, Request.build, Request.buildWithLimit, hwrite]
    rfl

end Builtin

/-- One action of each built-in kind, with everything set that can be set. -/
def Chain.mixed : Chain Builtin where
  toList :=
    [⟨7, .ofConfig (((Gact.new .pipe).withIndex 9).random 120 .drop)⟩,
      ⟨3, .ofConfig ((Mirred.redirectByIndex 4294967295).withVerdict (-1))⟩,
      ⟨5, .ofConfig (((Skbedit.new.withQueue 3).withPriority 65536).withMaskedMark 1 255)⟩,
      ⟨4, .ofConfig ((Vlan.push 4095).qinq.withPriority 7)⟩]
  length_le := by decide
  nodup := by decide

theorem build_receive_build_mixed :
    (∀ a ∈ Chain.mixed.actions, a.FromBuiltin) ∧
      ∃ b as, Request.change.build Chain.mixed 0x400 .builtin = .ok b ∧
        (∀ {σ : Type} (f : Action Builtin → σ → σ) (s : σ),
          Delivery.receive .builtin none (.proceeding f) b.finish s =
            .ok () (as.foldl (fun s a => f a s) s)) ∧
        List.Forall₂ (Action.IsCopy 48) Chain.mixed.actions as ∧
        ∀ xs : List (Shared Builtin), xs.map (·.action) = as → (xs.map (·.id)).Nodup →
          ∃ c' b', Chain.ofList xs = .ok c' ∧
            Request.change.build c' 0x400 .builtin = .ok b' ∧ b'.finish = b.finish := by
  have h : ∀ a ∈ Chain.mixed.actions, a.FromBuiltin := by
    intro a ha
    simp only [Chain.actions, Chain.mixed, List.map_cons, List.map_nil, List.mem_cons,
      List.not_mem_nil, or_false] at ha
    rcases ha with rfl | rfl | rfl | rfl
    · exact .gact (((Gact.Made.new _).withIndex _).random _ _)
    · exact .mirred _
    · exact .skbedit _
    · exact .vlan _
  exact ⟨h, build_receive_build .change 0x400 none Chain.mixed h⟩

end TrafficControl
