import TrafficControl.Proofs.BatchDelivery
import TrafficControl.Proofs.TableReading

/-!
# Delivery of one message

A message is read as a whole before the receiver sees anything of it. If it cannot be read, the
receiver is not called at all. If it can, the receiver is called on the actions of its table in their
order, up to the first call that does not let the delivery proceed, and that call decides what
becomes of the whole. What stands behind the message in the buffer plays no part.
-/
namespace TrafficControl

namespace Message

/-- The length that a header in front of `d` announces. In fewer octets than a header has, nothing
is announced. -/
def Announces (d : Octets) (n : Nat) : Prop := ∃ h, Header.read d = .ok h ∧ h.length.toNat = n

theorem Header.read_of_le {d : Octets} (h : headerLength ≤ d.length) :
    Header.read d = .ok (front d).header := by
  unfold Header.read
  rw [if_neg (Nat.not_lt.mpr h)]
  rfl

theorem Header.read_of_lt {d : Octets} (h : d.length < headerLength) :
    Header.read d = .error (.truncated headerLength d.length) := if_pos h

theorem Announces.front {d : Octets} {n : Nat} (h : Announces d n) :
    headerLength ≤ d.length ∧ (Message.front d).header.length.toNat = n := by
  obtain ⟨header, hr, hn⟩ := h
  by_cases hd : d.length < headerLength
  · rw [Header.read_of_lt hd] at hr
    cases hr
  · rw [Header.read_of_le (Nat.not_lt.mp hd)] at hr
    cases hr
    exact ⟨Nat.not_lt.mp hd, hn⟩

end Message

namespace Delivery

open Message

variable {P σ : Type}

/-- The receiver is called on the actions in order, and every call lets the delivery proceed. The
states are those of the receiver, before the first call and after the last. -/
inductive Proceeds (receiver : Receiver P σ) : List (Action P) → σ → σ → Prop where
  | nil {s} : Proceeds receiver [] s s
  | cons {a as s s' s''} (h : receiver a s = .ok .proceed s')
      (next : Proceeds receiver as s' s'') : Proceeds receiver (a :: as) s s''

/-- What becomes of actions that are handed over: every call lets the delivery proceed, or the first
that does not is the last. -/
inductive Delivered (receiver : Receiver P σ) (as : List (Action P)) (s : σ) :
    EStateM.Result Error σ Unit → Prop where
  | all {s'} (h : Proceeds receiver as s s') : Delivered receiver as s (.ok () s')
  | stopped {before after a s' s''} (has : as = before ++ a :: after)
      (h : Proceeds receiver before s s') (ha : receiver a s' = .ok .stop s'') :
      Delivered receiver as s (.error (.failure .deliveryStopped) s'')
  | failed {before after a s' s'' e} (has : as = before ++ a :: after)
      (h : Proceeds receiver before s s') (ha : receiver a s' = .error e s'') :
      Delivered receiver as s (.error e s'')

/-- A call that lets the delivery proceed comes before the rest of it. -/
theorem Delivered.cons {receiver : Receiver P σ} {a : Action P} {as : List (Action P)} {s s' : σ}
    {res : EStateM.Result Error σ Unit} (ha : receiver a s = .ok .proceed s')
    (h : Delivered receiver as s' res) : Delivered receiver (a :: as) s res := by
  cases h with
  | all h => exact .all (h.cons ha)
  | stopped has h hb => exact .stopped (congrArg (a :: ·) has) (.cons ha h) hb
  | failed has h hb => exact .failed (congrArg (a :: ·) has) (.cons ha h) hb

theorem delivered_deliver (receiver : Receiver P σ) (as : List (Action P)) (s : σ) :
    Delivered receiver as s (deliver receiver as s) := by
  induction as generalizing s with
  | nil => exact .all .nil
  | cons a as ih =>
      unfold deliver
      simp only [bind, EStateM.bind]
      cases ha : receiver a s with
      | error e s' => exact .failed (List.nil_append (a :: as)).symm .nil ha
      | ok flow s' =>
          cases flow with
          | proceed => exact .cons ha (ih s')
          | stop => exact .stopped (List.nil_append (a :: as)).symm .nil ha

theorem deliver_append_of_proceeds {receiver : Receiver P σ} {before : List (Action P)} {s s' : σ}
    (h : Proceeds receiver before s s') (after : List (Action P)) :
    deliver receiver (before ++ after) s = deliver receiver after s' := by
  induction h with
  | nil => rfl
  | cons ha _ ih =>
      rw [← ih, List.cons_append, deliver]
      simp only [bind, EStateM.bind, ha]

theorem deliver_eq_iff_delivered {receiver : Receiver P σ} {as : List (Action P)} {s : σ}
    {res : EStateM.Result Error σ Unit} :
    deliver receiver as s = res ↔ Delivered receiver as s res := by
  constructor
  · rintro rfl
    exact delivered_deliver receiver as s
  · intro h
    cases h with
    | all h =>
        have := deliver_append_of_proceeds h []
        rw [List.append_nil] at this
        rw [this]
        rfl
    | stopped has h ha =>
        rw [has, deliver_append_of_proceeds h, deliver]
        simp only [bind, EStateM.bind, ha]
        rfl
    | failed has h ha =>
        rw [has, deliver_append_of_proceeds h, deliver]
        simp only [bind, EStateM.bind, ha]

section Frames

variable {d : Octets}

theorem readFrame_of_lt (h : d.length < headerLength) :
    readFrame d = .error (.truncated headerLength d.length) := by
  unfold readFrame
  rw [Header.read_of_lt h]
  rfl

theorem readFrame_of_le (h : headerLength ≤ d.length) :
    readFrame d =
      if headerLength ≤ (front d).header.length.toNat ∧ (front d).header.length.toNat ≤ d.length then
        .ok (front d)
      else .error (.invalidMessage (.badLength (front d).header.length.toNat)) := by
  unfold readFrame
  rw [Header.read_of_le h]
  rfl

theorem readFrame_of_isWhole (h : IsWhole d) : readFrame d = .ok (front d) := by
  rw [readFrame_of_le (Nat.le_trans h.1 h.2)]
  exact if_pos h

theorem readFrame_of_not_isWhole (hd : headerLength ≤ d.length) (h : ¬ IsWhole d) :
    readFrame d = .error (.invalidMessage (.badLength (front d).header.length.toNat)) := by
  rw [readFrame_of_le hd]
  exact if_neg h

/-- What follows a message in the buffer plays no part. -/
theorem readFrame_congr {n : Nat} {d' : Octets} (h : Announces d n) (h' : Announces d' n)
    (hn : n ≤ d.length) (hn' : n ≤ d'.length) (hd : d.take n = d'.take n) :
    readFrame d = readFrame d' := by
  obtain ⟨hlen, hfront⟩ := h.front
  obtain ⟨hlen', hfront'⟩ := h'.front
  by_cases hw : headerLength ≤ n
  · have hwd : IsWhole d := by
      unfold IsWhole
      rw [hfront]
      exact ⟨hw, hn⟩
    have hwd' : IsWhole d' := by
      unfold IsWhole
      rw [hfront']
      exact ⟨hw, hn'⟩
    calc readFrame d = readFrame (own d) := by rw [readFrame_of_isWhole hwd, readFrame_own hwd]
      _ = readFrame (own d') := by rw [own, own, hfront, hfront', hd]
      _ = readFrame d' := by rw [readFrame_of_isWhole hwd', readFrame_own hwd']
  · -- A length below the header's own is the same fault in both.
    have hwd : ¬ IsWhole d := fun hc => hw (hfront ▸ hc.1)
    have hwd' : ¬ IsWhole d' := fun hc => hw (hfront' ▸ hc.1)
    rw [readFrame_of_not_isWhole hlen hwd, readFrame_of_not_isWhole hlen' hwd', hfront, hfront']

end Frames

/-- All of the message at the front of `d` can be read: its header, with a length that can be right
and the type of a message about actions, its fixed part and attributes, and its table of actions. -/
structure Decodes (r : Registry P) (d : Octets) (m : ActionMessage) (c : Chain P) : Prop where
  isWhole : IsWhole d
  type : (front d).header.type ∈ [newAction, delAction, getAction]
  message : ActionMessage.read (front d).payload = .ok m
  table : ∃ t, m.table = some t ∧ ActionTable.read r 0 t = .ok c

/-- The actions of a chain as the message around it tells. They belong to no link by themselves, so
all have the link that is found for the index 0. -/
def told (type : UInt16) (family : UInt8) (links : Option LinkLookup) (c : Chain P) :
    List (Action P) :=
  c.actions.map fun a =>
    { a with messageType := some type, family, ifindex := 0, link := links.bind (· 0) }

variable {r : Registry P} {links : Option LinkLookup} {d : Octets}

theorem isSome_kind?_iff {type : UInt16} :
    (StoreInfo.actions.kind? type).isSome ↔ type ∈ [newAction, delAction, getAction] := by
  unfold StoreInfo.kind? StoreInfo.actions
  rw [List.find?_isSome]
  simp [eq_comm]

theorem stamp_of_readEntry {e : Octets} {a : Action P} (h : ActionTable.readEntry r e = .ok a)
    (type : UInt16) (family : UInt8) :
    stamp type family links a =
      { a with messageType := some type, family, ifindex := 0, link := links.bind (· 0) } := by
  obtain ⟨k, options, stats, payload, rfl, -⟩ := ActionTable.exists_of_readEntry h
  unfold stamp
  cases links with
  | none => rfl
  | some lookup =>
      simp only [Action.resolve, Action.setOrigin, Option.bind_some]
      cases lookup 0 <;> rfl

/-- Nothing but the stamp tells the actions of a message from those that its table gives alone. -/
theorem readActions_eq {f : Frame} {m : ActionMessage} {t : Octets}
    (htype : f.header.type ∈ [newAction, delAction, getAction])
    (hm : ActionMessage.read f.payload = .ok m) (ht : m.table = some t) :
    readActions r links f =
      told f.header.type m.family.family links <$> ActionTable.read r 0 t := by
  have hkind : ¬ (StoreInfo.actions.kind? f.header.type).isNone := by
    rw [← Option.not_isSome, isSome_kind?_iff.mpr htype]
    decide
  have hstamped : List.map (stamp f.header.type m.family.family links) <$>
        Chain.actions <$> ActionTable.read r 0 t =
      told f.header.type m.family.family links <$> ActionTable.read r 0 t := by
    cases hc : ActionTable.read r 0 t with
    | error e => rfl
    | ok c =>
        refine congrArg Except.ok (List.map_congr_left fun a ha => ?_)
        obtain ⟨e, he⟩ := ActionTable.exists_readEntry_of_mem hc ha
        exact stamp_of_readEntry he _ _
  rw [← hstamped, ActionTable.actions_map_read, ← ActionTable.actions_of_readWith_pure r _ 0]
  unfold readActions
  simp only [bind, Except.bind, if_neg hkind, hm, ht]
  rfl

theorem readActions_of_decodes {m : ActionMessage} {c : Chain P} (h : Decodes r d m c) :
    readActions r links (front d) =
      .ok (told (front d).header.type m.family.family links c) := by
  obtain ⟨t, ht, hc⟩ := h.table
  rw [readActions_eq h.type h.message ht, hc]
  rfl

/-- Actions can be read of a message only if all of it can. -/
theorem exists_decodes_of_readActions {as : List (Action P)} (hd : IsWhole d)
    (h : readActions r links (front d) = .ok as) : ∃ m c, Decodes r d m c := by
  have hread := h
  unfold readActions at hread
  dsimp only at hread
  split at hread
  case isTrue => cases hread
  case isFalse hkind =>
    have htype : (front d).header.type ∈ [newAction, delAction, getAction] := by
      rwa [Bool.not_eq_true, Option.isNone_eq_false_iff, isSome_kind?_iff] at hkind
    obtain ⟨m, hm, hread⟩ := ActionTable.exists_of_bind_eq_ok hread
    split at hread
    case h_1 => cases hread
    case h_2 t ht =>
      rw [readActions_eq htype hm ht] at h
      cases hc : ActionTable.read r 0 t with
      | error e =>
          rw [hc] at h
          cases h
      | ok c => exact ⟨m, c, hd, htype, hm, t, ht, hc⟩

theorem receive_of_readFrame_eq_error {e : Error} (h : readFrame d = .error e)
    (receiver : Receiver P σ) (s : σ) : receive r links receiver d s = .error e s := by
  unfold receive
  rw [h]
  rfl

theorem receive_of_isWhole (receiver : Receiver P σ) (h : IsWhole d) :
    receive r links receiver d = receiveFrame r links receiver (front d) := by
  unfold receive
  rw [readFrame_of_isWhole h]
  rfl

/-- A message that cannot be read fails, and the receiver stays as it is, whatever it would do. -/
theorem receive_of_not_decodes (h : ¬ ∃ m c, Decodes r d m c) :
    ∃ e, ∀ {σ : Type} (receiver : Receiver P σ) (s : σ),
      receive r links receiver d s = .error e s := by
  by_cases hd : d.length < headerLength
  · exact ⟨_, fun receiver s => receive_of_readFrame_eq_error (readFrame_of_lt hd) receiver s⟩
  by_cases hw : IsWhole d
  case neg =>
    have hr := readFrame_of_not_isWhole (Nat.not_lt.mp hd) hw
    exact ⟨_, fun receiver s => receive_of_readFrame_eq_error hr receiver s⟩
  cases hr : readActions r links (front d) with
  | ok as => exact absurd (exists_decodes_of_readActions hw hr) h
  | error e =>
      refine ⟨e, fun receiver s => ?_⟩
      rw [receive_of_isWhole receiver hw]
      exact receiveFrame_eq_error r links receiver hr s

theorem receive_of_decodes {m : ActionMessage} {c : Chain P} (h : Decodes r d m c)
    (receiver : Receiver P σ) :
    receive r links receiver d =
      deliver receiver (told (front d).header.type m.family.family links c) := by
  rw [receive_of_isWhole receiver h.isWhole, receiveFrame, readActions_of_decodes h]
  rfl

/-- One message is received all or nothing, in the order of its table. -/
theorem receive_all_or_nothing (r : Registry P) (links : Option LinkLookup) (d : Octets) :
    (∀ (n : Nat) (d' : Octets), Announces d n → Announces d' n → n ≤ d.length → n ≤ d'.length →
      d.take n = d'.take n → ∀ {σ : Type} (receiver : Receiver P σ),
        receive r links receiver d = receive r links receiver d') ∧
    ((¬ ∃ m c, Decodes r d m c) → ∃ e, ∀ {σ : Type} (receiver : Receiver P σ) (s : σ),
      receive r links receiver d s = .error e s) ∧
    ∀ m c, Decodes r d m c → ∀ {σ : Type} (receiver : Receiver P σ) (s : σ)
      (res : EStateM.Result Error σ Unit), receive r links receiver d s = res ↔
        Delivered receiver (told (front d).header.type m.family.family links c) s res := by
  refine ⟨fun n d' h h' hn hn' hd σ receiver => ?_, receive_of_not_decodes,
    fun m c h σ receiver s res => ?_⟩
  · unfold receive
    rw [readFrame_congr h h' hn hn' hd]
  · rw [receive_of_decodes h]
    exact deliver_eq_iff_delivered

/-- A message that tells about the actions of a table. -/
def about (table : Octets) : Octets :=
  let payload := Family.octets ⟨2, 0, 0⟩ ++ Attr.written tableType table
  let length := headerLength + payload.length
  Header.octets ⟨UInt32.ofNat length, newAction, 0, 0, 0⟩ ++ payload

/-- The second of two entries says nothing, not even its kind. -/
def brokenTable : Octets := ActionTable.tidyTable ++ Attr.written 32 []

theorem receive_all_or_nothing_tidyTable :
    (∃ m c, Decodes .builtin (about ActionTable.tidyTable) m c ∧
      ∀ {σ : Type} (receiver : Receiver Builtin σ) (s : σ) (res : EStateM.Result Error σ Unit),
        receive .builtin none receiver (about ActionTable.tidyTable) s = res ↔
          Delivered receiver (told newAction m.family.family none c) s res) ∧
    ∃ e, ∀ {σ : Type} (receiver : Receiver Builtin σ) (s : σ),
      receive .builtin none receiver (about brokenTable) s = .error e s := by
  constructor
  · have hm : ActionMessage.read (front (about ActionTable.tidyTable)).payload =
        .ok { family := ⟨2, 0, 0⟩, table := some ActionTable.tidyTable } := by
      decide +kernel
    have hok : (ActionTable.read (P := Builtin) .builtin 0 ActionTable.tidyTable).isOk := by
      decide +kernel
    cases hc : ActionTable.read (P := Builtin) .builtin 0 ActionTable.tidyTable with
    | error e =>
        rw [hc] at hok
        cases hok
    | ok c =>
        have h : Decodes .builtin (about ActionTable.tidyTable) _ c :=
          ⟨⟨by decide +kernel, by decide +kernel⟩, by decide +kernel, hm, _, rfl, hc⟩
        exact ⟨_, c, h, (receive_all_or_nothing .builtin none _).2.2 _ c h⟩
  · refine (receive_all_or_nothing .builtin none _).2.1 ?_
    rintro ⟨m, c, h⟩
    obtain ⟨t, ht, hc⟩ := h.table
    have hm : ActionMessage.read (front (about brokenTable)).payload =
        .ok { family := ⟨2, 0, 0⟩, table := some brokenTable } := by
      decide +kernel
    obtain rfl := Except.ok.inj (h.message.symm.trans hm)
    obtain rfl := Option.some.inj ht
    have hok : ¬ (ActionTable.read (P := Builtin) .builtin 0 brokenTable).isOk := by
      decide +kernel
    rw [hc] at hok
    exact hok rfl

end Delivery
end TrafficControl
