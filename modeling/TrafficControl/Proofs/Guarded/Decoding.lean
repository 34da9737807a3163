import TrafficControl.Proofs.BatchPickup
import TrafficControl.Proofs.Guarded.Messages

/-!
# Decoding stays in bounds

Whatever octets come from outside, each of the decoders is its guarded form: no slice and no index is
out of bounds, no difference of lengths is negative, and no chain refuses an action. Attributes take
at least four octets and messages sixteen, so the rounds suffice. Only the least error number stops
the work.
-/
namespace TrafficControl

open ActionTable

variable {P σ : Type} [Payload P]

namespace Cache

theorem replace_eq {α : Type} (p : α → Bool) (x : α) (l : List α) :
    replace p x l = match l.findIdx? p with
      | some i => l.set i x
      | none => l ++ [x] := by
  induction l with
  | nil => rfl
  | cons y l ih =>
      rw [replace, List.findIdx?_cons]
      by_cases hy : p y
      · rw [if_pos hy, if_pos hy]
        rfl
      · rw [if_neg hy, if_neg hy, ih]
        cases l.findIdx? p <;> rfl

/-- The cache after one more action was told about. The object is looked for, and its index is that
of an action in the cache. -/
def applied? (c : Cache P) (a : Shared P) : Option (Cache P) :=
  match a.action.messageType.bind info.change?,
    c.toList.findIdx? (fun b => sameObject b.action a.action) with
  | some .del, some i => if i < c.length then some ⟨c.toList.eraseIdx i⟩ else none
  | some .del, none => some c
  | _, some i => if i < c.length then some ⟨c.toList.set i a⟩ else none
  | _, none => some ⟨c.toList ++ [a]⟩

theorem applied?_eq (c : Cache P) (a : Shared P) : c.applied? a = some (c.apply a) := by
  have hindex (i : Nat) (h : c.toList.findIdx? (fun b => sameObject b.action a.action) = some i) :
      i < c.length := (List.findIdx?_eq_some_iff_getElem.mp h).1
  simp only [applied?, apply, List.eraseP_eq_eraseIdx, replace_eq]
  cases hi : c.toList.findIdx? (fun b => sameObject b.action a.action) with
  | none =>
      cases a.action.messageType.bind info.change? with
      | none => rfl
      | some change => cases change <;> rfl
  | some i =>
      have hlt := hindex i hi
      cases a.action.messageType.bind info.change? with
      | none => exact if_pos hlt
      | some change => cases change <;> exact if_pos hlt

end Cache

namespace Guarded

variable [Holds P Gact] [Holds P Mirred] [Holds P Skbedit] [Holds P Vlan]
  (links : Option LinkLookup) (first : Nat)

/-- Works off a buffer, and only then takes in all the actions in it. -/
def pickup (d : Octets) : Guarded Error (Cache P) Delivery.Progress := do
  let (p, received) ← within [] do
    let p ← receiveAll links Cache.collector d
    return (p, ← ofEStateM get)
  let c ← ofEStateM get
  let c ← check ((received.reverse.mapIdx fun i a => ⟨first + i, a⟩).foldlM Cache.applied? c)
  ofEStateM (set c)
  return p

theorem pickup_eq {d : Octets} (h : ∀ f, .ok f ∈ Message.frames d → ¬ f.overflows) :
    pickup links first d = ofEStateM (Cache.pickup (P := P) .builtin links first d) := by
  have happly (c : Cache P) (as : List (Shared P)) :
      as.foldlM Cache.applied? c = some (c.applyAll as) := by
    rw [funext₂ Cache.applied?_eq]
    exact List.foldlM_pure
  funext c
  simp only [pickup, receiveAll_eq links _ h, happly, check_some_bind]
  simp only [bind, within, ofEStateM, Cache.pickup]
  cases Delivery.receiveAll .builtin links (Cache.collector (P := P)) d [] <;> rfl

end Guarded

variable (P) [Holds P Gact] [Holds P Mirred] [Holds P Skbedit] [Holds P Vlan]

/-- Decoding these octets, as whatever they are taken for, stays in bounds and ends. -/
structure DecodesInBounds (d : Octets) : Prop where
  nextAttr : Guarded.nextAttr? d = some (Attr.next? d)
  length_of_nextAttr : ∀ a r, Attr.next? d = some (a, r) → r.length + 4 ≤ d.length
  attrs : Guarded.attrs? (d.length / 4 + 1) d = some (Attr.list d, Attr.leftover d)
  table : ∀ n, Guarded.table? n d = some (Table.read n d)
  checkedTable : ∀ {σ : Type} policy,
    (Guarded.checkedTable policy d : Guarded Error σ _) = .ofExcept (Table.readChecked policy d)
  readerAttr : Guarded.readerAttr d = some (Reader.attr d)
  length_of_readerAttr : ∀ a r, Reader.attr d = .ok a r → r.length + 4 ≤ d.length
  readerAttrs : Guarded.readerAttrs (d.length / 4 + 1) d = some (Reader.attrs d)
  text : ∀ {σ : Type} bound,
    (Guarded.text d bound : Guarded Error σ _) = .ofExcept (Attr.toText d bound)
  stats : ∀ {σ : Type}, (Guarded.stats d : Guarded Error σ _) = .ofExcept (Stats.decode d)
  gact : ∀ {σ : Type}, (Guarded.gact d : Guarded Error σ _) = .ofExcept (Gact.parse d)
  mirred : ∀ {σ : Type}, (Guarded.mirred d : Guarded Error σ _) = .ofExcept (Mirred.parse d)
  skbedit : ∀ {σ : Type}, (Guarded.skbedit d : Guarded Error σ _) = .ofExcept (Skbedit.parse d)
  vlan : ∀ {σ : Type}, (Guarded.vlan d : Guarded Error σ _) = .ofExcept (Vlan.parse d)
  /-- The guarded form has no result where the chain refuses an action. -/
  actions : ∀ {σ : Type} (hook : Hook P σ) first,
    Guarded.actions hook first d = .ofEStateM (readWith .builtin hook first d)
  message : ∀ {σ : Type},
    (Guarded.message d : Guarded Error σ _) = .ofExcept (Message.ActionMessage.read d)
  nextFrame : Guarded.nextFrame? d = some (Message.next? d)
  length_of_nextFrame : ∀ f r, Message.next? d = some (f, r) → r.length + 16 ≤ d.length
  frames : Guarded.frames? (d.length / 16 + 1) d = some (Message.frames d)
  receive : ∀ {σ : Type} links (receiver : Receiver P σ),
    Guarded.receive links receiver d = .ofEStateM (Delivery.receive .builtin links receiver d)
  report : ∀ {σ : Type} (s : σ),
    Guarded.report d s = none ↔ Message.Report.length ≤ d.length ∧ d.i32At 0 = Int32.minValue
  /-- Work stops at the first report whose number overflows, unless a dump ended before. -/
  receiveAll : ∀ {σ : Type} links (receiver : Receiver P σ),
    Guarded.receiveAll links receiver d = do
      let p ← .ofEStateM (Delivery.receiveFrames .builtin links receiver {}
        (Message.beforeOverflow (Message.frames d)))
      if p.done ∨ Message.beforeOverflow (Message.frames d) = Message.frames d then pure p
      else .check none
  receiveAll_of_not_overflows : (∀ f, .ok f ∈ Message.frames d → ¬ f.overflows) →
    ∀ {σ : Type} links (receiver : Receiver P σ), Guarded.receiveAll links receiver d =
      .ofEStateM (Delivery.receiveAll .builtin links receiver d)
  pickup_of_not_overflows : (∀ f, .ok f ∈ Message.frames d → ¬ f.overflows) →
    ∀ links first, Guarded.pickup links first d =
      .ofEStateM (Cache.pickup (P := P) .builtin links first d)

/-- Whatever the octets are, decoding them stays in bounds and ends. -/
theorem decodesInBounds (d : Octets) : DecodesInBounds P d where
  nextAttr := Guarded.nextAttr?_eq d
  length_of_nextAttr _ _ := Attr.length_of_next?
  attrs := Guarded.attrs?_eq (Nat.lt_succ_self _)
  table n := Guarded.table?_eq n d
  checkedTable policy := Guarded.checkedTable_eq policy d
  readerAttr := congrFun Guarded.readerAttr_eq d
  length_of_readerAttr _ _ := Reader.length_of_attr
  readerAttrs := Guarded.readerAttrs_eq (Nat.lt_succ_self _)
  text bound := Guarded.text_eq d bound
  stats := Guarded.stats_eq d
  gact := Guarded.gact_eq d
  mirred := Guarded.mirred_eq d
  skbedit := Guarded.skbedit_eq d
  vlan := Guarded.vlan_eq d
  actions _ _ := Guarded.actions_eq d
  message := Guarded.message_eq d
  nextFrame := Guarded.nextFrame?_eq d
  length_of_nextFrame _ _ := Message.length_of_next?
  frames := Guarded.frames?_eq (Nat.lt_succ_self _)
  receive links receiver := Guarded.receive_eq links receiver d
  report _ := Guarded.report_eq_none_iff
  receiveAll links receiver := Guarded.receiveRounds_eq links receiver rfl (Nat.lt_succ_self _)
  receiveAll_of_not_overflows h _ links receiver := Guarded.receiveAll_eq links receiver h
  pickup_of_not_overflows h links first := Guarded.pickup_eq links first h

/-- No number overflows in an ordinary dump, and all of it is worked off. -/
theorem pickup_twoMessages_inBounds :
    (∀ f, .ok f ∈ Message.frames (Cache.twoMessages.flatten ++ Cache.dumpEnd) → ¬ f.overflows) ∧
      Guarded.pickup none 0 (Cache.twoMessages.flatten ++ Cache.dumpEnd) =
        .ofEStateM (Cache.pickup (P := Builtin) .builtin none 0
          (Cache.twoMessages.flatten ++ Cache.dumpEnd)) := by
  have hall : Message.beforeOverflow
      (Message.frames (Cache.twoMessages.flatten ++ Cache.dumpEnd)) =
        Message.frames (Cache.twoMessages.flatten ++ Cache.dumpEnd) := by decide +kernel
  have h : ∀ f, .ok f ∈ Message.frames (Cache.twoMessages.flatten ++ Cache.dumpEnd) →
      ¬ f.overflows := fun f hf => by
    have := List.takeWhile_eq_self_iff.mp hall _ hf
    simpa using this
  exact ⟨h, (decodesInBounds Builtin _).pickup_of_not_overflows h none 0⟩

end TrafficControl
