import TrafficControl.Proofs.Guarded.Options
import TrafficControl.Proofs.Guarded.Text
import TrafficControl.Proofs.TableRoundTrip

/-!
# Guarded reading of tables of actions

With the built-in codecs the reading of tables of actions stays in bounds, and no action is refused by
the chain it joins: a table has no more places than a chain, and the identities count the actions.
-/
namespace TrafficControl

open ActionTable

namespace Guarded

variable {P σ : Type} [Payload P]

section Configured

variable {α : Type} [Configuration α] [Holds P α]

/-- The payload of a configuration type that is read from options, if there are any. -/
def configured (f : Octets → Guarded Error σ α) (options : Option Octets) :
    Guarded Error σ (Option P) :=
  adaptExcept (Error.inCodec (Configuration.name α)) do
    match options with
    | none => return none
    | some d => return some (Holds.payload (← f d))

theorem configured_eq {r : Registry P} (h : r.Serves α) {f : Octets → Guarded Error σ α}
    (hf : ∀ d, f d = ofExcept (Configuration.parse d)) (options : Option Octets) :
    configured f options = ofExcept (readPayload r (Configuration.name α) options) := by
  rw [readPayload, h.get?]
  cases options with
  | none => rfl
  | some d =>
      rw [configured]
      dsimp only [Codec.parse, Codec.ofConfig]
      rw [hf]
      cases (Configuration.parse d : Except Error α) <;> rfl

end Configured

variable [Holds P Gact] [Holds P Mirred] [Holds P Skbedit] [Holds P Vlan]

/-- The payload that the codec of a built-in kind reads from options. -/
def payload (kind : String) (options : Option Octets) : Guarded Error σ (Option P) :=
  if kind = Configuration.name Gact then configured gact options
  else if kind = Configuration.name Mirred then configured mirred options
  else if kind = Configuration.name Skbedit then configured skbedit options
  else if kind = Configuration.name Vlan then configured vlan options
  else pure none

theorem payload_eq (kind : String) (options : Option Octets) :
    (payload kind options : Guarded Error σ (Option P)) =
      ofExcept (readPayload .builtin kind options) := by
  unfold payload
  split
  case isTrue hk => rw [hk, configured_eq Registry.serves_gact gact_eq]
  split
  case isTrue hk => rw [hk, configured_eq Registry.serves_mirred mirred_eq]
  split
  case isTrue hk => rw [hk, configured_eq Registry.serves_skbedit skbedit_eq]
  split
  case isTrue hk => rw [hk, configured_eq Registry.serves_vlan vlan_eq]
  have hnone : (Registry.builtin : Registry P).get? kind = none := by
    have := Registry.get?_builtin (P := P) kind
    tauto
  rw [readPayload, hnone]
  rfl

def entry (d : Octets) : Guarded Error σ (Action P) := do
  let t ← check (table? entrySize d)
  match ← check (t.slot? kindType.toNat) with
  | none => ofExcept (.error (.missingAttr "TCA_ACT_KIND"))
  | some named =>
    let kind ← text named kindBound
    let name ← check (Text.truncate? kind (kindBound - 1))
    let options ← check (t.slot? optionsType.toNat)
    let stats ← match ← check (t.slot? statsType.toNat) with
      | some s => stats s
      | none => pure .empty
    return { kind := some name, options, stats, payload := ← payload kind options }

theorem entry_eq (d : Octets) :
    (entry d : Guarded Error σ (Action P)) = ofExcept (readEntry .builtin d) := by
  have hslot (i : Nat) (hi : i < entrySize) :
      (Table.read entrySize d).slot? i = some ((Table.read entrySize d).get i) :=
    Table.slot?_of_lt (by rwa [Table.length_slots_read])
  rw [entry, table?_eq, check_some_bind, hslot _ (by decide), check_some_bind]
  simp only [readEntry, Table.require]
  cases (Table.read entrySize d).get kindType.toNat with
  | none => rfl
  | some named =>
      change text named kindBound >>= _ = ofExcept (Attr.toText named kindBound >>= _)
      rw [text_eq, ofExcept_bind]
      congr 1
      funext kind
      simp only [Text.truncate?_eq, hslot optionsType.toNat (by decide),
        hslot statsType.toNat (by decide), check_some_bind, stats_eq, payload_eq]
      cases (Table.read entrySize d).get statsType.toNat <;> simp only [ofExcept_bind] <;> rfl

section Tables

variable (hook : Hook P σ) (first : Nat)

/-- The chain with the action that an entry holds, if the chain takes it. -/
def enter (c : Chain P) (d : Octets) : Guarded Error σ (Chain P) := do
  let a ← entry d
  let a ← ofEStateM (runHook hook a)
  check (c.append ⟨first + c.length, a⟩).toOption

def actions (d : Octets) : Guarded Error σ (Chain P) := do
  let t ← check (table? (Chain.maxLength + 1) d)
  let entries ← check (places.mapM t.slot?)
  entries.reduceOption.foldlM (enter hook first) .empty

variable {hook first} {c : Chain P}

theorem enter_eq (hi : c.ids = List.range' first c.length) (hl : c.length < Chain.maxLength)
    (d : Octets) : enter hook first c d = ofEStateM (readInto .builtin hook first c d) := by
  rw [enter, entry_eq, readInto, ofEStateM_bind]
  congr 1
  funext a
  rw [ofEStateM_bind]
  congr 1
  funext a
  obtain ⟨c', hc, -⟩ := Chain.exists_append_eq_ok hi hl a
  rw [hc]
  rfl

/-- Entries that fit into the chain are read into it as they are without guards: the identities go on
counting, and the chain is not full before the last. -/
theorem foldlM_enter_eq (hi : c.ids = List.range' first c.length) {ds : List Octets}
    (hl : c.length + ds.length ≤ Chain.maxLength) :
    ds.foldlM (enter hook first) c = ofEStateM (ds.foldlM (readInto .builtin hook first) c) := by
  induction ds generalizing c with
  | nil => rfl
  | cons d ds ih =>
      rw [List.length_cons] at hl
      rw [List.foldlM_cons, List.foldlM_cons, enter_eq hi (by omega)]
      funext s
      cases hd : readInto .builtin hook first c d s with
      | error e s' => simp only [bind, EStateM.bind, ofEStateM, hd]
      | ok c' s' =>
          obtain ⟨a, -, ha⟩ := exists_append_of_readInto hd
          obtain ⟨c'', hc, -, hlen, hids⟩ := Chain.exists_append_eq_ok hi (by omega) (hook a s).1
          obtain rfl : c' = c'' := Except.ok.inj (ha.symm.trans hc)
          have := congrFun (ih hids (by omega)) s'
          simp only [bind, EStateM.bind, ofEStateM, hd] at this ⊢
          exact this

theorem actions_eq (d : Octets) :
    actions hook first d = ofEStateM (readWith .builtin hook first d) := by
  have hslots : places.mapM (Table.read (Chain.maxLength + 1) d).slot? =
      some (places.map (Table.read (Chain.maxLength + 1) d).get) := by
    refine mapM_eq_some_map fun i hi => Table.slot?_of_lt ?_
    obtain ⟨k, hk, rfl⟩ := List.mem_range'.mp hi
    rw [Table.length_slots_read]
    omega
  have hentries : (places.map (Table.read (Chain.maxLength + 1) d).get).reduceOption =
      places.filterMap (Table.read (Chain.maxLength + 1) d).get := by
    change List.filterMap id (places.map _) = _
    rw [List.filterMap_map]
    rfl
  rw [actions, table?_eq, check_some_bind, hslots, check_some_bind, hentries, readWith]
  refine foldlM_enter_eq rfl ?_
  have := List.length_filterMap_le (Table.read (Chain.maxLength + 1) d).get places
  rw [places, List.length_range'] at this
  exact Nat.zero_add _ ▸ this

end Tables

end Guarded
end TrafficControl
