import TrafficControl.Proofs.TableReading

/-!
# Actions that keep their kind

The owner of an action may set its kind, its configuration, its options and its link, in any order.
A kind that is set is short, and the payload of an action is of the kind of the action. As soon as
an action has both a kind and something attached to it, the kind is locked: no edit changes it or
takes the attachment away, and the edits that ask for another kind fail and change nothing.

The step is that of one edit: it puts what it brings in the place of what was there, and it brings
another kind only to an action without attachment (`Edit.of_outcome_eq_ok`). Actions that were read
begin like those that were made: a codec is found under its own name, so the payload that it reads
is of the kind that the entry names.
-/
namespace TrafficControl

variable {P : Type}

variable [Payload P]

/-- Every codec of the registry is that of a configuration type. -/
def Registry.IsTyped (r : Registry P) : Prop :=
  ∀ c ∈ r.codecs, ∃ (α : Type) (_ : Configuration α) (_ : Holds P α), c = .ofConfig α

theorem Registry.isTyped_builtin [Holds P Gact] [Holds P Mirred] [Holds P Skbedit] [Holds P Vlan] :
    (builtin : Registry P).IsTyped := by
  intro c hc
  simp only [builtin, List.mem_cons, List.not_mem_nil, or_false] at hc
  rcases hc with rfl | rfl | rfl | rfl
  · exact ⟨Gact, inferInstance, inferInstance, rfl⟩
  · exact ⟨Mirred, inferInstance, inferInstance, rfl⟩
  · exact ⟨Skbedit, inferInstance, inferInstance, rfl⟩
  · exact ⟨Vlan, inferInstance, inferInstance, rfl⟩

namespace Action

/-- A change to an action by its owner. -/
inductive Edit (P : Type) [Payload P] : Type 1 where
  | setKind (kind : String)
  | setConfig {α : Type} [Configuration α] [Holds P α] (c : α)
  | setOptions (options : Octets)
  | setIfindex (ifindex : Int32)

namespace Edit

def outcome (a : Action P) : Edit P → Except Error (Action P)
  | setKind kind => a.setKind kind
  | setConfig c => a.setConfig c
  | setOptions options => .ok (a.setOptions options)
  | setIfindex ifindex => .ok (a.setIfindex ifindex)

def run (e : Edit P) : EStateM Error (Action P) Unit := fun a =>
  match e.outcome a with
  | .ok b => .ok () b
  | .error err => .error err a

/-- The action after an edit, which may have failed. -/
def next (a : Action P) (e : Edit P) : Action P :=
  match e.run a with
  | .ok _ b => b
  | .error _ b => b

/-- The kind that the edit asks for. -/
def kind? : Edit P → Option String
  | setKind kind => some (kindName kind)
  | @setConfig _ _ α _ _ _ => some (kindName (Configuration.kind α))
  | _ => none

def payload? : Edit P → Option P
  | setConfig c => some (Holds.payload c)
  | _ => none

def options? : Edit P → Option Octets
  | setOptions options => some options
  | _ => none

theorem size_lt_of_kind? {e : Edit P} {k : String} (h : e.kind? = some k) :
    Text.size k.toList < kindBound := by
  cases e with
  | setKind kind =>
      cases h
      exact size_kindName_le _
  | setConfig c =>
      cases h
      exact size_kindName_le _
  | setOptions options => cases h
  | setIfindex ifindex => cases h

theorem kind?_of_payload? {e : Edit P} {p : P} (h : e.payload? = some p) :
    e.kind? = some (kindName (Payload.kind p)) := by
  cases e with
  | setConfig c =>
      cases h
      rw [kind?, Holds.kind_payload]
  | setKind kind => cases h
  | setOptions options => cases h
  | setIfindex ifindex => cases h

/-- What an edit does: it puts what it brings in the place of what was there, or it asks for another
kind than the action has. An action with an attachment gets no other kind. -/
inductive Effect (a : Action P) (e : Edit P) : Except Error (Action P) → Prop
  | applied {b : Action P} (hkind : b.kind = e.kind?.or a.kind)
      (hpayload : b.payload = e.payload?.or a.payload)
      (hoptions : b.options = e.options?.or a.options)
      (hlock : a.isAttached → ∀ k ∈ a.kind, ∀ k' ∈ e.kind?, k' = k) : Effect a e (.ok b)
  | refused {k k' : String} (hk : a.kind = some k) (hk' : e.kind? = some k') (hne : k' ≠ k) :
      Effect a e (.error (.kindLocked k))

theorem effect (a : Action P) (e : Edit P) : Effect a e (e.outcome a) := by
  cases e with
  | setKind kind =>
      cases hk : a.kind with
      | none =>
          simp only [outcome, Action.setKind, hk]
          exact .applied rfl rfl rfl (by simp [hk])
      | some current =>
          simp only [outcome, Action.setKind, hk]
          split
          case isTrue hlock => exact .refused hk rfl (Ne.symm hlock.2)
          case isFalse hlock =>
            refine .applied rfl rfl rfl fun ha k hk₁ k' hk₂ => ?_
            rw [not_and, not_not] at hlock
            cases hk.symm.trans hk₁
            cases hk₂
            exact (hlock ha).symm
  | setConfig c =>
      cases hk : a.kind with
      | none =>
          simp only [outcome, Action.setConfig, setPayload, hk, Holds.kind_payload]
          exact .applied rfl rfl rfl (by simp [hk])
      | some current =>
          simp only [outcome, Action.setConfig, setPayload, hk, Holds.kind_payload]
          split
          case isTrue hne => exact .refused hk rfl (Ne.symm hne)
          case isFalse hsame =>
            refine .applied rfl rfl rfl fun _ k hk₁ k' hk₂ => ?_
            cases hk.symm.trans hk₁
            cases hk₂
            exact (not_not.mp hsame).symm
  | setOptions options =>
      refine .applied rfl rfl rfl fun _ _ _ _ hk' => ?_
      cases hk'
  | setIfindex ifindex =>
      refine .applied rfl rfl rfl fun _ _ _ _ hk' => ?_
      cases hk'

variable {a : Action P} {e : Edit P} {k : String}

/-- An edit fails only because of the kind that the action has, and names it. -/
theorem eq_of_run_eq_error {err : Error} {b : Action P} (h : e.run a = .error err b) :
    b = a ∧ ∃ k ∈ a.kind, err = .kindLocked k := by
  have heffect := e.effect a
  rw [run] at h
  split at h
  · cases h
  case h_2 he =>
    cases h
    rw [he] at heffect
    cases heffect with
    | refused hk => exact ⟨rfl, _, hk, rfl⟩

/-- An action whose kind is locked takes the edits that ask for this kind or for none. -/
theorem exists_outcome_eq_ok_iff (hk : a.kind = some k) (ha : a.isAttached) :
    (∃ b, e.outcome a = .ok b) ↔ ∀ k' ∈ e.kind?, k' = k := by
  have heffect := e.effect a
  generalize e.outcome a = res at heffect
  cases heffect with
  | applied _ _ _ hlock => exact ⟨fun _ => hlock ha k hk, fun _ => ⟨_, rfl⟩⟩
  | refused hk₁ hk' hne =>
      cases hk.symm.trans hk₁
      constructor
      · intro hex
        obtain ⟨b, hb⟩ := hex
        cases hb
      · intro hsame
        exact absurd (hsame _ hk') hne

/-- Whoever asks for no other kind leaves the one there is. -/
theorem or_eq_of_forall {o o' : Option String} (ho' : o' = some k) (h : ∀ k' ∈ o, k' = k) :
    o.or o' = some k := by
  cases o with
  | none => exact ho'
  | some k' => exact congrArg some (h k' rfl)

end Edit

/-- The action after these edits. -/
def edited (a : Action P) (es : List (Edit P)) : Action P := es.foldl Edit.next a

/-- The kind is short, and that of the payload. -/
structure IsAgreed (a : Action P) : Prop where
  size_lt : ∀ k ∈ a.kind, Text.size k.toList < kindBound
  kind_eq : ∀ p ∈ a.payload, a.kind = some (kindName (Payload.kind p))

/-- What was attached to the first action is attached to the second, and a kind that was locked
stayed. -/
structure IsKept (a b : Action P) : Prop where
  payload : a.payload.isSome → b.payload.isSome
  options : a.options.isSome → b.options.isSome
  kind : a.isAttached → ∀ k ∈ a.kind, b.kind = some k

variable {a b c : Action P} {e : Edit P}

theorem IsAgreed.next (h : a.IsAgreed) (e : Edit P) : (e.next a).IsAgreed := by
  have heffect := e.effect a
  rw [Edit.next, Edit.run]
  generalize e.outcome a = res at heffect
  cases heffect with
  | refused => exact h
  | applied hkind hpayload hoptions hlock =>
      constructor
      · intro k hk
        rw [hkind] at hk
        rcases Option.or_eq_some_iff.mp hk with hk | ⟨-, hk⟩
        · exact Edit.size_lt_of_kind? hk
        · exact h.size_lt k hk
      · intro p hp
        rw [hpayload] at hp
        rcases Option.or_eq_some_iff.mp hp with hp | ⟨-, hp⟩
        · rw [hkind, Edit.kind?_of_payload? hp]
          rfl
        · have ha : a.isAttached := by
            rw [isAttached, hp]
            rfl
          rw [hkind]
          exact Edit.or_eq_of_forall (h.kind_eq p hp) (hlock ha _ (h.kind_eq p hp))

omit [Payload P] in
theorem IsKept.refl (a : Action P) : a.IsKept a := ⟨id, id, fun _ _ hk => hk⟩

omit [Payload P] in
theorem IsKept.isAttached (h : a.IsKept b) (ha : a.isAttached) : b.isAttached := by
  rw [Action.isAttached, Bool.or_eq_true] at ha ⊢
  exact ha.imp h.payload h.options

omit [Payload P] in
theorem IsKept.trans (h : a.IsKept b) (h' : b.IsKept c) : a.IsKept c where
  payload := h'.payload ∘ h.payload
  options := h'.options ∘ h.options
  kind ha k hk := h'.kind (h.isAttached ha) k (h.kind ha k hk)

theorem IsKept.next (a : Action P) (e : Edit P) : a.IsKept (e.next a) := by
  have heffect := e.effect a
  rw [Edit.next, Edit.run]
  generalize e.outcome a = res at heffect
  cases heffect with
  | refused => exact .refl a
  | applied hkind hpayload hoptions hlock =>
      refine ⟨fun hp => ?_, fun ho => ?_, fun ha k hk => ?_⟩
      · rw [hpayload, Option.isSome_or, hp, Bool.or_true]
      · rw [hoptions, Option.isSome_or, ho, Bool.or_true]
      · rw [hkind]
        exact Edit.or_eq_of_forall hk (hlock ha k hk)

theorem IsAgreed.edited (h : a.IsAgreed) (es : List (Edit P)) : (a.edited es).IsAgreed := by
  induction es generalizing a with
  | nil => exact h
  | cons e es ih => exact ih (h.next e)

theorem IsKept.edited (a : Action P) (es : List (Edit P)) : a.IsKept (a.edited es) := by
  induction es generalizing a with
  | nil => exact .refl a
  | cons e es ih => exact (IsKept.next a e).trans (ih (e.next a))

/-- The action was made, or read by the codecs of configuration types. A copy of it is the same
value, so nothing is said of copies. -/
inductive Obtained : Action P → Prop where
  | empty : Obtained .empty
  | ofKind (kind : String) : Obtained (.ofKind kind)
  | ofConfig {α : Type} [Configuration α] [Holds P α] (c : α) : Obtained (.ofConfig c)
  | read {r : Registry P} (hr : r.IsTyped) {first : Nat} {d : Octets} {c : Chain P}
      (h : ActionTable.read r first d = .ok c) {a : Action P} (ha : a ∈ c.actions) : Obtained a

theorem kind_of_readPayload {r : Registry P} (hr : r.IsTyped) {k : String} {options : Option Octets}
    {p : P} (h : ActionTable.readPayload r k options = .ok (some p)) : Payload.kind p = k := by
  rw [ActionTable.readPayload] at h
  split at h
  case h_1 => cases h
  case h_2 codec hget =>
    obtain ⟨hmem, hname⟩ := Registry.mem_and_name_of_get? hget
    obtain ⟨α, _, _, rfl⟩ := hr codec hmem
    cases options with
    | none => cases h
    | some d =>
        simp only [Codec.parse, Codec.ofConfig] at h
        cases hc : Configuration.parse (α := α) d with
        | error err =>
            rw [hc] at h
            cases h
        | ok c =>
            rw [hc] at h
            cases h
            rw [Holds.kind_payload]
            exact hname

theorem Obtained.isAgreed (h : a.Obtained) : a.IsAgreed := by
  cases h with
  | empty =>
      exact ⟨fun _ hk => (Option.not_mem_none _ hk).elim,
        fun _ hp => (Option.not_mem_none _ hp).elim⟩
  | ofKind kind =>
      refine ⟨fun k hk => ?_, fun _ hp => (Option.not_mem_none _ hp).elim⟩
      cases hk
      exact size_kindName_le kind
  | ofConfig c =>
      refine ⟨fun k hk => ?_, fun p hp => ?_⟩
      · cases hk
        exact size_kindName_le _
      · cases hp
        rw [Holds.kind_payload]
        rfl
  | read hr h ha =>
      obtain ⟨d, hd⟩ := ActionTable.exists_readEntry_of_mem h ha
      obtain ⟨k, options, stats, payload, rfl, hp, -, hs⟩ := ActionTable.exists_of_readEntry hd
      refine ⟨fun k' hk => ?_, fun p hpayload => ?_⟩
      · cases hk
        exact hs
      · cases hpayload
        rw [kind_of_readPayload hr hp]
        exact congrArg some (Text.truncate_eq_self (Nat.le_of_lt_succ hs)).symm

/-- The kind of an action that has an attachment, and what later edits do to it: nothing. -/
structure IsLocked (k : String) (a b : Action P) : Prop where
  kind : b.kind = some k
  payload : a.payload.isSome → b.payload.isSome
  options : a.options.isSome → b.options.isSome
  setKind (kind : String) : (∃ c, b.setKind kind = .ok c) ↔ kindName kind = k
  setConfig {α : Type} [Configuration α] [Holds P α] (config : α) :
    (∃ c, b.setConfig config = .ok c) ↔ kindName (Configuration.kind α) = k

structure KeepsKind (a : Action P) : Prop where
  size_lt {k : String} (h : a.kind = some k) : Text.size k.toList < kindBound
  kind_eq {p : P} (h : a.payload = some p) : a.kind = some (kindName (Payload.kind p))
  /-- A failing edit names the kind of the action and changes nothing. -/
  error {e : Edit P} {err : Error} {b : Action P} (h : e.run a = .error err b) :
    b = a ∧ ∃ k, a.kind = some k ∧ err = .kindLocked k
  locked {k : String} (hk : a.kind = some k) (ha : a.payload.isSome ∨ a.options.isSome)
    (es : List (Edit P)) : IsLocked k a (a.edited es)

theorem IsKept.isLocked (h : a.IsKept b) {k : String} (hk : a.kind = some k) (ha : a.isAttached) :
    IsLocked k a b := by
  have hkind : b.kind = some k := h.kind ha k hk
  have hiff (e : Edit P) : (∃ c, e.outcome b = .ok c) ↔ ∀ k' ∈ e.kind?, k' = k :=
    Edit.exists_outcome_eq_ok_iff hkind (h.isAttached ha)
  refine ⟨hkind, h.payload, h.options, fun kind => ?_, fun config => ?_⟩
  · exact (hiff (.setKind kind)).trans (by simp [Edit.kind?])
  · exact (hiff (.setConfig config)).trans (by simp [Edit.kind?])

/-- An action keeps its kind whatever is done to it, from the moment on when it has one and something
attached to it. -/
theorem Obtained.keepsKind (h : a.Obtained) (es : List (Edit P)) : (a.edited es).KeepsKind where
  size_lt hk := (h.isAgreed.edited es).size_lt _ hk
  kind_eq hp := (h.isAgreed.edited es).kind_eq _ hp
  error he := Edit.eq_of_run_eq_error he
  locked hk ha es' := (IsKept.edited _ es').isLocked hk (by rwa [isAttached, Bool.or_eq_true])

/-- A table with one entry, of a kind that a codec knows. -/
def dropTable : Octets :=
  Attr.written 1 (Attr.written 1 (Attr.ofText "gact") ++
    Attr.written 2 (Attr.written 2 (Params.of 7 .drop).octets))

/-- The action in it. -/
def dropRead : Action Builtin where
  kind := some "gact"
  payload := some (.gact (Gact.drop.withIndex 7))
  options := some (Attr.written 2 (Params.of 7 .drop).octets)

theorem keepsKind_dropRead :
    dropRead.Obtained ∧
      (dropRead.edited [.setKind "mirred", .setConfig (Mirred.redirectByIndex 3), .setKind "gact",
        .setOptions []]).KeepsKind := by
  have hentries : ((ActionTable.occurring dropTable).map (·.2)).mapM
      (ActionTable.readEntry .builtin) = .ok [dropRead] := by decide +kernel
  obtain ⟨c, hc, hactions⟩ := ActionTable.exists_read_of_mapM_readEntry hentries 0
  have hmem : dropRead ∈ c.actions := by
    rw [hactions]
    exact List.mem_singleton_self _
  have h : dropRead.Obtained := .read Registry.isTyped_builtin hc hmem
  exact ⟨h, h.keepsKind _⟩

end Action
end TrafficControl
