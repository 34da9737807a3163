import Mathlib.Data.List.Forall2
import TrafficControl.ActionTable
import TrafficControl.Proofs.TextRoundTrip
import TrafficControl.Proofs.WrittenAttr

/-!
# Reading by place

A table is read by place, not by position: of every place from 1 to 32 that occurs in it, the last entry
counts, and the entries are taken in the order of their places. The chain never refuses an action, so
reading is reading the entries one by one (`actions_map_readWith`). Either all of them can be read, and
the chain has what the hook made of their actions, or the first that cannot be read gives the error, and
the hook has seen the actions before it and no other. Octets that agree in the last entry of each place
are the same table.
-/
namespace TrafficControl

variable {P σ : Type}

/-- An error by which a chain refuses an action. -/
def Error.IsRefusal : Error → Prop
  | .chainFull _ | .exist _ => True
  | _ => False

/-- Whatever stops the computation, it is not a chain that refuses an action. -/
def NeverRefuses {α : Type} (x : Except Error α) : Prop := ∀ e, x = .error e → ¬ e.IsRefusal

namespace NeverRefuses

variable {α β : Type}

theorem ok (a : α) : NeverRefuses (.ok a) := by
  intro e h
  cases h

theorem error {e : Error} (h : ¬ e.IsRefusal) : NeverRefuses (.error e : Except Error α) := by
  intro e' he
  cases he
  exact h

theorem bind {x : Except Error α} {f : α → Except Error β} (hx : NeverRefuses x)
    (hf : ∀ a, NeverRefuses (f a)) : NeverRefuses (x >>= f) := by
  cases x with
  | error e => exact error (hx e rfl)
  | ok a => exact hf a

/-- The refusal of a codec counts as an error of the codec. -/
theorem mapError_inCodec (kind : String) (x : Except Error α) :
    NeverRefuses (x.mapError (Error.inCodec kind)) := by
  cases x with
  | error e =>
      apply error
      cases e <;> exact id
  | ok a => exact ok a

end NeverRefuses

namespace Table

theorem neverRefuses_check (policy : Policy) (slots : List (Option Octets)) :
    NeverRefuses (check policy slots) := by
  fun_induction check policy slots with
  | case1 r policy d slots ih =>
      refine .bind ?_ fun _ => ih
      unfold Rule.check
      split
      · exact .error id
      · exact .ok ()
  | case2 rule policy slot slots _ ih => exact ih
  | case3 => exact .ok ()

theorem last?_filter {p : Attr → Bool} {i : Nat} (h : ∀ a : Attr, a.type.toNat = i → p a)
    (as : List Attr) : last? i (as.filter p) = last? i as := by
  unfold last?
  rw [← List.filter_reverse, List.find?_filter]
  congr 2
  funext a
  by_cases ha : a.type.toNat = i
  · simp [ha, h a ha]
  · simp [ha]

end Table

/-- Actions that take their identities by counting are never refused before the chain is full. -/
theorem Chain.exists_append_eq_ok {c : Chain P} {first : Nat}
    (hi : c.ids = List.range' first c.length) (hl : c.length < maxLength) (a : Action P) :
    ∃ c', c.append ⟨first + c.length, a⟩ = .ok c' ∧ c'.actions = c.actions ++ [a] ∧
      c'.length = c.length + 1 ∧ c'.ids = List.range' first c'.length := by
  have hfresh : first + c.length ∉ c.ids := by
    rw [hi]
    intro hm
    obtain ⟨k, hk, hm⟩ := List.mem_range'.mp hm
    omega
  obtain ⟨c', hc, htoList⟩ := append_of_ok (a := ⟨first + c.length, a⟩) hl hfresh
  have hlength : c'.length = c.length + 1 := by
    rw [length, htoList, List.length_append, List.length_singleton, length]
  refine ⟨c', hc, ?_, hlength, ?_⟩
  · rw [actions, htoList, List.map_append]
    rfl
  · rw [ids, htoList, List.map_append, ← ids, hi, hlength, List.range'_concat]
    simp

namespace ActionTable

variable {r : Registry P} {hook : Hook P σ} {first : Nat} {d d' : Octets}

theorem exists_of_bind_eq_ok {α β : Type} {x : Except Error α} {f : α → Except Error β} {b : β}
    (h : (x >>= f) = .ok b) : ∃ a, x = .ok a ∧ f a = .ok b := by
  cases x with
  | error e => cases h
  | ok a => exact ⟨a, rfl, h⟩

/-- An entry gives an action of the kind that it names, with what it holds and nothing else. -/
theorem exists_of_readEntry {a : Action P} (h : readEntry r d = .ok a) :
    ∃ k options stats payload,
      a = { kind := some k, options, stats, payload } ∧ readPayload r k options = .ok payload ∧
      '\x00' ∉ k.toList ∧ Text.size k.toList < kindBound := by
  obtain ⟨raw, -, h⟩ := exists_of_bind_eq_ok h
  obtain ⟨k, hk, h⟩ := exists_of_bind_eq_ok h
  obtain ⟨h0, hs⟩ := Attr.zero_notMem_and_size_le_of_toText hk
  have hkind : kindName k = k := Text.truncate_eq_self hs
  split at h
  all_goals
    obtain ⟨stats, -, h⟩ := exists_of_bind_eq_ok h
    obtain ⟨payload, hp, ha⟩ := exists_of_bind_eq_ok h
    rw [hkind] at ha
    cases ha
    exact ⟨k, _, stats, payload, rfl, hp, h0, Nat.lt_succ_of_le hs⟩

theorem neverRefuses_readEntry (r : Registry P) (d : Octets) : NeverRefuses (readEntry r d) := by
  have hpayload (kind : String) (options : Option Octets) :
      NeverRefuses (readPayload r kind options) := by
    unfold readPayload
    split
    · exact .ok none
    · exact .mapError_inCodec _ _
  unfold readEntry
  dsimp only
  refine .bind ?_ fun named => .bind ?_ fun kind => ?_
  · unfold Table.require
    split
    · exact .ok _
    · exact .error id
  · unfold Attr.toText
    split
    · exact .ok _
    · exact .error id
  · split
    · refine .bind ?_ fun stats => .bind (hpayload _ _) fun p => .ok _
      exact .bind (.bind (Table.neverRefuses_check _ _) fun _ => .ok _) fun t => .ok _
    · exact .bind (.ok _) fun stats => .bind (hpayload _ _) fun p => .ok _

/-- The last entries of the places that occur, in the order of the places. -/
def occurring (d : Octets) : List (Nat × Octets) :=
  places.filterMap fun i => (Table.last? i (Attr.list d)).map (i, ·)

theorem mem_places_iff {i : Nat} : i ∈ places ↔ 1 ≤ i ∧ i ≤ Chain.maxLength := by
  unfold places
  rw [List.mem_range'_1]
  omega

theorem mem_occurring_iff {i : Nat} {e : Octets} :
    (i, e) ∈ occurring d ↔
      (1 ≤ i ∧ i ≤ Chain.maxLength) ∧ Table.last? i (Attr.list d) = some e := by
  unfold occurring
  rw [← mem_places_iff, List.mem_filterMap]
  constructor
  · rintro ⟨j, hj, he⟩
    obtain ⟨x, hx, hxe⟩ := Option.map_eq_some_iff.mp he
    cases hxe
    exact ⟨hj, hx⟩
  · rintro ⟨hi, he⟩
    exact ⟨i, hi, by rw [he]; rfl⟩

theorem pairwise_occurring (d : Octets) : (occurring d).Pairwise fun x y => x.1 < y.1 := by
  unfold occurring places
  rw [List.pairwise_filterMap]
  refine List.Pairwise.imp ?_ List.pairwise_lt_range'
  intro i j hij x hx y hy
  obtain ⟨_, -, rfl⟩ := Option.map_eq_some_iff.mp hx
  obtain ⟨_, -, rfl⟩ := Option.map_eq_some_iff.mp hy
  exact hij

theorem length_occurring_le (d : Octets) : (occurring d).length ≤ Chain.maxLength := by
  have h := List.length_filterMap_le (fun i => (Table.last? i (Attr.list d)).map (i, ·)) places
  rwa [places, List.length_range'] at h

/-- The table of the attributes has the entries that occur. -/
theorem filterMap_get_read (d : Octets) :
    places.filterMap (Table.read (Chain.maxLength + 1) d).get = (occurring d).map (·.2) := by
  unfold occurring
  rw [List.map_filterMap]
  refine List.filterMap_congr fun i hi => ?_
  have hi' := (mem_places_iff.mp hi).2
  rw [Table.get_read d (Nat.lt_succ_of_le hi'), Option.map_map]
  exact Option.map_id'.symm

theorem occurring_congr
    (h : ∀ i, 1 ≤ i → i ≤ Chain.maxLength →
      Table.last? i (Attr.list d) = Table.last? i (Attr.list d')) : occurring d = occurring d' := by
  refine List.filterMap_congr fun i hi => ?_
  obtain ⟨hi, hi'⟩ := mem_places_iff.mp hi
  rw [h i hi hi']

/-- The action that an entry holds, as the hook makes it. -/
def readHooked (r : Registry P) (hook : Hook P σ) (d : Octets) : EStateM Error σ (Action P) := do
  runHook hook (← MonadExcept.ofExcept (readEntry r d))

theorem readHooked_of_error {e : Error} (h : readEntry r d = .error e) (s : σ) :
    readHooked r hook d s = .error e s := by
  unfold readHooked
  rw [h]
  rfl

theorem readHooked_of_ok {a : Action P} (h : readEntry r d = .ok a) (s : σ) :
    readHooked r hook d s = .ok (hook a s).1 (hook a s).2 := by
  unfold readHooked
  rw [h]
  rfl

theorem readInto_eq (r : Registry P) (hook : Hook P σ) (first : Nat) (c : Chain P) (d : Octets) :
    readInto r hook first c d = readHooked r hook d >>= fun a =>
      MonadExcept.ofExcept (c.append ⟨first + c.length, a⟩) := by
  unfold readHooked
  rw [bind_assoc]
  rfl

/-- An entry that joined a chain could be read, and the chain took the action that the hook made. -/
theorem exists_append_of_readInto {b c : Chain P} {s s' : σ}
    (h : readInto r hook first c d s = .ok b s') :
    ∃ a, readEntry r d = .ok a ∧ c.append ⟨first + c.length, (hook a s).1⟩ = .ok b := by
  rw [readInto] at h
  cases ha : readEntry r d with
  | error e =>
      rw [ha] at h
      cases h
  | ok a =>
      rw [ha] at h
      change (MonadExcept.ofExcept (c.append ⟨first + c.length, (hook a s).1⟩) :
        EStateM Error σ _) (hook a s).2 = .ok b s' at h
      refine ⟨a, rfl, ?_⟩
      cases hc : c.append ⟨first + c.length, (hook a s).1⟩ with
      | error e =>
          rw [hc] at h
          cases h
      | ok b' =>
          rw [hc] at h
          cases h
          rfl

/-- A chain with room for all entries takes them all, since its identities count its actions. -/
theorem actions_map_foldlM {c : Chain P} (hi : c.ids = List.range' first c.length)
    {ds : List Octets} (hl : c.length + ds.length ≤ Chain.maxLength) :
    Chain.actions <$> ds.foldlM (readInto r hook first) c =
      (c.actions ++ ·) <$> ds.mapM (readHooked r hook) := by
  induction ds generalizing c with
  | nil => simp
  | cons d ds ih =>
      rw [List.length_cons] at hl
      -- Whatever action the entry gives, the chain takes it, and the rest goes on behind it.
      have hrest (a : Action P) :
          ((MonadExcept.ofExcept (c.append ⟨first + c.length, a⟩) : EStateM Error σ _) >>= fun b =>
            Chain.actions <$> ds.foldlM (readInto r hook first) b) =
          (fun as => c.actions ++ a :: as) <$> ds.mapM (readHooked r hook) := by
        obtain ⟨b, hb, hactions, hlength, hids⟩ := Chain.exists_append_eq_ok hi (by omega) a
        rw [hb]
        change Chain.actions <$> ds.foldlM (readInto r hook first) b = _
        rw [ih hids (by omega), hactions]
        simp only [List.append_assoc, List.singleton_append]
      rw [List.foldlM_cons, List.mapM_cons, readInto_eq]
      simp only [map_bind, bind_assoc, hrest, bind_pure_comp, Functor.map_map]

/-- Reading a table is reading the entries that occur, one by one. -/
theorem actions_map_readWith (r : Registry P) (hook : Hook P σ) (first : Nat) (d : Octets) :
    Chain.actions <$> readWith r hook first d =
      ((occurring d).map (·.2)).mapM (readHooked r hook) := by
  have hl : (Chain.empty : Chain P).length + ((occurring d).map (·.2)).length ≤
      Chain.maxLength := by
    rw [List.length_map]
    exact (Nat.zero_add _).symm ▸ length_occurring_le d
  rw [readWith, filterMap_get_read, actions_map_foldlM rfl hl]
  exact id_map _

/-- A hook without a state of its own can as well wait until all entries are read. -/
theorem mapM_readHooked_pure (r : Registry P) (g : Action P → Action P) (ds : List Octets) :
    (ds.mapM (readHooked r fun a => pure (g a)) : EStateM Error σ _) =
      MonadExcept.ofExcept (List.map g <$> ds.mapM (readEntry r)) := by
  induction ds with
  | nil => rfl
  | cons d ds ih =>
      rw [List.mapM_cons, List.mapM_cons, ih]
      unfold readHooked
      cases readEntry r d with
      | error e => rfl
      | ok a =>
          cases ds.mapM (readEntry r) with
          | error e => rfl
          | ok as => rfl

theorem actions_map_readWith_pure (r : Registry P) (g : Action P → Action P) (first : Nat)
    (d : Octets) :
    (Chain.actions <$> readWith r (fun a => pure (g a)) first d : EStateM Error σ _) =
      MonadExcept.ofExcept (List.map g <$> ((occurring d).map (·.2)).mapM (readEntry r)) := by
  rw [actions_map_readWith, mapM_readHooked_pure]

section Map

variable {α β : Type} {f : α → β} {x : EStateM Error σ α} {s s' : σ}

theorem exists_of_map_eq_ok {b : β} (h : (f <$> x) s = .ok b s') :
    ∃ a, x s = .ok a s' ∧ f a = b := by
  simp only [Functor.map, EStateM.map] at h
  split at h
  case h_1 a s₁ ha =>
    cases h
    exact ⟨a, ha, rfl⟩
  case h_2 => cases h

theorem eq_of_map_eq_error {e : Error} (h : (f <$> x) s = .error e s') : x s = .error e s' := by
  simp only [Functor.map, EStateM.map] at h
  split at h
  case h_1 => cases h
  case h_2 e₁ s₁ he =>
    cases h
    exact he

end Map

/-- So the actions are those of the entries, each as the hook makes it. -/
theorem actions_of_readWith_pure (r : Registry P) (g : Action P → Action P) (first : Nat)
    (d : Octets) :
    (match readWith r (fun a => pure (g a)) first d () with
      | .ok c _ => .ok c.actions
      | .error e _ => .error e) =
      List.map g <$> ((occurring d).map (·.2)).mapM (readEntry r) := by
  have h := congrFun (actions_map_readWith_pure (σ := Unit) r g first d) ()
  cases hx : ((occurring d).map (·.2)).mapM (readEntry r) with
  | error e =>
      rw [hx] at h
      rw [eq_of_map_eq_error h]
      rfl
  | ok as =>
      rw [hx] at h
      obtain ⟨c, hc, hca⟩ := exists_of_map_eq_ok h
      rw [hc]
      exact congrArg Except.ok hca

theorem actions_map_read (r : Registry P) (first : Nat) (d : Octets) :
    Chain.actions <$> read r first d = ((occurring d).map (·.2)).mapM (readEntry r) := by
  have h := actions_of_readWith_pure r (fun a => a) first d
  rw [List.map_id_fun', id_map] at h
  rw [← h]
  unfold read
  cases readWith r (fun a => pure a) first d () with
  | error e s => rfl
  | ok c s => rfl

theorem mapM_readEntry_of_read {c : Chain P} (h : read r first d = .ok c) :
    ((occurring d).map (·.2)).mapM (readEntry r) = .ok c.actions := by
  rw [← actions_map_read r first, h]
  rfl

theorem exists_read_of_mapM_readEntry {as : List (Action P)}
    (h : ((occurring d).map (·.2)).mapM (readEntry r) = .ok as) (first : Nat) :
    ∃ c, read r first d = .ok c ∧ c.actions = as := by
  rw [← actions_map_read r first] at h
  cases hc : read r first d with
  | error e =>
      rw [hc] at h
      cases h
  | ok c =>
      rw [hc] at h
      exact ⟨c, rfl, Except.ok.inj h⟩

theorem read_eq_error_iff {e : Error} : read r first d = .error e ↔
    ((occurring d).map (·.2)).mapM (readEntry r) = .error e := by
  rw [← actions_map_read r first]
  cases read r first d with
  | error err =>
      constructor <;> intro h
      all_goals
        cases h
        rfl
  | ok c =>
      constructor <;> intro h
      all_goals cases h

theorem mapM_cons_eq_ok_iff {α β : Type} {f : α → Except Error β} {a : α} {as : List α}
    {bs : List β} : (a :: as).mapM f = .ok bs ↔
      ∃ b bs', f a = .ok b ∧ as.mapM f = .ok bs' ∧ bs = b :: bs' := by
  rw [List.mapM_cons]
  constructor
  · intro h
    obtain ⟨b, hb, h⟩ := exists_of_bind_eq_ok h
    obtain ⟨bs', hbs, h⟩ := exists_of_bind_eq_ok h
    cases h
    exact ⟨b, bs', hb, hbs, rfl⟩
  · rintro ⟨b, bs', hb, hbs, rfl⟩
    rw [hb, hbs]
    rfl

theorem mapM_cons_eq_error_iff {α β : Type} {f : α → Except Error β} {a : α} {as : List α}
    {e : Error} : (a :: as).mapM f = .error e ↔
      f a = .error e ∨ ∃ b, f a = .ok b ∧ as.mapM f = .error e := by
  rw [List.mapM_cons]
  cases f a with
  | error err => simp [bind, Except.bind]
  | ok b => cases as.mapM f <;> simp [bind, Except.bind, pure, Except.pure]

/-- A traversal fails by the first step that fails. -/
theorem mapM_eq_error_iff {α β : Type} {f : α → Except Error β} {e : Error} {as : List α} :
    as.mapM f = .error e ↔ ∃ before a after, as = before ++ a :: after ∧
      (∃ bs, before.mapM f = .ok bs) ∧ f a = .error e := by
  constructor
  · intro h
    induction as with
    | nil => cases h
    | cons a as ih =>
        rcases mapM_cons_eq_error_iff.mp h with ha | ⟨b, hb, has⟩
        · exact ⟨[], a, as, rfl, ⟨[], rfl⟩, ha⟩
        · obtain ⟨before, x, after, rfl, ⟨bs, hbs⟩, hx⟩ := ih has
          have hbefore := mapM_cons_eq_ok_iff.mpr ⟨b, bs, hb, hbs, rfl⟩
          exact ⟨a :: before, x, after, rfl, ⟨b :: bs, hbefore⟩, hx⟩
  · rintro ⟨before, a, after, rfl, ⟨bs, hbs⟩, ha⟩
    rw [List.mapM_append, hbs, List.mapM_cons, ha]
    rfl

theorem map_eq_of_mapM_eq_ok {α β : Type} {f : α → Except Error β} {as : List α} {bs : List β}
    (h : as.mapM f = .ok bs) : as.map f = bs.map .ok := by
  induction as generalizing bs with
  | nil =>
      cases h
      rfl
  | cons a as ih =>
      obtain ⟨b, bs', hb, hbs, rfl⟩ := mapM_cons_eq_ok_iff.mp h
      rw [List.map_cons, List.map_cons, hb, ih hbs]

/-- A table that can be read gives what its entries give, in the order of their places. -/
theorem map_readEntry_of_read {c : Chain P} (h : read r first d = .ok c) :
    (places.filterMap (Table.read (Chain.maxLength + 1) d).get).map (readEntry r) =
      c.actions.map .ok := by
  rw [filterMap_get_read]
  exact map_eq_of_mapM_eq_ok (mapM_readEntry_of_read h)

theorem exists_readEntry_of_mem {c : Chain P} {a : Action P} (h : read r first d = .ok c)
    (ha : a ∈ c.actions) : ∃ e, readEntry r e = .ok a := by
  have hm : Except.ok a ∈ c.actions.map (Except.ok (ε := Error)) := List.mem_map_of_mem ha
  rw [← map_readEntry_of_read h] at hm
  obtain ⟨e, -, he⟩ := List.mem_map.mp hm
  exact ⟨e, he⟩

/-- What becomes of entries that are read one by one: all are read, or the first that cannot be read
stops the reading. The hook makes the actions in order, and sees none from the failure on. -/
inductive Reads (r : Registry P) (hook : Hook P σ) (es : List (Nat × Octets)) (s : σ) :
    EStateM.Result Error σ (List (Action P)) → Prop where
  | all {as : List (Action P)} (h : List.Forall₂ (fun e a => readEntry r e.2 = .ok a) es as) :
      Reads r hook es s (.ok (as.mapM hook s).1 (as.mapM hook s).2)
  | stopped {before after : List (Nat × Octets)} {e : Nat × Octets} {as : List (Action P)}
      {err : Error} (hes : es = before ++ e :: after)
      (h : List.Forall₂ (fun e a => readEntry r e.2 = .ok a) before as)
      (he : readEntry r e.2 = .error err) : Reads r hook es s (.error err (as.mapM hook s).2)

theorem mapM_cons_hook (hook : Hook P σ) (a : Action P) (as : List (Action P)) (s : σ) :
    (a :: as).mapM hook s =
      ((hook a s).1 :: (as.mapM hook (hook a s).2).1, (as.mapM hook (hook a s).2).2) := by
  rw [List.mapM_cons]
  rfl

theorem reads_mapM (r : Registry P) (hook : Hook P σ) (es : List (Nat × Octets)) (s : σ) :
    Reads r hook es s ((es.map (·.2)).mapM (readHooked r hook) s) := by
  induction es generalizing s with
  | nil => exact .all .nil
  | cons e es ih =>
      rw [List.map_cons, List.mapM_cons]
      simp only [bind, EStateM.bind]
      cases he : readEntry r e.2 with
      | error err =>
          rw [readHooked_of_error he]
          exact .stopped (List.nil_append (e :: es)).symm .nil he
      | ok a =>
          rw [readHooked_of_ok he]
          dsimp only
          have hrest := ih (hook a s).2
          generalize (es.map (·.2)).mapM (readHooked r hook) (hook a s).2 = res at hrest ⊢
          cases hrest with
          | @all as h =>
              have hall : Reads r hook (e :: es) s _ := .all (h.cons he)
              rwa [mapM_cons_hook] at hall
          | @stopped before after e' as err hes h he' =>
              have hstop : Reads r hook (e :: es) s _ :=
                .stopped (congrArg (e :: ·) hes) (h.cons he) he'
              rwa [mapM_cons_hook] at hstop

theorem not_isRefusal_of_readWith {s s' : σ} {e : Error}
    (h : readWith r hook first d s = .error e s') : ¬ e.IsRefusal := by
  have hreads := reads_mapM r hook (occurring d) s
  rw [← actions_map_readWith r hook first] at hreads
  simp only [Functor.map, EStateM.map, h] at hreads
  cases hreads with
  | stopped _ _ he => exact neverRefuses_readEntry r _ _ he

theorem readWith_congr (r : Registry P) (hook : Hook P σ) (first : Nat)
    (h : ∀ i, 1 ≤ i → i ≤ Chain.maxLength →
      Table.last? i (Attr.list d) = Table.last? i (Attr.list d')) :
    readWith r hook first d = readWith r hook first d' := by
  rw [readWith, readWith, filterMap_get_read, filterMap_get_read, occurring_congr h]

/-- The attribute stands for a place. -/
def isPlaced (a : Attr) : Bool := 1 ≤ a.type.toNat ∧ a.type.toNat ≤ Chain.maxLength

/-- A table is read as its places say: the last entry of every place that occurs, in the order of the
places, all of them or none, and each through the hook once. No chain refuses an action meanwhile.
Only the last entries of the places count, so attributes that stand for no place do not. -/
theorem reads_occurring (r : Registry P) (hook : Hook P σ) (first : Nat) (d : Octets) :
    ((occurring d).Pairwise fun x y => x.1 < y.1) ∧
    (∀ i e, (i, e) ∈ occurring d ↔
      (1 ≤ i ∧ i ≤ Chain.maxLength) ∧ Table.last? i (Attr.list d) = some e) ∧
    (∀ s, Reads r hook (occurring d) s ((Chain.actions <$> readWith r hook first d) s)) ∧
    (∀ s s' n x, readWith r hook first d s ≠ .error (.chainFull n) s' ∧
      readWith r hook first d s ≠ .error (.exist x) s') ∧
    (∀ d', (∀ i, 1 ≤ i → i ≤ Chain.maxLength →
      Table.last? i (Attr.list d) = Table.last? i (Attr.list d')) →
        readWith r hook first d = readWith r hook first d') ∧
    ∀ d', (Attr.list d).filter isPlaced = (Attr.list d').filter isPlaced →
      readWith r hook first d = readWith r hook first d' := by
  refine ⟨pairwise_occurring d, fun i e => mem_occurring_iff, fun s => ?_,
    fun s s' n x => ⟨?_, ?_⟩, fun d' => readWith_congr r hook first, fun d' h => ?_⟩
  · rw [actions_map_readWith]
    exact reads_mapM r hook (occurring d) s
  · exact fun h => not_isRefusal_of_readWith h trivial
  · exact fun h => not_isRefusal_of_readWith h trivial
  · refine readWith_congr r hook first fun i hi hi' => ?_
    have hplaced (a : Attr) (ha : a.type.toNat = i) : isPlaced a := by
      unfold isPlaced
      rw [ha, decide_eq_true_eq]
      exact ⟨hi, hi'⟩
    rw [← Table.last?_filter hplaced, h, Table.last?_filter hplaced]

/-- Two entries in the order of their places. -/
def tidyTable : Octets :=
  Attr.written 3 (Attr.written 1 (Attr.ofText "gact")) ++
    Attr.written 32 (Attr.written 1 (Attr.ofText "police"))

/-- The same entries the other way round, one of them twice, and attributes that stand for no place. -/
def untidyTable : Octets :=
  Attr.written 0 [1] ++ Attr.written 3 [] ++
    Attr.written 0x8020 (Attr.written 1 (Attr.ofText "police")) ++ Attr.written 33 [] ++
    Attr.written 0x8003 (Attr.written 1 (Attr.ofText "gact")) ++ [200, 0, 1, 0]

theorem reads_occurring_untidyTable :
    (∀ i, 1 ≤ i → i ≤ Chain.maxLength →
      Table.last? i (Attr.list untidyTable) = Table.last? i (Attr.list tidyTable)) ∧
    ∀ {σ : Type} (hook : Hook Builtin σ),
      readWith .builtin hook 0 untidyTable = readWith .builtin hook 0 tidyTable := by
  have h : ∀ i ∈ places,
      Table.last? i (Attr.list untidyTable) = Table.last? i (Attr.list tidyTable) := by
    decide +kernel
  have h' (i : Nat) (hi : 1 ≤ i) (hi' : i ≤ Chain.maxLength) := h i (mem_places_iff.mpr ⟨hi, hi'⟩)
  exact ⟨h', fun hook => (reads_occurring .builtin hook 0 untidyTable).2.2.2.2.1 tidyTable h'⟩

end ActionTable
end TrafficControl
