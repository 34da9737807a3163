import TrafficControl.Proofs.TableReading

/-!
# Codecs only add payloads

The codec of a kind is asked last, when the kind, the options and the statistics of an entry are
known. So an entry is read by reading it without codecs first and decoding what this gives
(`readEntry_eq`). A table that can be read with some codecs can be read without any, and the codecs
add nothing but payloads. If a table can be read without codecs but not with those of a registry,
then one of them has failed.

The order matters when both a codec and a later entry fail, so the two passes over the entries give
the same only if the first of them succeeds (`mapM_readEntry_eq_mapM_decode`).
-/
namespace TrafficControl

variable {P : Type}

/-- The action without its payload, and so without its index. -/
def Action.stripped (a : Action P) : Action P := { a with payload := none }

theorem Action.stripped_eq_self {a : Action P} (h : a.payload = none) : a.stripped = a := by
  rw [stripped, ← h]

/-- An error that a codec passes on as it is. -/
def Error.IsPassed : Error → Prop
  | .tooLarge .. | .outOfMemory | .codec .. | .foreignCodec .. => True
  | _ => False

theorem Error.inCodec_of_isPassed {e : Error} (kind : String) (h : e.IsPassed) :
    e.inCodec kind = e := by
  cases e with
  | tooLarge | outOfMemory | codec | foreignCodec => rfl
  | _ => exact h.elim

theorem Error.inCodec_of_not_isPassed {e : Error} (kind : String) (h : ¬ e.IsPassed) :
    e.inCodec kind = .codec kind e := by
  cases e with
  | tooLarge | outOfMemory | codec | foreignCodec => exact (h trivial).elim
  | _ => rfl

namespace ActionTable

variable {r : Registry P} {first : Nat} {d : Octets} {a b : Action P} {e : Error}

/-- The action with the payload that the codec of its kind reads from its options. -/
def decode (r : Registry P) (a : Action P) : Except Error (Action P) :=
  match a.kind with
  | some kind => (readPayload r kind a.options).map fun payload => { a with payload }
  | none => .ok a

/-- The codec of its kind fails on the options of the action, by an error that counts as the codec's
unless it is passed on. -/
inductive FailsOn (r : Registry P) (a : Action P) : Error → Prop
  | passed {kind : String} {codec : Codec P} {e : Error} (hk : a.kind = some kind)
      (hr : r.get? kind = some codec) (hc : codec.parse a.options = .error e) (he : e.IsPassed) :
      FailsOn r a e
  | named {kind : String} {codec : Codec P} {e : Error} (hk : a.kind = some kind)
      (hr : r.get? kind = some codec) (hc : codec.parse a.options = .error e) (he : ¬ e.IsPassed) :
      FailsOn r a (.codec kind e)

theorem stripped_of_decode (h : decode r a = .ok b) : b.stripped = a.stripped := by
  rw [decode] at h
  split at h
  case h_1 kind hk =>
    cases hp : readPayload r kind a.options with
    | error e =>
        rw [hp] at h
        cases h
    | ok payload =>
        rw [hp] at h
        cases h
        rfl
  case h_2 hk =>
    cases h
    rfl

theorem decode_eq_error_iff : decode r a = .error e ↔
    ∃ kind codec err, a.kind = some kind ∧ r.get? kind = some codec ∧
      codec.parse a.options = .error err ∧ e = err.inCodec kind := by
  rw [decode]
  constructor
  · intro h
    split at h
    case h_2 => cases h
    case h_1 kind hk =>
      rw [readPayload] at h
      split at h
      case h_1 => cases h
      case h_2 codec hr =>
        cases hc : codec.parse a.options with
        | ok payload =>
            rw [hc] at h
            cases h
        | error err =>
            rw [hc] at h
            cases h
            exact ⟨kind, codec, err, hk, hr, hc, rfl⟩
  · rintro ⟨kind, codec, err, hk, hr, hc, rfl⟩
    simp only [hk, readPayload, hr, hc]
    rfl

theorem failsOn_of_decode (h : decode r a = .error e) : FailsOn r a e := by
  obtain ⟨kind, codec, err, hk, hr, hc, rfl⟩ := decode_eq_error_iff.mp h
  by_cases hp : err.IsPassed
  · rw [Error.inCodec_of_isPassed kind hp]
    exact .passed hk hr hc hp
  · rw [Error.inCodec_of_not_isPassed kind hp]
    exact .named hk hr hc hp

/-- The kind that an entry names fits, so it is the kind of the action as it stands. -/
theorem readEntry_eq (r : Registry P) (d : Octets) :
    readEntry r d = readEntry .empty d >>= decode r := by
  unfold readEntry
  dsimp only
  cases (Table.read entrySize d).require kindType.toNat "TCA_ACT_KIND" with
  | error e => rfl
  | ok raw =>
      change (Attr.toText raw kindBound >>= _) = (Attr.toText raw kindBound >>= _) >>= _
      cases hk : Attr.toText raw kindBound with
      | error e => rfl
      | ok k =>
          have hkind : kindName k = k :=
            Text.truncate_eq_self (Attr.zero_notMem_and_size_le_of_toText hk).2
          -- Without codecs the payload is none, and then the codec of the kind is asked.
          have hdecode (options : Option Octets) (stats : Stats) :
              (readPayload r k options >>= fun payload =>
                .ok { kind := some (kindName k), options, stats, payload }) =
              decode r { kind := some (kindName k), options, stats } := by
            rw [decode, hkind]
            rfl
          split
          case h_1 octets ho =>
            cases hs : Stats.decode octets with
            | error e => rfl
            | ok stats => exact hdecode _ _
          case h_2 => exact hdecode _ _

theorem payload_of_readEntry_empty (h : readEntry .empty d = .ok a) : a.payload = none := by
  obtain ⟨k, options, stats, payload, rfl, hp, -⟩ := exists_of_readEntry h
  exact (Except.ok.inj hp).symm

section Entries

variable {ds : List Octets} {as bs : List (Action P)}

theorem mapM_readEntry_eq_mapM_decode (r : Registry P) (h : ds.mapM (readEntry .empty) = .ok as) :
    ds.mapM (readEntry r) = as.mapM (decode r) := by
  induction ds generalizing as with
  | nil =>
      cases h
      rfl
  | cons d ds ih =>
      obtain ⟨a, as', ha, has, rfl⟩ := mapM_cons_eq_ok_iff.mp h
      rw [List.mapM_cons, List.mapM_cons, readEntry_eq, ha, ih has]
      rfl

theorem exists_mapM_readEntry_empty (h : ds.mapM (readEntry r) = .ok as) :
    ∃ bs, ds.mapM (readEntry (P := P) .empty) = .ok bs := by
  induction ds generalizing as with
  | nil => exact ⟨[], rfl⟩
  | cons d ds ih =>
      obtain ⟨a, as', ha, has, rfl⟩ := mapM_cons_eq_ok_iff.mp h
      rw [readEntry_eq] at ha
      obtain ⟨b, hb, -⟩ := exists_of_bind_eq_ok ha
      obtain ⟨bs, hbs⟩ := ih has
      exact ⟨b :: bs, mapM_cons_eq_ok_iff.mpr ⟨b, bs, hb, hbs, rfl⟩⟩

theorem map_stripped_of_mapM_decode (h : as.mapM (decode r) = .ok bs) :
    bs.map Action.stripped = as.map Action.stripped := by
  induction as generalizing bs with
  | nil =>
      cases h
      rfl
  | cons a as ih =>
      obtain ⟨b, bs', hb, hbs, rfl⟩ := mapM_cons_eq_ok_iff.mp h
      rw [List.map_cons, List.map_cons, stripped_of_decode hb, ih hbs]

/-- The first codec that fails gives the error, and those before it have read their payloads. -/
theorem exists_failsOn_of_mapM_decode (h : as.mapM (decode r) = .error e) :
    ∃ before a after, as = before ++ a :: after ∧ (∃ bs, before.mapM (decode r) = .ok bs) ∧
      FailsOn r a e := by
  obtain ⟨before, a, after, rfl, hbefore, ha⟩ := mapM_eq_error_iff.mp h
  exact ⟨before, a, after, rfl, hbefore, failsOn_of_decode ha⟩

end Entries

/-- What is read with the codecs of a registry is what is read without any, but for the payloads. -/
theorem exists_read_empty {c : Chain P} (h : read r first d = .ok c) (first' : Nat) :
    ∃ c' : Chain P, read .empty first' d = .ok c' ∧
      c'.actions = c.actions.map Action.stripped := by
  have hmapM := mapM_readEntry_of_read h
  obtain ⟨as, has⟩ := exists_mapM_readEntry_empty hmapM
  obtain ⟨c', hc', rfl⟩ := exists_read_of_mapM_readEntry has first'
  refine ⟨c', hc', ?_⟩
  rw [mapM_readEntry_eq_mapM_decode r has] at hmapM
  have hstripped (a : Action P) (ha : a ∈ c'.actions) : a.stripped = a := by
    obtain ⟨e, he⟩ := exists_readEntry_of_mem hc' ha
    exact Action.stripped_eq_self (payload_of_readEntry_empty he)
  calc
    c'.actions = c'.actions.map id := (List.map_id _).symm
    _ = c'.actions.map Action.stripped := (List.map_congr_left hstripped).symm
    _ = c.actions.map Action.stripped := (map_stripped_of_mapM_decode hmapM).symm

/-- Codecs add nothing but payloads. Whatever codecs a table is read with, it gives the same actions
but for their payloads, place by place. It can then be read without codecs as well, and no action has
a payload. If it can be read only without them, it is because a codec fails on the options of an
action, and the codecs before it have not. -/
theorem read_eq_but_payloads (d : Octets) :
    (∀ (r s : Registry P) (first first' : Nat) (c c' : Chain P), read r first d = .ok c →
      read s first' d = .ok c' → c.actions.map Action.stripped = c'.actions.map Action.stripped) ∧
    (∀ (r : Registry P) (first first' : Nat) (c : Chain P), read r first d = .ok c →
      ∃ c' : Chain P, read .empty first' d = .ok c' ∧ ∀ a ∈ c'.actions, a.payload = none) ∧
    ∀ (r : Registry P) (first first' : Nat) (c : Chain P) (e : Error),
      read .empty first d = .ok c → read r first' d = .error e →
        ∃ before a after, c.actions = before ++ a :: after ∧
          (∃ bs, before.mapM (decode r) = .ok bs) ∧ FailsOn r a e := by
  refine ⟨fun r s first first' c c' hr hs => ?_, fun r first first' c hr => ?_,
    fun r first first' c e h₀ hr => ?_⟩
  · obtain ⟨c₀, hc₀, hr⟩ := exists_read_empty hr 0
    obtain ⟨c₁, hc₁, hs⟩ := exists_read_empty hs 0
    cases hc₀.symm.trans hc₁
    exact hr.symm.trans hs
  · obtain ⟨c', hc', hactions⟩ := exists_read_empty hr first'
    refine ⟨c', hc', fun a ha => ?_⟩
    rw [hactions] at ha
    obtain ⟨b, -, rfl⟩ := List.mem_map.mp ha
    rfl
  · have hmapM := mapM_readEntry_eq_mapM_decode r (mapM_readEntry_of_read h₀)
    exact exists_failsOn_of_mapM_decode (hmapM.symm.trans (read_eq_error_iff.mp hr))

/-- A registry with a codec that takes all options alike. -/
def uniform (name : String) (outcome : Except Error (Option P)) : Registry P where
  codecs := [{ name, parse? := some fun _ => outcome }]
  nodup := List.nodup_cons.mpr ⟨List.not_mem_nil, List.nodup_nil⟩

/-- A codec of one registry makes up a payload, that of another one refuses the second entry. -/
theorem read_eq_but_payloads_tidyTable :
    ∃ c c₀ : Chain Builtin,
      read (uniform "gact" (.ok (some (.gact .drop)))) 0 tidyTable = .ok c ∧
      read .empty 0 tidyTable = .ok c₀ ∧
      read (uniform (P := Builtin) "police" (.error .notFound)) 0 tidyTable =
        .error (.codec "police" .notFound) ∧
      c.actions.map Action.stripped = c₀.actions.map Action.stripped ∧
      (∃ c' : Chain Builtin, read .empty 5 tidyTable = .ok c' ∧
        ∀ a ∈ c'.actions, a.payload = none) ∧
      ∃ before a after, c₀.actions = before ++ a :: after ∧
        (∃ bs, before.mapM (decode (uniform "police" (.error .notFound))) = .ok bs) ∧
        FailsOn (uniform "police" (.error .notFound)) a (.codec "police" .notFound) := by
  have hdrop : ((occurring tidyTable).map (·.2)).mapM
      (readEntry (uniform "gact" (.ok (some (Builtin.gact .drop))))) =
      .ok [{ kind := some "gact", payload := some (.gact .drop) }, { kind := some "police" }] := by
    decide +kernel
  have hempty : ((occurring tidyTable).map (·.2)).mapM (readEntry (P := Builtin) .empty) =
      .ok [{ kind := some "gact" }, { kind := some "police" }] := by
    decide +kernel
  have hrefused : ((occurring tidyTable).map (·.2)).mapM
      (readEntry (uniform (P := Builtin) "police" (.error .notFound))) =
      .error (.codec "police" .notFound) := by
    decide +kernel
  obtain ⟨c, hc, -⟩ := exists_read_of_mapM_readEntry hdrop 0
  obtain ⟨c₀, hc₀, -⟩ := exists_read_of_mapM_readEntry hempty 0
  have he : read (uniform (P := Builtin) "police" (.error .notFound)) 0 tidyTable =
      .error (.codec "police" .notFound) := read_eq_error_iff.mpr hrefused
  obtain ⟨hagree, hnone, hfails⟩ := read_eq_but_payloads (P := Builtin) tidyTable
  exact ⟨c, c₀, hc, hc₀, he, hagree _ _ 0 0 c c₀ hc hc₀, hnone _ 0 5 c hc,
    hfails _ 0 0 c₀ _ hc₀ he⟩

end ActionTable
end TrafficControl
