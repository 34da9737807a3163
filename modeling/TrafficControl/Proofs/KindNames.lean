import Mathlib.Data.List.TakeWhile
import TrafficControl.Proofs.BoundedText
import TrafficControl.Proofs.RegisteredConfig

/-!
# Names with zeros in them

Setting the kind of an action cuts the name to its bound. An entry holds the name as a text that
ends at its first zero, so reading the kind cuts the name there too, and then to the same bound. It
makes no difference which cut comes first (`truncate_beforeZero`). So both sides keep the same of a
name exactly when no zero is among the characters that setting it keeps; any other name comes back
shorter.
-/
namespace TrafficControl

namespace Text

/-- What stands before the first zero character, all of the text if there is none. -/
def beforeZero (s : String) : String := String.ofList (s.toList.takeWhile (· ≠ '\x00'))

theorem toList_beforeZero (s : String) :
    (beforeZero s).toList = s.toList.takeWhile (· ≠ '\x00') := String.toList_ofList

theorem zero_notMem_beforeZero (s : String) : '\x00' ∉ (beforeZero s).toList := by
  rw [toList_beforeZero]
  intro h
  simpa using List.mem_takeWhile_imp h

theorem beforeZero_eq_self_iff {s : String} : beforeZero s = s ↔ '\x00' ∉ s.toList := by
  constructor
  · intro h
    rw [← h]
    exact zero_notMem_beforeZero s
  · intro h
    have hall : s.toList.takeWhile (· ≠ '\x00') = s.toList :=
      List.takeWhile_eq_self_iff.mpr fun c hc => decide_eq_true fun he => h (he ▸ hc)
    rw [beforeZero, hall, String.ofList_toList]

theorem exists_toList_eq_of_zero_mem {s : String} (h : '\x00' ∈ s.toList) :
    ∃ post, s.toList = (beforeZero s).toList ++ '\x00' :: post := by
  obtain ⟨pre, post, hs, hpre⟩ := List.eq_append_cons_of_mem h
  have hne (c : Char) (hc : c ∈ pre) : decide (c ≠ '\x00') = true :=
    decide_eq_true fun he => hpre (he ▸ hc)
  refine ⟨post, ?_⟩
  rw [toList_beforeZero, hs, List.takeWhile_append_of_pos hne]
  simp

theorem takeOctets_takeWhile (p : Char → Bool) (n : Nat) (cs : List Char) :
    takeOctets n (cs.takeWhile p) = (takeOctets n cs).takeWhile p := by
  induction cs generalizing n with
  | nil => rfl
  | cons c cs ih =>
      by_cases hp : p c
      · by_cases hn : c.utf8Size ≤ n
        · rw [List.takeWhile_cons_of_pos hp, takeOctets, if_pos hn, takeOctets, if_pos hn,
            List.takeWhile_cons_of_pos hp, ih]
        · rw [List.takeWhile_cons_of_pos hp, takeOctets, if_neg hn, takeOctets, if_neg hn,
            List.takeWhile_nil]
      · by_cases hn : c.utf8Size ≤ n
        · rw [List.takeWhile_cons_of_neg hp, takeOctets, takeOctets, if_pos hn,
            List.takeWhile_cons_of_neg hp]
        · rw [List.takeWhile_cons_of_neg hp, takeOctets, takeOctets, if_neg hn, List.takeWhile_nil]

theorem truncate_beforeZero (s : String) (n : Nat) :
    truncate (beforeZero s) n = beforeZero (truncate s n) := by
  rw [truncate, toList_beforeZero, takeOctets_takeWhile, beforeZero, toList_truncate]

end Text

namespace Attr

/-- In the payload of a text its octets are followed by a zero, its own first one or the closing
one. -/
theorem isFront_ofText (s : String) : IsFront (Text.octets (Text.beforeZero s)) (ofText s) := by
  refine ⟨Text.zero_notMem_octets (Text.zero_notMem_beforeZero s), .inr ?_⟩
  by_cases h : '\x00' ∈ s.toList
  · obtain ⟨post, hs⟩ := Text.exists_toList_eq_of_zero_mem h
    refine ⟨post.flatMap String.utf8EncodeChar ++ [0], ?_⟩
    have hzero : String.utf8EncodeChar '\x00' = [0] := by decide
    rw [ofText, Text.octets, hs, List.flatMap_append, List.flatMap_cons, hzero, List.append_assoc]
    rfl
  · rw [Text.beforeZero_eq_self_iff.mpr h]
    exact ⟨[], rfl⟩

theorem toText_ofText_eq (s : String) (bound : Nat) :
    toText (ofText s) bound = .ok (Text.truncate (Text.beforeZero s) (bound - 1)) :=
  toText_of_octets (isFront_ofText s) bound

end Attr

variable {P : Type}

namespace Action

/-- The kind of the action was last set to this name: when the action was made or later on, and
whatever was done to it since has left its kind. -/
inductive IsNamed (s : String) : Action P → Prop
  | ofKind : IsNamed s (.ofKind s)
  | setKind {a b : Action P} (h : a.setKind s = .ok b) : IsNamed s b
  | kept {a b : Action P} (ha : IsNamed s a) (h : b.kind = a.kind) : IsNamed s b

theorem kind_of_setKind {a b : Action P} {s : String} (h : a.setKind s = .ok b) :
    b.kind = some (kindName s) := by
  rw [Action.setKind] at h
  split at h
  case h_1 current hk =>
    split at h
    case isTrue => cases h
    case isFalse =>
      cases h
      rfl
  case h_2 hk =>
    cases h
    rfl

theorem IsNamed.kind_eq {a : Action P} {s : String} (h : a.IsNamed s) :
    a.kind = some (kindName s) := by
  induction h with
  | ofKind => rfl
  | setKind h => exact kind_of_setKind h
  | kept _ h ih => rw [h, ih]

end Action

namespace ActionTable

variable {a : Action P} {c : Chain P} {d : Octets}

theorem settled_writeEntry_empty (a : Action P) : Build.Settled (writeEntry .empty a) := by
  cases hk : a.kind with
  | none =>
      rw [writeEntry_of_none _ hk]
      exact settled_writeRaw a.options
  | some k =>
      rw [writeEntry_of_raw hk rfl]
      exact (Build.Settled.attr ..).bind (settled_writeRaw a.options)

theorem readEntry_of_kind_eq_some {k : String} (hk : a.kind = some k)
    (hd : Build.Writes (writeEntry .empty a) d) :
    readEntry (P := P) .empty d = .ok
      { kind := some (kindName (Text.beforeZero k)), options := a.options.map Octets.pad } := by
  rw [writeEntry_of_raw hk rfl] at hd
  have hlist := list_of_writes_named (settled_writeRaw a.options) (fun _ => yields_writeRaw) hd
  rw [readEntry_of_toText (Attr.toText_ofText_eq k kindBound) hlist]
  rfl

theorem readEntry_of_kind_eq_none {r : Registry P} (hk : a.kind = none)
    (hd : Build.Writes (writeEntry r a) d) :
    readEntry r d = .error (.missingAttr "TCA_ACT_KIND") := by
  rw [writeEntry_of_none _ hk] at hd
  have hlist := (yields_writeRaw hd).list_eq hd
  have hkind : (Table.read entrySize d).get kindType.toNat = none := by
    rw [Table.get_read d (by decide), hlist, Table.last?_optional]
    rfl
  simp only [readEntry, Table.require, hkind]
  rfl

/-- When each step succeeds or fails with the same error, one that fails decides. -/
theorem mapM_eq_error_of_mem {α β : Type} {f : α → Except Error β} {e : Error} {as : List α}
    (h : ∀ a ∈ as, (∃ b, f a = .ok b) ∨ f a = .error e) (hex : ∃ a ∈ as, f a = .error e) :
    as.mapM f = .error e := by
  cases hm : as.mapM f with
  | ok bs =>
      obtain ⟨a, ha, he⟩ := hex
      have hmem : f a ∈ as.map f := List.mem_map_of_mem ha
      rw [map_eq_of_mapM_eq_ok hm, he] at hmem
      obtain ⟨b, -, hb⟩ := List.mem_map.mp hmem
      cases hb
  | error err =>
      obtain ⟨before, a, after, rfl, -, ha⟩ := mapM_eq_error_iff.mp hm
      rcases h a (List.mem_append_right _ List.mem_cons_self) with ⟨b, hb⟩ | he
      · cases hb.symm.trans ha
      · exact congrArg _ (Except.error.inj (ha.symm.trans he))

/-- An action whose kind was set to a name has the name cut to its bound. Written and read without
codecs, it comes back with the name cut before its first zero and to its bound. These are the same
exactly when no zero is in the first one. A table of such actions can always be read, and one with
an action that has no kind never. -/
theorem kinds_read_write {type : UInt16} {b b' : Builder} (first : Nat)
    (hb : write type c .empty b = .ok () b') :
    ∃ d, b.Gained b' type d ∧
      ((∀ a ∈ c.actions, a.kind ≠ none) → ∃ c' : Chain P, read .empty first d = .ok c' ∧
        List.Forall₂ (fun a a' => ∀ s, a.IsNamed s → a.kind = some (kindName s) ∧
          a'.kind = some (kindName (Text.beforeZero s)) ∧
            (a'.kind = a.kind ↔ '\x00' ∉ (kindName s).toList)) c.actions c'.actions) ∧
      ((∃ a ∈ c.actions, a.kind = none) →
        read (P := P) .empty first d = .error (.missingAttr "TCA_ACT_KIND")) := by
  obtain ⟨d, entry, hgain, hlist, hentry⟩ :=
    exists_entries_of_write_eq_ok (fun a _ => settled_writeEntry_empty a) hb
  refine ⟨d, hgain, fun hnamed => ?_, fun hunnamed => ?_⟩
  · let back (a : Action P) : Action P :=
      { kind := some (kindName (Text.beforeZero (a.kind.getD "")))
        options := a.options.map Octets.pad }
    have hread : ∀ a ∈ c.actions, readEntry .empty (entry a) = .ok (back a) := by
      intro a ha
      obtain ⟨k, hk⟩ := Option.ne_none_iff_exists'.mp (hnamed a ha)
      rw [readEntry_of_kind_eq_some hk (hentry a ha)]
      simp only [back, hk, Option.getD_some]
    obtain ⟨c', hc', hback⟩ := read_of_list first hread hlist
    refine ⟨c', hc', ?_⟩
    rw [hback, List.forall₂_map_right_iff]
    refine List.forall₂_same.mpr fun a _ s hs => ?_
    have hkind : (back a).kind = some (Text.beforeZero (kindName s)) := by
      simp only [back, hs.kind_eq, Option.getD_some]
      rw [kindName, Text.truncate_beforeZero, ← kindName, kindName_kindName]
    refine ⟨hs.kind_eq, ?_, ?_⟩
    · rw [hkind, kindName, kindName, Text.truncate_beforeZero]
    · rw [hkind, hs.kind_eq, Option.some_inj, Text.beforeZero_eq_self_iff]
  · rw [read_eq_error_iff, ← filterMap_get_read, filterMap_places hlist]
    refine mapM_eq_error_of_mem (fun e he => ?_) ?_
    · obtain ⟨a, ha, rfl⟩ := List.mem_map.mp he
      cases hk : a.kind with
      | none => exact .inr (readEntry_of_kind_eq_none hk (hentry a ha))
      | some k => exact .inl ⟨_, readEntry_of_kind_eq_some hk (hentry a ha)⟩
    · obtain ⟨a, ha, hk⟩ := hunnamed
      exact ⟨entry a, List.mem_map_of_mem ha, readEntry_of_kind_eq_none hk (hentry a ha)⟩

/-- Actions named in three ways: by a name with a zero, by one whose zero is cut off, and by one
without a zero, which was set before options were. -/
def zeroNames : Chain Builtin where
  toList :=
    [⟨4, .ofKind "ga\x00ct"⟩, ⟨2, .ofKind "αβγδεζηθ\x00"⟩,
      ⟨7, { kind := some "police", options := some [1] }⟩]
  length_le := by decide
  nodup := by decide

theorem kinds_read_write_zeroNames :
    ∃ b b' : Builder, write 1 zeroNames .empty b = .ok () b' ∧
      (∀ a ∈ zeroNames.actions, a.kind ≠ none) ∧
      List.Forall₂ Action.IsNamed ["ga\x00ct", "αβγδεζηθ\x00", "police"] zeroNames.actions ∧
      ∃ (d : Octets) (c' : Chain Builtin), b.Gained b' 1 d ∧ read .empty 9 d = .ok c' ∧
        c'.actions.map (·.kind) = [some "ga", some "αβγδεζη", some "police"] := by
  have hw : (pure zeroNames >>= fun c => Build.message (write 1 c .empty) (.new 0 0)).map
      (·.payload.length) = .ok 68 := by decide +kernel
  obtain ⟨c, b', hc, hb, -⟩ := Build.exists_of_message_eq_ok hw
  cases hc
  have hkinds : ∀ a ∈ zeroNames.actions, a.kind ≠ none := by decide
  have hpolice : Action.IsNamed "police"
      ({ kind := some "police", options := some [1] } : Action Builtin) :=
    .kept (.setKind (a := .empty) rfl) rfl
  obtain ⟨d, hgain, hread, -⟩ := kinds_read_write 9 hb
  obtain ⟨c', hc', hall⟩ := hread hkinds
  refine ⟨.new 0 0, b', hb, hkinds, .cons .ofKind (.cons .ofKind (.cons hpolice .nil)), d, c',
    hgain, hc', ?_⟩
  have hnames : c'.actions.map (·.kind) = ["ga\x00ct", "αβγδεζηθ\x00", "police"].map
      fun s => some (kindName (Text.beforeZero s)) := by
    generalize c'.actions = as at hall
    obtain _ | ⟨h₁, _ | ⟨h₂, _ | ⟨h₃, _ | _⟩⟩⟩ := hall
    simp only [List.map_cons, List.map_nil, (h₁ _ .ofKind).2.1, (h₂ _ .ofKind).2.1,
      (h₃ _ hpolice).2.1]
  rw [hnames]
  decide

/-- A name with a zero comes back shorter. -/
theorem exists_kinds_read_write_ne :
    ∃ (c : Chain Builtin) (b b' : Builder) (d : Octets) (c' : Chain Builtin),
      c.actions = [.ofKind "a\x00b"] ∧ write 1 c .empty b = .ok () b' ∧ b.Gained b' 1 d ∧
        read .empty 0 d = .ok c' ∧ c.actions.map (·.kind) = [some "a\x00b"] ∧
        c'.actions.map (·.kind) = [some "a"] := by
  let c : Chain Builtin := ⟨[⟨0, .ofKind "a\x00b"⟩], by decide, by decide⟩
  have hw : (pure c >>= fun c => Build.message (write 1 c .empty) (.new 0 0)).map
      (·.payload.length) = .ok 16 := by decide +kernel
  obtain ⟨c, b', hc, hb, -⟩ := Build.exists_of_message_eq_ok hw
  cases hc
  obtain ⟨d, e, hgain, he, hread⟩ := exists_read_of_singleton rfl (settled_writeEntry_empty _) hb
  obtain ⟨c', hc', hactions⟩ := hread _ (readEntry_of_kind_eq_some rfl he) 0
  refine ⟨c, .new 0 0, b', d, c', rfl, hb, hgain, hc', by decide, ?_⟩
  rw [hactions]
  decide

end ActionTable
end TrafficControl
