import TrafficControl.Cache
import Mathlib.Data.List.Induction

/-!
# A cache and the calls that made it

What a cache holds is told by the calls that made it. Under a key stands the action that was applied
last with this key, unless the key was removed since: by an action of a message that the object is
gone, or by clearing the cache. The keys stand in the order of their insertion, where the insertion
of a key is the call that stored it while it was not held; replacing an action keeps its place.

All statements are about runs of calls from the empty cache. One call preserves what the earlier
calls tell (`Describes.apply`), so an induction on the run from its end carries it to every run.
-/
namespace TrafficControl.Cache

section Keyed

variable {α β : Type} [DecidableEq β] {f : α → β} {l : List α}

/-- An element is replaced by one with the same key, so no other key changes. -/
theorem map_replace_of_mem {x : α} (h : f x ∈ l.map f) :
    (replace (fun y => f y = f x) x l).map f = l.map f := by
  induction l with
  | nil => simp at h
  | cons y l ih =>
      by_cases hy : f y = f x
      · simp [replace, hy]
      · have hl : f x ∈ l.map f := (List.mem_cons.mp h).resolve_left (Ne.symm hy)
        simp [replace, hy, ih hl]

theorem map_replace_of_not_mem {x : α} (h : f x ∉ l.map f) :
    (replace (fun y => f y = f x) x l).map f = l.map f ++ [f x] := by
  induction l with
  | nil => rfl
  | cons y l ih =>
      rw [List.map_cons, List.mem_cons, not_or] at h
      simp [replace, Ne.symm h.1, ih h.2]

theorem mem_replace_iff (hl : (l.map f).Nodup) {x y : α} :
    y ∈ replace (fun z => f z = f x) x l ↔ y = x ∨ y ∈ l ∧ f y ≠ f x := by
  induction l with
  | nil => simp [replace]
  | cons z l ih =>
      rw [List.map_cons, List.nodup_cons] at hl
      by_cases hz : f z = f x
      · have hne (w : α) (hw : w ∈ l) : f w ≠ f x := by
          intro he
          exact hl.1 (hz ▸ he ▸ List.mem_map_of_mem hw)
        simp only [replace, hz, decide_true, if_true, List.mem_cons]
        constructor
        · intro hcase
          rcases hcase with rfl | hy
          · exact .inl rfl
          · exact .inr ⟨.inr hy, hne y hy⟩
        · intro hcase
          rcases hcase with rfl | ⟨rfl | hy, hn⟩
          · exact .inl rfl
          · exact absurd hz hn
          · exact .inr hy
      · simp only [replace, hz, decide_false, Bool.false_eq_true, if_false, List.mem_cons,
          ih hl.2]
        constructor
        · intro hcase
          rcases hcase with rfl | rfl | ⟨hy, hn⟩
          · exact .inr ⟨.inl rfl, hz⟩
          · exact .inl rfl
          · exact .inr ⟨.inr hy, hn⟩
        · intro hcase
          rcases hcase with rfl | ⟨rfl | hy, hn⟩
          · exact .inr (.inl rfl)
          · exact .inl rfl
          · exact .inr (.inr ⟨hy, hn⟩)

/-- Where keys are distinct, erasing the first element with a key erases all of them. -/
theorem eraseP_eq_filter (hl : (l.map f).Nodup) (k : β) :
    l.eraseP (fun y => f y = k) = l.filter (fun y => f y ≠ k) := by
  induction l with
  | nil => rfl
  | cons y l ih =>
      rw [List.map_cons, List.nodup_cons] at hl
      by_cases hy : f y = k
      · have hne : ∀ z ∈ l, decide (f z ≠ k) = true := by
          intro z hz
          refine decide_eq_true (fun he => hl.1 ?_)
          rw [hy, ← he]
          exact List.mem_map_of_mem hz
        rw [List.eraseP_cons_of_pos (by simpa using hy),
          List.filter_cons_of_neg (by simpa using hy), List.filter_eq_self.mpr hne]
      · rw [List.eraseP_cons_of_neg (by simpa using hy),
          List.filter_cons_of_pos (by simpa using hy), ih hl.2]

theorem find?_key_eq_some_iff (hl : (l.map f).Nodup) {k : β} {x : α} :
    l.find? (fun y => f y = k) = some x ↔ x ∈ l ∧ f x = k := by
  induction l with
  | nil => simp
  | cons y l ih =>
      rw [List.map_cons, List.nodup_cons] at hl
      by_cases hy : f y = k
      · rw [List.find?_cons_of_pos (by simpa using hy)]
        constructor
        · intro hex
          obtain ⟨⟩ := hex
          exact ⟨List.mem_cons_self, hy⟩
        · intro hex
          obtain ⟨hx, he⟩ := hex
          rcases List.mem_cons.mp hx with rfl | hx
          · rfl
          · have hm : f x ∈ l.map f := List.mem_map_of_mem hx
            rw [he, ← hy] at hm
            exact absurd hm hl.1
      · rw [List.find?_cons_of_neg (by simpa using hy), ih hl.2, List.mem_cons]
        constructor
        · intro hex
          obtain ⟨hx, he⟩ := hex
          exact ⟨.inr hx, he⟩
        · intro hex
          rcases hex with ⟨rfl | hx, he⟩
          · exact absurd he hy
          · exact ⟨hx, he⟩

end Keyed

variable {P : Type} [Payload P]

/-- The action came in a message that its object is gone. -/
def IsDel (a : Action P) : Prop := a.messageType = some Message.delAction

omit [Payload P] in
theorem change_eq_del_iff (a : Action P) :
    a.messageType.bind info.change? = some .del ↔ IsDel a := by
  cases ht : a.messageType with
  | none => simp [IsDel, ht]
  | some t =>
      simp only [IsDel, ht, Option.bind_some, Option.some.injEq, info, StoreInfo.change?,
        StoreInfo.kind?, StoreInfo.actions, List.find?, Message.newAction, Message.delAction,
        Message.getAction]
      grind

def keys (c : Cache P) : List Key := c.toList.map (fun a => key a.action)

def find? (c : Cache P) (k : Key) : Option (Shared P) := c.toList.find? (fun a => key a.action = k)

variable {c : Cache P} {a x : Shared P}

theorem sameObject_eq (a : Shared P) :
    (fun b : Shared P => sameObject b.action a.action) =
      fun b => decide (key b.action = key a.action) := by
  funext b
  rw [Bool.eq_iff_iff, sameObject_iff, decide_eq_true_eq]

theorem toList_apply_of_isDel (hc : c.keys.Nodup) (h : IsDel a.action) :
    (c.apply a).toList = c.toList.filter (fun b => key b.action ≠ key a.action) := by
  rw [← eraseP_eq_filter hc, ← sameObject_eq, apply, (change_eq_del_iff a.action).mpr h]

theorem toList_apply_of_not_isDel (h : ¬ IsDel a.action) :
    (c.apply a).toList = replace (fun b => key b.action = key a.action) a c.toList := by
  rw [← sameObject_eq, apply]
  split
  · rename_i hd
    exact absurd ((change_eq_del_iff a.action).mp hd) h
  · rfl

theorem keys_apply_of_isDel (hc : c.keys.Nodup) (h : IsDel a.action) :
    (c.apply a).keys = c.keys.filter (· ≠ key a.action) := by
  rw [keys, toList_apply_of_isDel hc h, keys, List.filter_map]
  rfl

theorem keys_apply_of_mem (h : ¬ IsDel a.action) (hk : key a.action ∈ c.keys) :
    (c.apply a).keys = c.keys := by
  rw [keys, toList_apply_of_not_isDel h]
  exact map_replace_of_mem (f := fun a : Shared P => key a.action) hk

theorem keys_apply_of_not_mem (h : ¬ IsDel a.action) (hk : key a.action ∉ c.keys) :
    (c.apply a).keys = c.keys ++ [key a.action] := by
  rw [keys, toList_apply_of_not_isDel h]
  exact map_replace_of_not_mem (f := fun a : Shared P => key a.action) hk

theorem mem_apply_iff (hc : c.keys.Nodup) :
    x ∈ (c.apply a).toList ↔
      (x = a ∧ ¬ IsDel a.action) ∨ (x ∈ c.toList ∧ key x.action ≠ key a.action) := by
  by_cases h : IsDel a.action
  · rw [toList_apply_of_isDel hc h, List.mem_filter, decide_eq_true_eq]
    simp only [h, not_true, and_false, false_or]
  · rw [toList_apply_of_not_isDel h, mem_replace_iff (f := fun a : Shared P => key a.action) hc]
    simp only [h, not_false_eq_true, and_true]

theorem mem_keys_apply_iff (hc : c.keys.Nodup) {k : Key} :
    k ∈ (c.apply a).keys ↔
      (key a.action = k ∧ ¬ IsDel a.action) ∨ (k ∈ c.keys ∧ k ≠ key a.action) := by
  simp only [keys, List.mem_map, mem_apply_iff hc]
  constructor
  · intro hex
    rcases hex with ⟨x, ⟨rfl, h⟩ | ⟨hx, hn⟩, rfl⟩
    · exact .inl ⟨rfl, h⟩
    · exact .inr ⟨⟨x, hx, rfl⟩, hn⟩
  · intro hcase
    rcases hcase with ⟨rfl, h⟩ | ⟨⟨x, hx, rfl⟩, hn⟩
    · exact ⟨a, .inl ⟨rfl, h⟩, rfl⟩
    · exact ⟨x, .inr ⟨hx, hn⟩, rfl⟩

theorem nodup_keys_apply (hc : c.keys.Nodup) : (c.apply a).keys.Nodup := by
  by_cases h : IsDel a.action
  · rw [keys_apply_of_isDel hc h]
    exact hc.filter _
  · by_cases hk : key a.action ∈ c.keys
    · rwa [keys_apply_of_mem h hk]
    · rw [keys_apply_of_not_mem h hk]
      refine List.nodup_append.mpr ⟨hc, by simp, ?_⟩
      intro k hk' l hl
      rw [List.mem_singleton] at hl
      intro heq
      subst heq
      exact hk (hl ▸ hk')

theorem find?_eq_some_iff (hc : c.keys.Nodup) {k : Key} :
    c.find? k = some x ↔ x ∈ c.toList ∧ key x.action = k :=
  find?_key_eq_some_iff (f := fun a : Shared P => key a.action) hc

theorem find?_apply_comm (hc : c.keys.Nodup) {a b : Shared P} (h : key a.action ≠ key b.action) :
    ((c.apply a).apply b).find? = ((c.apply b).apply a).find? := by
  funext k
  apply Option.ext
  intro x
  have ha := nodup_keys_apply (a := a) hc
  have hb := nodup_keys_apply (a := b) hc
  rw [find?_eq_some_iff (nodup_keys_apply ha), find?_eq_some_iff (nodup_keys_apply hb),
    mem_apply_iff ha, mem_apply_iff hb, mem_apply_iff hc, mem_apply_iff hc]
  apply and_congr_left
  intro _
  constructor
  · intro hcase
    rcases hcase with ⟨rfl, hd⟩ | ⟨⟨rfl, hd⟩ | ⟨hx, hn⟩, hn'⟩
    · exact .inr ⟨.inl ⟨rfl, hd⟩, Ne.symm h⟩
    · exact .inl ⟨rfl, hd⟩
    · exact .inr ⟨.inr ⟨hx, hn'⟩, hn⟩
  · intro hcase
    rcases hcase with ⟨rfl, hd⟩ | ⟨⟨rfl, hd⟩ | ⟨hx, hn⟩, hn'⟩
    · exact .inr ⟨.inl ⟨rfl, hd⟩, h⟩
    · exact .inl ⟨rfl, hd⟩
    · exact .inr ⟨.inr ⟨hx, hn'⟩, hn⟩

inductive Call (P : Type) where
  | apply (a : Shared P)
  | clear

namespace Call

def run (c : Cache P) : Call P → Cache P
  | apply a => c.apply a
  | clear => c.clear

/-- The call puts an action under the key. -/
def Stores (k : Key) : Call P → Prop
  | apply a => key a.action = k ∧ ¬ IsDel a.action
  | clear => False

/-- The call takes the key away. -/
def Removes (k : Key) : Call P → Prop
  | apply a => key a.action = k ∧ IsDel a.action
  | clear => True

theorem Stores.not_removes {k : Key} {call : Call P} (h : call.Stores k) : ¬ call.Removes k := by
  cases call with
  | apply a => exact fun hr => h.2 hr.2
  | clear => exact h.elim

end Call

/-- The cache after these calls, the first of them on the empty one. -/
def after (calls : List (Call P)) : Cache P := calls.foldl Call.run empty

/-- The key was stored and not removed since. -/
def Held (calls : List (Call P)) (k : Key) : Prop :=
  ∃ before call since, calls = before ++ call :: since ∧ call.Stores k ∧
    ∀ d ∈ since, ¬ d.Removes k

/-- The call number `i` stored the key while it was not held, and it was not removed since. -/
def InsertedAt (calls : List (Call P)) (k : Key) (i : Nat) : Prop :=
  ∃ before call since, calls = before ++ call :: since ∧ before.length = i ∧ call.Stores k ∧
    ¬ Held before k ∧ ∀ d ∈ since, ¬ d.Removes k

/-- The action was stored, and since then its key was neither stored again nor removed. -/
def LastStored (calls : List (Call P)) (x : Shared P) : Prop :=
  ∃ before since, calls = before ++ .apply x :: since ∧ ¬ IsDel x.action ∧
    ∀ d ∈ since, ¬ d.Stores (key x.action) ∧ ¬ d.Removes (key x.action)

/-- The last call is the one looked for, or it comes after it. -/
theorem append_eq_append_cons_iff {α : Type} {calls before since : List α} {last call : α} :
    calls ++ [last] = before ++ call :: since ↔
      (since = [] ∧ before = calls ∧ call = last) ∨
        ∃ since', since = since' ++ [last] ∧ calls = before ++ call :: since' := by
  rcases List.eq_nil_or_concat since with rfl | ⟨since', d, rfl⟩
  · constructor
    · intro h
      obtain ⟨h₁, h₂⟩ := List.append_inj' h rfl
      exact .inl ⟨rfl, h₁.symm, (List.singleton_inj.mp h₂).symm⟩
    · intro hcase
      rcases hcase with ⟨-, rfl, rfl⟩ | ⟨since', h, -⟩
      · rfl
      · simp at h
  · rw [List.concat_eq_append, ← List.cons_append, ← List.append_assoc]
    constructor
    · intro h
      obtain ⟨h₁, h₂⟩ := List.append_inj' h rfl
      exact .inr ⟨since', by rw [List.singleton_inj.mp h₂], h₁⟩
    · intro hcase
      rcases hcase with ⟨h, -⟩ | ⟨since'', h, rfl⟩
      · simp at h
      · obtain ⟨rfl, h₂⟩ := List.append_inj' h rfl
        rw [h₂]

/-- Some element has `S` with those before it, and none since then has `T`. -/
def Since {α : Type} (S : List α → α → Prop) (T : α → Prop) (xs : List α) : Prop :=
  ∃ before x since, xs = before ++ x :: since ∧ S before x ∧ ∀ y ∈ since, ¬ T y

theorem since_append_singleton_iff {α : Type} {S : List α → α → Prop} {T : α → Prop} {xs : List α}
    {last : α} : Since S T (xs ++ [last]) ↔ S xs last ∨ (Since S T xs ∧ ¬ T last) := by
  constructor
  · intro hex
    obtain ⟨before, x, since, he, hs, ht⟩ := hex
    rcases append_eq_append_cons_iff.mp he with ⟨rfl, rfl, rfl⟩ | ⟨since', rfl, rfl⟩
    · exact .inl hs
    · have hl (y : α) (hy : y ∈ since') : ¬ T y := ht y (List.mem_append_left _ hy)
      exact .inr ⟨⟨before, x, since', rfl, hs, hl⟩, ht last (by simp)⟩
  · intro hcase
    rcases hcase with hs | ⟨⟨before, x, since, rfl, hs, ht⟩, hn⟩
    · exact ⟨xs, last, [], rfl, hs, by simp⟩
    · refine ⟨before, x, since ++ [last], by simp, hs, ?_⟩
      intro y hy
      rcases List.mem_append.mp hy with hy | hy
      · exact ht y hy
      · rwa [List.mem_singleton.mp hy]

variable {calls : List (Call P)} {call : Call P} {k l : Key} {i j : Nat}

theorem held_append_singleton_iff :
    Held (calls ++ [call]) k ↔ call.Stores k ∨ (Held calls k ∧ ¬ call.Removes k) :=
  since_append_singleton_iff (S := fun _ (c : Call P) => c.Stores k) (T := Call.Removes k)

theorem insertedAt_iff_since :
    InsertedAt calls k i ↔ Since (fun before c => before.length = i ∧ c.Stores k ∧ ¬ Held before k)
      (fun d => d.Removes k) calls := by
  simp only [InsertedAt, Since, and_assoc]

theorem insertedAt_append_singleton_iff :
    InsertedAt (calls ++ [call]) k i ↔
      (i = calls.length ∧ call.Stores k ∧ ¬ Held calls k) ∨
        (InsertedAt calls k i ∧ ¬ call.Removes k) := by
  rw [insertedAt_iff_since, since_append_singleton_iff, ← insertedAt_iff_since, eq_comm]

theorem lastStored_iff_since {x : Shared P} :
    LastStored calls x ↔ Since (fun _ c => c = .apply x ∧ ¬ IsDel x.action)
      (fun d => d.Stores (key x.action) ∨ d.Removes (key x.action)) calls := by
  simp only [LastStored, Since, not_or]
  constructor
  · intro hex
    obtain ⟨before, since, he, hd, hr⟩ := hex
    exact ⟨before, .apply x, since, he, ⟨rfl, hd⟩, hr⟩
  · intro hex
    obtain ⟨before, c, since, he, ⟨rfl, hd⟩, hr⟩ := hex
    exact ⟨before, since, he, hd, hr⟩

theorem lastStored_append_singleton_iff {x : Shared P} :
    LastStored (calls ++ [call]) x ↔
      (call = .apply x ∧ ¬ IsDel x.action) ∨
        (LastStored calls x ∧ ¬ call.Stores (key x.action) ∧ ¬ call.Removes (key x.action)) := by
  rw [lastStored_iff_since, since_append_singleton_iff, ← lastStored_iff_since, not_or]

theorem InsertedAt.held (h : InsertedAt calls k i) : Held calls k := by
  obtain ⟨before, c, since, he, -, hs, -, hr⟩ := h
  exact ⟨before, c, since, he, hs, hr⟩

theorem InsertedAt.lt_length (h : InsertedAt calls k i) : i < calls.length := by
  obtain ⟨before, c, since, rfl, rfl, -⟩ := h
  simp

theorem Held.insertedAt (h : Held calls k) : ∃ i, InsertedAt calls k i := by
  induction calls using List.reverseRecOn with
  | nil =>
      obtain ⟨before, c, since, he, -⟩ := h
      simp at he
  | append_singleton calls call ih =>
      simp only [insertedAt_append_singleton_iff]
      by_cases hh : Held calls k
      · obtain ⟨i, hi⟩ := ih hh
        have hr : ¬ call.Removes k := by
          rcases held_append_singleton_iff.mp h with hs | ⟨-, hr⟩
          · exact hs.not_removes
          · exact hr
        exact ⟨i, .inr ⟨hi, hr⟩⟩
      · rcases held_append_singleton_iff.mp h with hs | ⟨hh', -⟩
        · exact ⟨calls.length, .inl ⟨rfl, hs, hh⟩⟩
        · exact absurd hh' hh

theorem InsertedAt.unique (h : InsertedAt calls k i) (h' : InsertedAt calls k j) : i = j := by
  induction calls using List.reverseRecOn with
  | nil =>
      have := h.lt_length
      simp at this
  | append_singleton calls call ih =>
      rcases insertedAt_append_singleton_iff.mp h with ⟨rfl, hs, hh⟩ | ⟨h, hr⟩ <;>
        rcases insertedAt_append_singleton_iff.mp h' with ⟨rfl, hs', hh'⟩ | ⟨h', hr'⟩
      · rfl
      · exact absurd h'.held hh
      · exact absurd h.held hh'
      · exact ih h h'

def InsertedBefore (calls : List (Call P)) (k l : Key) : Prop :=
  ∃ i j, i < j ∧ InsertedAt calls k i ∧ InsertedAt calls l j

/-- The calls tell what the cache holds and in which order. -/
structure Describes (calls : List (Call P)) (c : Cache P) : Prop where
  nodup : c.keys.Nodup
  mem_keys_iff (k : Key) : k ∈ c.keys ↔ Held calls k
  mem_iff (x : Shared P) : x ∈ c.toList ↔ LastStored calls x
  sorted : c.keys.Pairwise (InsertedBefore calls)

theorem Describes.empty : Describes [] (Cache.empty : Cache P) where
  nodup := List.nodup_nil
  mem_keys_iff k := by simp [keys, Cache.empty, Held]
  mem_iff x := by simp [Cache.empty, LastStored]
  sorted := List.Pairwise.nil

theorem Describes.clear (c : Cache P) : Describes (calls ++ [.clear]) c.clear where
  nodup := List.nodup_nil
  mem_keys_iff k := by
    simp [keys, Cache.clear, Cache.empty, held_append_singleton_iff, Call.Stores, Call.Removes]
  mem_iff x := by
    simp [Cache.clear, Cache.empty, lastStored_append_singleton_iff, Call.Stores, Call.Removes]
  sorted := List.Pairwise.nil

/-- Keys that a call does not remove keep their insertions and so their order. -/
theorem InsertedBefore.pairwise_append {ks : List Key} (h : ks.Pairwise (InsertedBefore calls))
    (hr : ∀ k ∈ ks, ¬ call.Removes k) : ks.Pairwise (InsertedBefore (calls ++ [call])) := by
  refine h.imp_of_mem ?_
  intro k l hk hl hkl
  obtain ⟨i, j, hij, hi, hj⟩ := hkl
  exact ⟨i, j, hij, insertedAt_append_singleton_iff.mpr (.inr ⟨hi, hr k hk⟩),
    insertedAt_append_singleton_iff.mpr (.inr ⟨hj, hr l hl⟩)⟩

/-- A key that is stored for the first time is inserted later than all those held. -/
theorem InsertedBefore.pairwise_concat {ks : List Key} (h : ks.Pairwise (InsertedBefore calls))
    (hh : ∀ k ∈ ks, Held calls k) (hr : ∀ k ∈ ks, ¬ call.Removes k) (hs : call.Stores l)
    (hl : ¬ Held calls l) : (ks ++ [l]).Pairwise (InsertedBefore (calls ++ [call])) := by
  refine List.pairwise_append.mpr ⟨InsertedBefore.pairwise_append h hr, by simp, ?_⟩
  intro k hk l' hl'
  rw [List.mem_singleton] at hl'
  subst hl'
  obtain ⟨i, hi⟩ := (hh k hk).insertedAt
  exact ⟨i, calls.length, hi.lt_length,
    insertedAt_append_singleton_iff.mpr (.inr ⟨hi, hr k hk⟩),
    insertedAt_append_singleton_iff.mpr (.inl ⟨rfl, hs, hl⟩)⟩

theorem Describes.apply {c : Cache P} (h : Describes calls c) (a : Shared P) :
    Describes (calls ++ [.apply a]) (c.apply a) where
  nodup := nodup_keys_apply h.nodup
  mem_keys_iff k := by
    rw [mem_keys_apply_iff h.nodup, held_append_singleton_iff, h.mem_keys_iff]
    simp only [Call.Stores, Call.Removes]
    grind
  mem_iff x := by
    rw [mem_apply_iff h.nodup, lastStored_append_singleton_iff, h.mem_iff]
    simp only [Call.Stores, Call.Removes, Call.apply.injEq]
    grind
  sorted := by
    by_cases hd : IsDel a.action
    · rw [keys_apply_of_isDel h.nodup hd]
      refine InsertedBefore.pairwise_append (h.sorted.filter _) ?_
      intro k hk hr
      rw [List.mem_filter, decide_eq_true_eq] at hk
      exact hk.2 hr.1.symm
    · by_cases hk : key a.action ∈ c.keys
      · rw [keys_apply_of_mem hd hk]
        exact InsertedBefore.pairwise_append h.sorted (fun k _ hr => hd hr.2)
      · rw [keys_apply_of_not_mem hd hk]
        exact InsertedBefore.pairwise_concat h.sorted (fun k => (h.mem_keys_iff k).mp)
          (fun k _ hr => hd hr.2) ⟨rfl, hd⟩ (mt (h.mem_keys_iff _).mpr hk)

theorem describes_after (calls : List (Call P)) : Describes calls (after calls) := by
  induction calls using List.reverseRecOn with
  | nil => exact Describes.empty
  | append_singleton calls call ih =>
      rw [after, List.foldl_append]
      cases call with
      | apply a => exact ih.apply a
      | clear => exact Describes.clear (after calls)

/-- After any run of calls the cache is a map from keys to actions in the order of insertion: no key
stands twice, an action is found under its key exactly when it was the last one stored there, and
the keys stand in the order of their insertions, of which each has one. Actions with different keys
may be applied in either order. -/
theorem after_isKeyedMap (calls : List (Call P)) :
    (after calls).keys.Nodup ∧
      (∀ k x, (after calls).find? k = some x ↔ key x.action = k ∧ LastStored calls x) ∧
      ((after calls).keys.Pairwise fun k l =>
        ∃ i j, i < j ∧ InsertedAt calls k i ∧ InsertedAt calls l j) ∧
      (∀ k i j, InsertedAt calls k i → InsertedAt calls k j → i = j) ∧
      ∀ a b : Shared P, key a.action ≠ key b.action →
        (((after calls).apply a).apply b).find? = (((after calls).apply b).apply a).find? := by
  have h := describes_after calls
  refine ⟨h.nodup, ?_, h.sorted, ?_, ?_⟩
  · intro k x
    rw [find?_eq_some_iff h.nodup, h.mem_iff, and_comm]
  · intro k i j hi hj
    exact hi.unique hj
  · intro a b hab
    exact find?_apply_comm h.nodup hab

end TrafficControl.Cache
