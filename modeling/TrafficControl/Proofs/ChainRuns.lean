import Mathlib.Logic.Function.Basic
import TrafficControl.Chain
import TrafficControl.Config.Builtin

/-!
# Chains and the calls on them

Many chains may share their actions. Calls append, remove and move actions, empty chains, copy them
and make them from lists; some calls fail. What a chain holds is told by the successful calls that
made it, those behind the chain that it was copied from included: it is the actions that were
appended and not removed since, in the order of their appending. A call changes the chain that it is
about and no other, and a failing call changes none.

A chain takes an action exactly when there is a chain with this action behind the others
(`append_eq_ok_iff`), since a chain carries the proof that it is short and without repetition.
-/
namespace TrafficControl.Chain

variable {P : Type}

section Single

variable {c d : Chain P} {a x y : Shared P} {before after : List (Shared P)}

theorem eq_of_toList_eq (h : c.toList = d.toList) : c = d := by
  cases c
  cases d
  cases h
  rfl

theorem room_of_toList_eq (h : d.toList = c.toList ++ [a]) :
    c.length < maxLength ∧ a.id ∉ c.ids := by
  have hlength := d.length_le
  have hnodup := d.nodup
  rw [h] at hlength hnodup
  rw [List.length_append, List.length_singleton] at hlength
  rw [List.map_append, List.nodup_append] at hnodup
  exact ⟨hlength, fun hm => hnodup.2.2 _ hm _ List.mem_cons_self rfl⟩

theorem append_eq_error_iff {e : Error} : c.append a = .error e ↔
    (c.length = maxLength ∧ e = .chainFull maxLength) ∨
      (c.length < maxLength ∧ a.id ∈ c.ids ∧ e = .exist (.action a.action.kind)) := by
  rcases Nat.lt_or_eq_of_le c.length_le with hl | hl
  · change c.length < maxLength at hl
    have hne : c.length ≠ maxLength := Nat.ne_of_lt hl
    by_cases hm : a.id ∈ c.ids
    · simp [append_of_mem hl hm, hl, hne, hm, eq_comm]
    · obtain ⟨d, hd, -⟩ := append_of_ok hl hm
      simp [hd, hne, hm]
  · change c.length = maxLength at hl
    simp [append_of_full a hl, hl, eq_comm]

theorem append_eq_ok_iff : c.append a = .ok d ↔ d.toList = c.toList ++ [a] := by
  constructor
  · intro h
    rw [append] at h
    split at h
    case isFalse => cases h
    case isTrue hl =>
      split at h
      case isTrue => cases h
      case isFalse hc =>
        cases h
        rfl
  · intro h
    obtain ⟨hl, hm⟩ := room_of_toList_eq h
    obtain ⟨e, he, hetoList⟩ := append_of_ok hl hm
    rw [he, eq_of_toList_eq (hetoList.trans h.symm)]

theorem foldlM_append_eq_ok_iff {as : List (Shared P)} :
    as.foldlM append c = .ok d ↔ d.toList = c.toList ++ as := by
  induction as generalizing c with
  | nil =>
      rw [List.foldlM_nil, List.append_nil]
      constructor
      · intro h
        cases h
        rfl
      · exact fun h => congrArg Except.ok (eq_of_toList_eq h.symm)
  | cons a as ih =>
      have hcons : c.toList ++ a :: as = (c.toList ++ [a]) ++ as := by simp
      rw [List.foldlM_cons, hcons]
      constructor
      · intro h
        cases hb : c.append a with
        | error e =>
            rw [hb] at h
            cases h
        | ok b =>
            rw [hb] at h
            rw [← append_eq_ok_iff.mp hb]
            exact ih.mp h
      · intro h
        -- The actions up to this one make a chain, since they are the beginning of one.
        have hbegins : c.toList ++ [a] <+: d.toList := h ▸ List.prefix_append ..
        have hb : c.append a = .ok ⟨c.toList ++ [a],
            Nat.le_trans hbegins.length_le d.length_le,
            d.nodup.sublist (hbegins.sublist.map _)⟩ := append_eq_ok_iff.mpr rfl
        rw [hb]
        exact ih.mpr h

theorem ofList_eq_ok_iff {as : List (Shared P)} : ofList as = .ok c ↔ c.toList = as :=
  foldlM_append_eq_ok_iff

/-- At most 32 actions, none twice, make a chain. -/
theorem ofList_of_nodup {as : List (Shared P)} (hl : as.length ≤ maxLength)
    (hn : (as.map (·.id)).Nodup) : ∃ c, ofList as = .ok c ∧ c.toList = as :=
  ⟨⟨as, hl, hn⟩, ofList_eq_ok_iff.mpr rfl, rfl⟩

/-- An identity stands at one place of a chain. -/
theorem id_ne_of_toList_eq (h : c.toList = before ++ x :: after) :
    (∀ y ∈ before, y.id ≠ x.id) ∧ ∀ y ∈ after, y.id ≠ x.id := by
  have hnodup := c.nodup
  rw [h, List.map_append, List.map_cons, List.nodup_append, List.nodup_cons] at hnodup
  obtain ⟨-, ⟨hafter, -⟩, hbefore⟩ := hnodup
  constructor
  · intro y hy
    exact hbefore _ (List.mem_map_of_mem hy) _ List.mem_cons_self
  · intro y hy he
    exact hafter (he ▸ List.mem_map_of_mem hy)

theorem find?_eq_some_iff : c.toList.find? (·.id = a.id) = some x ↔
    x.id = a.id ∧ ∃ before after, c.toList = before ++ x :: after := by
  rw [List.find?_eq_some_iff_append, decide_eq_true_eq]
  apply and_congr_right
  intro hx
  constructor
  · rintro ⟨before, after, h, -⟩
    exact ⟨before, after, h⟩
  · rintro ⟨before, after, h⟩
    refine ⟨before, after, h, fun y hy => ?_⟩
    have hne := (id_ne_of_toList_eq h).1 y hy
    rw [hx] at hne
    simpa using hne

theorem filter_id_ne (h : c.toList = before ++ x :: after) :
    c.toList.filter (·.id ≠ x.id) = before ++ after := by
  obtain ⟨hbefore, hafter⟩ := id_ne_of_toList_eq h
  rw [h, List.filter_append, List.filter_cons_of_neg (by simp),
    List.filter_eq_self.mpr fun y hy => decide_eq_true (hbefore y hy),
    List.filter_eq_self.mpr fun y hy => decide_eq_true (hafter y hy)]

theorem remove_eq_error_iff {e : Error} :
    c.remove a = .error e ↔ a.id ∉ c.ids ∧ e = .notFound := by
  have hfind : c.toList.find? (·.id = a.id) = none ↔ a.id ∉ c.ids := by
    simp [ids]
  rw [← hfind, remove]
  split
  case h_1 hnone =>
    rw [hnone, Except.error.injEq]
    simp [eq_comm]
  case h_2 hsome => simp [hsome]

theorem remove_eq_ok_iff : c.remove a = .ok (x, d) ↔
    x.id = a.id ∧ ∃ before after, c.toList = before ++ x :: after ∧
      d.toList = before ++ after := by
  constructor
  · intro h
    have htoList := toList_remove h
    rw [remove] at h
    split at h
    case h_1 => cases h
    case h_2 hfind =>
      cases h
      obtain ⟨hx, before, after, hc⟩ := find?_eq_some_iff.mp hfind
      refine ⟨hx, before, after, hc, ?_⟩
      rw [htoList, ← hx, filter_id_ne hc]
  · rintro ⟨hx, before, after, hc, hd⟩
    have hfind := find?_eq_some_iff.mpr ⟨hx, before, after, hc⟩
    rw [remove]
    split
    case h_1 hnone =>
      rw [hfind] at hnone
      cases hnone
    case h_2 z hz =>
      obtain rfl : x = z := Option.some.inj (hfind.symm.trans hz)
      rw [Except.ok.injEq, Prod.mk.injEq]
      refine ⟨rfl, eq_of_toList_eq ?_⟩
      change c.toList.filter (·.id ≠ a.id) = d.toList
      rw [hd, ← hx, filter_id_ne hc]

theorem next?_eq_some_iff : c.next? a = some y ↔
    ∃ before x after, c.toList = before ++ x :: y :: after ∧ x.id = a.id := by
  rw [next?, Option.bind_eq_some_iff]
  constructor
  · rintro ⟨i, hi, hy⟩
    obtain ⟨hl, hx, -⟩ := List.findIdx?_eq_some_iff_getElem.mp hi
    obtain ⟨hl', rfl⟩ := List.getElem?_eq_some_iff.mp hy
    refine ⟨c.toList.take i, c.toList[i], c.toList.drop (i + 1 + 1), ?_, of_decide_eq_true hx⟩
    rw [← List.drop_eq_getElem_cons, ← List.drop_eq_getElem_cons, List.take_append_drop]
  · rintro ⟨before, x, after, h, hx⟩
    have hbefore : before.findIdx? (·.id = a.id) = none := by
      rw [List.findIdx?_eq_none_iff]
      intro z hz
      rw [← hx]
      exact decide_eq_false ((id_ne_of_toList_eq h).1 z hz)
    refine ⟨before.length, ?_, ?_⟩
    · rw [h, List.findIdx?_append, hbefore, List.findIdx?_cons, decide_eq_true hx]
      simp
    · rw [h]
      simp

theorem ordered_eq (c : Chain P) : c.ordered = (List.range' 1 c.length).zip c.toList := by
  have hlength : c.ordered.length = ((List.range' 1 c.length).zip c.toList).length := by
    simp [ordered, length]
  refine List.ext_getElem hlength fun i _ _ => ?_
  simp [ordered, Nat.add_comm]

/-- What a chain does when it is asked for something. -/
structure IsSound (c : Chain P) : Prop where
  length_le : c.length ≤ maxLength
  nodup : c.ids.Nodup
  append_ok (a : Shared P) (d : Chain P) : c.append a = .ok d ↔
    c.length < maxLength ∧ a.id ∉ c.ids ∧ d.toList = c.toList ++ [a]
  append_error (a : Shared P) (e : Error) : c.append a = .error e ↔
    (c.length = maxLength ∧ e = .chainFull maxLength) ∨
      (c.length < maxLength ∧ a.id ∈ c.ids ∧ e = .exist (.action a.action.kind))
  /-- The chain gives up the action with this identity and keeps the others in their order. -/
  remove_ok (a x : Shared P) (d : Chain P) : c.remove a = .ok (x, d) ↔
    x.id = a.id ∧ ∃ before after, c.toList = before ++ x :: after ∧ d.toList = before ++ after
  remove_error (a : Shared P) (e : Error) : c.remove a = .error e ↔ a.id ∉ c.ids ∧ e = .notFound
  ordered : c.ordered = (List.range' 1 c.length).zip c.toList
  next?_some (a y : Shared P) : c.next? a = some y ↔
    ∃ before x after, c.toList = before ++ x :: y :: after ∧ x.id = a.id

theorem sound (c : Chain P) : c.IsSound where
  length_le := c.length_le
  nodup := c.nodup
  append_ok a d := by
    rw [append_eq_ok_iff]
    constructor
    · intro h
      obtain ⟨hl, hm⟩ := room_of_toList_eq h
      exact ⟨hl, hm, h⟩
    · exact fun h => h.2.2
  append_error _ _ := append_eq_error_iff
  remove_ok _ _ _ := remove_eq_ok_iff
  remove_error _ _ := remove_eq_error_iff
  ordered := ordered_eq c
  next?_some _ _ := next?_eq_some_iff

end Single

/-- A call on chains that are told apart by numbers. -/
inductive Call (P : Type) where
  | append (i : Nat) (a : Shared P)
  | remove (i : Nat) (a : Shared P)
  | release (i : Nat)
  | take (i : Nat)
  /-- The chain `j` becomes a copy of the chain `i`. -/
  | copy (i j : Nat)
  | ofList (i : Nat) (as : List (Shared P))

namespace Call

/-- The chain that the call is about. -/
def target : Call P → Nat
  | append i _ | remove i _ | release i | take i | ofList i _ => i
  | copy _ j => j

/-- The actions that the call hands out, and its chain after it. -/
def outcome (s : Nat → Chain P) : Call P → Except Error (List (Shared P) × Chain P)
  | append i a => ((s i).append a).map ([], ·)
  | remove i a => ((s i).remove a).map fun (x, c) => ([x], c)
  | release _ => .ok ([], empty)
  | take i => .ok ((s i).toList, empty)
  | copy i _ => .ok ([], s i)
  | ofList _ as => (Chain.ofList as).map ([], ·)

def run (call : Call P) : EStateM Error (Nat → Chain P) (List (Shared P)) := fun s =>
  match call.outcome s with
  | .ok (handed, c) => .ok handed (Function.update s call.target c)
  | .error e => .error e s

/-- The chains after a call, which may have failed. -/
def next (s : Nat → Chain P) (call : Call P) : Nat → Chain P :=
  match call.run s with
  | .ok _ s => s
  | .error _ s => s

end Call

/-- The chains after these calls. All of them are empty at first. -/
def after (calls : List (Call P)) : Nat → Chain P := calls.foldl Call.next fun _ => empty

/-- What a successful call does to a chain. -/
inductive Edit (P : Type) where
  | append (a : Shared P)
  | remove (a : Shared P)
  | clear

namespace Edit

def removes : Edit P → Nat → Bool
  | append _, _ => false
  | remove a, id => a.id = id
  | clear, _ => true

def added : Edit P → List (Shared P)
  | append a => [a]
  | _ => []

end Edit

/-- The actions that were appended and not removed since, in the order of their appending. -/
def survivors : List (Edit P) → List (Shared P)
  | [] => []
  | e :: later => e.added.filter (fun a => !later.any (·.removes a.id)) ++ survivors later

/-- What made the chain of a call that succeeds, where `t` tells what made the chains before it. A
copy has the past of the chain that it is copied from. -/
def Call.edits (t : Nat → List (Edit P)) : Call P → List (Edit P)
  | append i a => t i ++ [.append a]
  | remove i a => t i ++ [.remove a]
  | release i | take i => t i ++ [.clear]
  | copy i _ => t i
  | ofList _ as => as.map .append

/-- What made each chain, after these calls on the chains `s` that `t` made. -/
def tell (s : Nat → Chain P) (t : Nat → List (Edit P)) : List (Call P) → Nat → List (Edit P)
  | [] => t
  | call :: calls =>
    match call.outcome s with
    | .ok (_, c) =>
      tell (Function.update s call.target c) (Function.update t call.target (call.edits t)) calls
    | .error _ => tell s t calls

/-- What made each chain, after these calls. -/
def story (calls : List (Call P)) : Nat → List (Edit P) := tell (fun _ => empty) (fun _ => []) calls

section Survivors

variable {es : List (Edit P)} {e : Edit P}

theorem survivors_append_singleton (es : List (Edit P)) (e : Edit P) :
    survivors (es ++ [e]) = (survivors es).filter (fun a => !e.removes a.id) ++ e.added := by
  induction es with
  | nil => simp [survivors]
  | cons f es ih =>
      rw [List.cons_append, survivors, survivors, ih, List.filter_append, List.filter_filter,
        List.append_assoc]
      congr 2
      funext a
      simp [Bool.and_comm]

theorem survivors_append (es : List (Edit P)) (a : Shared P) :
    survivors (es ++ [.append a]) = survivors es ++ [a] := by
  rw [survivors_append_singleton]
  simp [Edit.removes, Edit.added]

theorem survivors_remove (es : List (Edit P)) (a : Shared P) :
    survivors (es ++ [.remove a]) = (survivors es).filter (·.id ≠ a.id) := by
  rw [survivors_append_singleton]
  simp [Edit.removes, Edit.added, eq_comm]

theorem survivors_clear (es : List (Edit P)) : survivors (es ++ [.clear]) = [] := by
  rw [survivors_append_singleton]
  simp [Edit.removes, Edit.added]

theorem survivors_map_append (as : List (Shared P)) : survivors (as.map .append) = as := by
  induction as with
  | nil => rfl
  | cons a as ih =>
      have hkept : (as.map Edit.append).any (·.removes a.id) = false := by
        simp [Edit.removes]
      rw [List.map_cons, survivors, ih, Edit.added, List.filter_cons_of_pos (by simp [hkept])]
      rfl

end Survivors

section Runs

variable {s : Nat → Chain P} {t : Nat → List (Edit P)}

/-- The edits tell what the chains hold. -/
def Tells (t : Nat → List (Edit P)) (s : Nat → Chain P) : Prop :=
  ∀ i, (s i).toList = survivors (t i)

theorem Tells.toList_eq (h : Tells t s) {call : Call P} {handed : List (Shared P)} {c : Chain P}
    (hc : call.outcome s = .ok (handed, c)) : c.toList = survivors (call.edits t) := by
  cases call with
  | append i a =>
      obtain ⟨d, hd, hdc⟩ := exists_eq_ok_of_map_eq_ok hc
      cases hdc
      rw [Call.edits, survivors_append, ← h i, append_eq_ok_iff.mp hd]
  | remove i a =>
      obtain ⟨⟨x, d⟩, hd, hdc⟩ := exists_eq_ok_of_map_eq_ok hc
      cases hdc
      rw [Call.edits, survivors_remove, ← h i, toList_remove hd]
  | release i =>
      cases hc
      exact (survivors_clear (t i)).symm
  | take i =>
      cases hc
      exact (survivors_clear (t i)).symm
  | copy i j =>
      cases hc
      exact h i
  | ofList i as =>
      obtain ⟨d, hd, hdc⟩ := exists_eq_ok_of_map_eq_ok hc
      cases hdc
      rw [Call.edits, survivors_map_append, ofList_eq_ok_iff.mp hd]

theorem Tells.update (h : Tells t s) {i : Nat} {c : Chain P} {es : List (Edit P)}
    (hc : c.toList = survivors es) : Tells (Function.update t i es) (Function.update s i c) := by
  intro j
  by_cases hj : j = i
  · subst hj
    rwa [Function.update_self, Function.update_self]
  · rw [Function.update_of_ne hj, Function.update_of_ne hj]
    exact h j

theorem Tells.foldl (h : Tells t s) (calls : List (Call P)) :
    Tells (tell s t calls) (calls.foldl Call.next s) := by
  induction calls generalizing s t with
  | nil => exact h
  | cons call calls ih =>
      rw [List.foldl_cons, tell, Call.next, Call.run]
      cases hc : call.outcome s with
      | error e => exact ih h
      | ok out => exact ih (h.update (h.toList_eq hc))

theorem tells_after (calls : List (Call P)) : Tells (story calls) (after calls) :=
  Tells.foldl (fun _ => rfl) calls

theorem eq_of_run_eq_error {call : Call P} {e : Error} {s' : Nat → Chain P}
    (h : call.run s = .error e s') : s' = s := by
  rw [Call.run] at h
  split at h
  · cases h
  · cases h
    rfl

theorem next_of_ne {call : Call P} {i : Nat} (h : i ≠ call.target) : call.next s i = s i := by
  rw [Call.next, Call.run]
  cases call.outcome s with
  | error e => rfl
  | ok out => exact Function.update_of_ne h ..

end Runs

/-- After any calls, the failed ones included, a chain holds the actions that were appended and not
removed since, in the order of their appending, and does with every further call what it should. A
failing call changes no chain, and a call on another chain, be it a copy, does not change this one.
A list makes a chain exactly when it is short and without repetition, and the chain has its order. -/
theorem after_isSound (calls : List (Call P)) (i : Nat) :
    (after calls i).toList = survivors (story calls i) ∧ (after calls i).IsSound ∧
      (∀ call e s, Call.run call (after calls) = .error e s → s = after calls) ∧
      (∀ call, i ≠ Call.target call → call.next (after calls) i = after calls i) ∧
      ∀ as : List (Shared P),
        ((∃ c, ofList as = .ok c) ↔ as.length ≤ maxLength ∧ (as.map (·.id)).Nodup) ∧
          ∀ c, ofList as = .ok c → c.toList = as := by
  refine ⟨tells_after calls i, sound _, fun _ _ _ => eq_of_run_eq_error, fun _ => next_of_ne,
    fun as => ⟨⟨?_, ?_⟩, fun c => ofList_eq_ok_iff.mp⟩⟩
  · rintro ⟨c, hc⟩
    rw [← ofList_eq_ok_iff.mp hc]
    exact ⟨c.length_le, c.nodup⟩
  · rintro ⟨hl, hn⟩
    obtain ⟨c, hc, -⟩ := ofList_of_nodup hl hn
    exact ⟨c, hc⟩

/-- A chain of two actions, a copy of it, and then the first action leaves the chain. -/
def sharingCalls : List (Call Builtin) :=
  [.append 0 ⟨4, .ofKind "gact"⟩, .append 0 ⟨2, {}⟩, .copy 0 1, .remove 0 ⟨4, {}⟩]

/-- The copy still holds the action, so it refuses it, and the chain does not notice. -/
theorem after_isSound_sharingCalls :
    (after sharingCalls 0).toList = survivors (story sharingCalls 0) ∧
      (∃ s, Call.run (.append 1 ⟨4, {}⟩) (after sharingCalls) =
        .error (.exist (.action none)) s ∧ s = after sharingCalls) ∧
      Call.next (after sharingCalls) (.append 1 ⟨7, {}⟩) 0 = after sharingCalls 0 ∧
      ∃ c : Chain Builtin, ofList [⟨3, {}⟩, ⟨1, {}⟩] = .ok c ∧
        c.toList = [⟨3, {}⟩, ⟨1, {}⟩] := by
  obtain ⟨hsurvivors, -, hfailing, hother, -⟩ := after_isSound sharingCalls 0
  obtain ⟨-, hsound, -, -, hlists⟩ := after_isSound sharingCalls 1
  have hrefused : (after sharingCalls 1).append ⟨4, {}⟩ = .error (.exist (.action none)) :=
    (hsound.append_error _ _).mpr (.inr ⟨by decide, by decide, rfl⟩)
  have hrun : Call.run (.append 1 ⟨4, {}⟩) (after sharingCalls) =
      .error (.exist (.action none)) (after sharingCalls) := by
    simp only [Call.run, Call.outcome, hrefused, Except.map]
  obtain ⟨hmade, horder⟩ := hlists [⟨3, {}⟩, ⟨1, {}⟩]
  obtain ⟨c, hc⟩ := hmade.mpr ⟨by decide, by decide⟩
  exact ⟨hsurvivors, ⟨_, hrun, hfailing _ _ _ hrun⟩, hother _ (by decide), c, hc, horder c hc⟩

end TrafficControl.Chain
