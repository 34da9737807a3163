import TrafficControl.Proofs.BuilderRuns
import TrafficControl.Proofs.TableWriting

/-!
# Cancelled nests

To cancel a nest is to undo all that was attempted since it began. Whatever is done to a message
behind the beginning of a nest, what was there before stays: additions go to the end, the end of a
nest changes the header of that nest, and a rollback goes back to where a later nest began. This
holds of failures too, which may leave nests open.

The codecs that a table is written by are a part of this. All that is asked of a codec is that it is
confined: it builds on the message with additions and with nests of its own, reads what it likes,
and fails or recovers as it likes. The codecs of the library are confined
(`ActionTable.isConfined_builtin`).
-/
namespace TrafficControl

namespace Octets

theorem isPrefix_putU16 {p d : Octets} {i : Nat} (h : p <+: d) (hi : p.length ≤ i) (n : UInt16) :
    p <+: putU16 d i n := by
  obtain ⟨e, rfl⟩ := h
  obtain ⟨j, rfl⟩ := Nat.exists_eq_add_of_le hi
  rw [putU16_append_right]
  exact List.prefix_append ..

end Octets

namespace Builder

/-- The second builder is the first one with more octets behind those it has. -/
structure Extends (b b' : Builder) : Prop where
  type : b'.type = b.type
  flags : b'.flags = b.flags
  seq : b'.seq = b.seq
  limit : b'.limit = b.limit
  payload : b.payload <+: b'.payload

namespace Extends

variable {b b' : Builder} {nest : Nest}

theorem refl (b : Builder) : b.Extends b := ⟨rfl, rfl, rfl, rfl, List.prefix_rfl⟩

theorem extend (hb : b.Extends b') {d : Octets} (h : b'.length + align d.length ≤ b'.limit) :
    b.Extends (b'.extend d h) :=
  { hb with payload := hb.payload.trans (List.prefix_append ..) }

theorem setAttrLength (hb : b.Extends b') (hn : b.payload.length ≤ nest.start) (n : Nat) :
    b.Extends (b'.setAttrLength nest.start n) :=
  { hb with payload := Octets.isPrefix_putU16 hb.payload hn _ }

theorem rollback (hb : b.Extends b') (hn : b.payload.length ≤ nest.start) :
    b.Extends (b'.rollback nest) :=
  { hb with payload := List.prefix_take_iff.mpr ⟨hb.payload, hn⟩ }

/-- A nest that began at the end of a builder takes every extension of it back to that builder. -/
theorem rollback_eq (hb : b.Extends b') (hn : nest.start = b.payload.length) :
    b'.rollback nest = b := by
  obtain ⟨htype, hflags, hseq, hlimit, hpayload⟩ := hb
  have htake : b'.payload.take nest.start = b.payload := by
    rw [hn]
    exact (List.prefix_iff_eq_take.mp hpayload).symm
  ext1
  · exact htype
  · exact hflags
  · exact hseq
  · exact htake
  · exact hlimit

end Extends

end Builder

namespace Build

variable {α β : Type}

/-- The message that a computation leaves behind, whether it succeeded or failed. -/
def left (x : Build α) (b : Builder) : Builder :=
  match x b with
  | .ok _ b' => b'
  | .error _ b' => b'

/-- The computation builds on a message: it adds to it and begins nests, and it ends and cancels
no nests but these and those that it began. -/
inductive Confined : List Builder.Nest → {α : Type} → Build α → Prop
  | pure {ns α} (v : α) : Confined ns (pure v)
  | throw {ns α} (e : Error) : Confined ns (throw e : Build α)
  | look {ns} : Confined ns (get : Build Builder)
  | append {ns} (d : Octets) : Confined ns (append d)
  | bind {ns α β} {x : Build α} {f : α → Build β} (hx : Confined ns x)
      (hf : ∀ v, Confined ns (f v)) : Confined ns (x >>= f)
  | tryCatch {ns α} {x : Build α} {f : Error → Build α} (hx : Confined ns x)
      (hf : ∀ e, Confined ns (f e)) : Confined ns (tryCatch x f)
  | startNest {ns α} (t : UInt16) {f : Builder.Nest → Build α}
      (hf : ∀ nest, Confined (nest :: ns) (f nest)) : Confined ns (startNest t >>= f)
  | endNest {ns nest} (h : nest ∈ ns) : Confined ns (endNest nest)
  | cancelNest {ns nest} (h : nest ∈ ns) : Confined ns (cancelNest nest)

section Left

variable {x : Build α} {b b' : Builder} {v : α} {e : Error}

theorem left_of_ok (h : x b = .ok v b') : left x b = b' := by rw [left, h]

theorem left_of_error (h : x b = .error e b') : left x b = b' := by rw [left, h]

theorem left_bind_of_ok (h : x b = .ok v b') (f : α → Build β) :
    left (x >>= f) b = left (f v) b' := by
  simp only [left, bind, EStateM.bind, h]

theorem left_bind_of_error (h : x b = .error e b') (f : α → Build β) : left (x >>= f) b = b' := by
  simp only [left, bind, EStateM.bind, h]

theorem left_tryCatch_of_ok (h : x b = .ok v b') (f : Error → Build α) :
    left (tryCatch x f) b = b' := by
  simp only [left, tryCatch, tryCatchThe, MonadExceptOf.tryCatch, EStateM.tryCatch, h]

theorem left_tryCatch_of_error (h : x b = .error e b') (f : Error → Build α) :
    left (tryCatch x f) b = left (f e) b' := by
  simp only [left, tryCatch, tryCatchThe, MonadExceptOf.tryCatch, EStateM.tryCatch, h]
  rfl

end Left

/-- An addition extends the message, or fails and leaves it. -/
theorem extends_left_append {b b' : Builder} (hb : b.Extends b') (d : Octets) :
    b.Extends (left (append d) b') := by
  by_cases h : b'.length + align d.length ≤ b'.limit
  · rw [left_of_ok (append_of_fits h)]
    exact hb.extend h
  · rw [left_of_error (append_of_not_fits (Nat.not_le.mp h))]
    exact hb

theorem extends_left_endNest {b b' : Builder} (hb : b.Extends b') {nest : Builder.Nest}
    (hn : b.payload.length ≤ nest.start) : b.Extends (left (endNest nest) b') := by
  rcases endNest_cases nest b' with hres | ⟨_, _, -, hres⟩
  · rw [left_of_ok hres]
    exact hb.setAttrLength hn _
  · rwa [left_of_error hres]

variable {ns ns' : List Builder.Nest}

theorem Confined.mono {x : Build α} (h : Confined ns x) (hns : ns ⊆ ns') : Confined ns' x := by
  induction h generalizing ns' with
  | pure v => exact .pure v
  | throw e => exact .throw e
  | look => exact .look
  | append d => exact .append d
  | bind _ _ ihx ihf => exact .bind (ihx hns) fun v => ihf v hns
  | tryCatch _ _ ihx ihf => exact .tryCatch (ihx hns) fun e => ihf e hns
  | startNest t _ ih => exact .startNest t fun nest => ih nest (List.cons_subset_cons nest hns)
  | endNest h => exact .endNest (hns h)
  | cancelNest h => exact .cancelNest (hns h)

/-- What was in the message before the given nests began stays, whatever a confined computation
does and however it ends. -/
theorem Confined.extends_left {x : Build α} (h : Confined ns x) {b b' : Builder}
    (hb : b.Extends b') (hns : ∀ nest ∈ ns, b.payload.length ≤ nest.start) :
    b.Extends (left x b') := by
  induction h generalizing b' with
  | pure v => exact hb
  | throw e => exact hb
  | look => exact hb
  | append d => exact extends_left_append hb d
  | @bind ns _ _ x f _ _ ihx ihf =>
    have hx := ihx hb hns
    cases hres : x b' with
    | ok v b'' =>
      rw [left_of_ok hres] at hx
      rw [left_bind_of_ok hres]
      exact ihf v hx hns
    | error e b'' =>
      rw [left_of_error hres] at hx
      rwa [left_bind_of_error hres]
  | @tryCatch ns _ x f _ _ ihx ihf =>
    have hx := ihx hb hns
    cases hres : x b' with
    | ok v b'' =>
      rw [left_of_ok hres] at hx
      rwa [left_tryCatch_of_ok hres]
    | error e b'' =>
      rw [left_of_error hres] at hx
      rw [left_tryCatch_of_error hres]
      exact ihf e hx hns
  | startNest t _ ih =>
    -- A nest joins the list that starts where an extension of `b` ends, so behind `b` too.
    rcases startNest_cases t b' with ⟨h, hres⟩ | ⟨_, _, -, hres⟩
    · rw [left_bind_of_ok hres]
      exact ih _ (hb.extend h) (List.forall_mem_cons.mpr ⟨hb.payload.length_le, hns⟩)
    · rwa [left_bind_of_error hres]
  | endNest h => exact extends_left_endNest hb (hns _ h)
  | cancelNest h => exact hb.rollback (hns _ h)

theorem Confined.attr (t : UInt16) (d : Octets) : Confined ns (attr t d) := by
  by_cases h : Attr.headerLength + d.length ≤ Attr.maxLength
  · rw [attr_of_fits h]
    exact .append _
  · rw [Build.attr, if_pos (Nat.not_le.mp h)]
    exact .throw _

theorem Confined.nested {x : Build Unit} (t : UInt16) (h : Confined ns x) :
    Confined ns (nested t x) :=
  .startNest t fun nest =>
    .bind (h.mono (List.subset_cons_self nest ns)) fun _ => .endNest List.mem_cons_self

theorem adaptExcept_eq_tryCatch (x : Build α) (f : Error → Error) :
    x.adaptExcept f = tryCatch x fun e => throw (f e) := by
  funext b
  simp only [EStateM.adaptExcept, tryCatch, tryCatchThe, MonadExceptOf.tryCatch, EStateM.tryCatch]
  cases x b <;> rfl

theorem Confined.adaptExcept {x : Build α} (h : Confined ns x) (f : Error → Error) :
    Confined ns (x.adaptExcept f) := by
  rw [adaptExcept_eq_tryCatch]
  exact h.tryCatch fun e => .throw (f e)

theorem Confined.option {f : α → Build Unit} (h : ∀ v, Confined ns (f v)) (o : Option α) :
    Confined ns (o.forM f) := by
  cases o with
  | none => exact .pure ()
  | some v => exact h v

theorem Confined.forM {f : α → Build Unit} {l : List α} (h : ∀ v ∈ l, Confined ns (f v)) :
    Confined ns (l.forM f) := by
  induction l with
  | nil => exact .pure ()
  | cons v l ih =>
    obtain ⟨hv, hl⟩ := List.forall_mem_cons.mp h
    exact .bind hv fun _ => ih hl

/-- What only adds is confined. -/
theorem OnlyAdds.confined {x : Build Unit} (h : OnlyAdds x) : Confined ns x := by
  induction h with
  | pure => exact .pure ()
  | append d => exact .append d
  | attr t d => exact .attr t d
  | bind _ _ ihx ihy => exact .bind ihx fun _ => ihy
  | nested t _ ih => exact .nested t ih

end Build

namespace ActionTable

variable {P : Type} {r : Registry P} {a : Action P}

/-- The codec that writes the options of an action, if there is one, is confined. -/
def IsConfined (r : Registry P) (a : Action P) : Prop :=
  ∀ kind k style, writer? r a = some (kind, k, style) → Build.Confined [] (k.fill a)

theorem confined_writeOptions (h : IsConfined r a) : Build.Confined [] (writeOptions r a) := by
  rw [writeOptions]
  split
  case h_1 kind k hw => exact ((h kind k _ hw).adaptExcept _).nested _
  case h_2 kind k hw => exact (h kind k _ hw).adaptExcept _
  case h_3 =>
    cases a.options with
    | some d => exact (Build.Confined.append d).nested _
    | none => exact .pure ()

theorem confined_writeEntry (h : IsConfined r a) : Build.Confined [] (writeEntry r a) :=
  .bind (.option (fun _ => .attr ..) a.kind) fun _ => confined_writeOptions h

theorem confined_write {c : Chain P} (h : ∀ a ∈ c.actions, IsConfined r a) (type : UInt16) :
    Build.Confined [] (write type c r) :=
  .nested type <| .forM fun _ hx =>
    (confined_writeEntry (h _ (mem_actions_of_mem_ordered hx).2)).nested _

section Library

variable [Payload P]

/-- Codecs that write configurations are confined where these are written by additions. -/
theorem isConfined_of_onlyAdds (hr : ∀ k ∈ r.codecs, k.fill = Codec.fillPayload)
    (h : a.OnlyAdds r) : IsConfined r a := by
  intro kind k style hw
  obtain ⟨hkind, hget, -⟩ := writer?_eq_some_iff.mp hw
  rw [hr k (Registry.mem_and_name_of_get? hget).1]
  exact (onlyAdds_fillPayload (h kind hkind (by rw [hget]; rfl))).confined

theorem isConfined_builtin [Holds P Gact] [Holds P Mirred] [Holds P Skbedit] [Holds P Vlan]
    (h : a.OnlyAdds .builtin) : IsConfined .builtin a := by
  refine isConfined_of_onlyAdds (fun k hk => ?_) h
  simp only [Registry.builtin, List.mem_cons, List.not_mem_nil, or_false] at hk
  rcases hk with rfl | rfl | rfl | rfl <;> rfl

end Library

end ActionTable

namespace Builder

variable {P : Type}

/-- What may be attempted while a nest is open: a call, or to write a table. -/
inductive Attempt (P : Type) where
  | call (c : Call)
  | table (type : UInt16) (c : Chain P) (r : Registry P)

namespace Attempt

def run : Attempt P → Build (Option Nest)
  | call c => c.run
  | table type c r => do
    ActionTable.write type c r
    return none

def remaining (nests : List Nest) : Attempt P → List Nest
  | call c => c.remaining nests
  | table .. => nests

/-- The attempt adds octets, or begins a nest, ends one of these or cancels one of these. Its codecs
are confined. -/
def IsInner (nests : List Nest) : Attempt P → Prop
  | call c => (∀ nest ∈ c.nest?, nest ∈ nests) ∧ c.flags? = none ∧ c.seq? = none
  | table _ c r => ∀ a ∈ c.actions, ActionTable.IsConfined r a

theorem confined_run {nests : List Nest} {s : Attempt P} (h : s.IsInner nests) :
    Build.Confined nests s.run := by
  cases s with
  | table type c r =>
    have hwrite := (ActionTable.confined_write h type).mono (List.nil_subset nests)
    exact .bind hwrite fun _ => .pure none
  | call c =>
    obtain ⟨hnest, hflags, hseq⟩ := h
    cases c with
    | append d => exact .bind (.append d) fun _ => .pure none
    | attr type v =>
      rw [run, Call.run, v.write_eq]
      exact .bind (.attr type v.payload) fun _ => .pure none
    | startNest type => exact .startNest type fun nest => .pure (some nest)
    | endNest nest => exact .bind (.endNest (hnest nest rfl)) fun _ => .pure none
    | cancelNest nest => exact .bind (.cancelNest (hnest nest rfl)) fun _ => .pure none
    | addFlags flags => cases hflags
    | setSeq seq => cases hseq

theorem remaining_subset (nests : List Nest) (s : Attempt P) : s.remaining nests ⊆ nests := by
  cases s with
  | table => exact List.Subset.refl nests
  | call c =>
    cases c with
    | endNest nest => exact List.erase_subset
    | cancelNest nest => exact List.filter_subset_self nests
    | append | attr | startNest | addFlags | setSeq => exact List.Subset.refl nests

section Begun

variable {b b' : Builder}

theorem begun_eq_none {x : Build Unit} {begun : Option Nest}
    (h : (x >>= fun _ => pure none) b = .ok begun b') : begun = none := by
  obtain ⟨_, b'', -, hnone⟩ := Build.bind_eq_ok_iff.mp h
  cases hnone
  rfl

/-- A nest that an attempt begins starts where the message ended. -/
theorem start_eq_of_run_eq_ok {s : Attempt P} {nest : Nest} (h : s.run b = .ok (some nest) b') :
    nest.start = b.payload.length := by
  cases s with
  | table => cases begun_eq_none h
  | call c =>
    cases c with
    | append | attr | endNest | cancelNest | addFlags | setSeq => cases begun_eq_none h
    | startNest type =>
      obtain ⟨_, b'', hstart, hsome⟩ := Build.bind_eq_ok_iff.mp h
      cases hsome
      rcases Build.startNest_cases type b with ⟨_, hres⟩ | ⟨_, _, -, hres⟩
      · cases hres.symm.trans hstart
        rfl
      · cases hres.symm.trans hstart

end Begun

end Attempt

/-- The draft after an attempt, which may have failed halfway. -/
def Draft.afterAttempt (d : Draft) (s : Attempt P) : Draft :=
  match s.run d.builder with
  | .ok begun b => ⟨b, begun.toList ++ s.remaining d.nests⟩
  | .error _ b => ⟨b, d.nests⟩

/-- The second draft is what these attempts, each of them an inner one, make of the first. -/
inductive Attempts (d : Draft) : List (Attempt P) → Draft → Prop
  | nil : Attempts d [] d
  | snoc {ss : List (Attempt P)} {e : Draft} (h : Attempts d ss e) (s : Attempt P)
      (hs : s.IsInner e.nests) : Attempts d (ss ++ [s]) (e.afterAttempt s)

/-- The draft has what is in the message, and all its nests begin behind that. -/
structure Draft.IsBehind (b : Builder) (d : Draft) : Prop where
  kept : b.Extends d.builder
  start_ge : ∀ nest ∈ d.nests, b.payload.length ≤ nest.start

section Behind

variable {b b' : Builder} {type : UInt16} {nest : Nest} {d e : Draft}

theorem Draft.IsBehind.afterAttempt (h : d.IsBehind b) {s : Attempt P} (hs : s.IsInner d.nests) :
    (d.afterAttempt s).IsBehind b := by
  have hleft := (Attempt.confined_run hs).extends_left h.kept h.start_ge
  rw [Draft.afterAttempt]
  cases hres : s.run d.builder with
  | error err b' =>
    rw [Build.left_of_error hres] at hleft
    exact ⟨hleft, h.start_ge⟩
  | ok begun b' =>
    rw [Build.left_of_ok hres] at hleft
    refine ⟨hleft, fun nest hnest => ?_⟩
    rcases List.mem_append.mp hnest with hnew | hold
    · obtain rfl := Option.mem_toList.mp hnew
      rw [Attempt.start_eq_of_run_eq_ok hres]
      exact h.kept.payload.length_le
    · exact h.start_ge nest (s.remaining_subset _ hold)

theorem Attempts.isBehind {ss : List (Attempt P)} (h : Attempts d ss e) (hd : d.IsBehind b) :
    e.IsBehind b := by
  induction h with
  | nil => exact hd
  | snoc _ s hs ih => exact ih.afterAttempt hs

theorem isBehind_of_startNest (h : Build.startNest type b = .ok nest b') :
    nest.start = b.payload.length ∧ Draft.IsBehind b ⟨b', []⟩ := by
  rcases Build.startNest_cases type b with ⟨hl, hres⟩ | ⟨_, _, -, hres⟩
  · cases hres.symm.trans h
    exact ⟨rfl, (Extends.refl b).extend hl, fun _ hnest => absurd hnest List.not_mem_nil⟩
  · cases hres.symm.trans h

end Behind

/-- To cancel a nest takes the message back to what it was before the nest began, whatever was
attempted since: additions, nests, and tables whose codecs are confined, so that they add, read and
fail as they like, and end and cancel no nests but their own. All that follows goes on as if nothing
of it had been. -/
theorem cancelNest_after_attempts {b b' : Builder} {type : UInt16} {nest : Nest}
    (hb : Build.startNest type b = .ok nest b') {ss : List (Attempt P)} {d : Draft}
    (h : Attempts ⟨b', []⟩ ss d) :
    Build.cancelNest nest d.builder = .ok () b ∧
      ∀ (α : Type) (x : Build α), (do Build.cancelNest nest; x) d.builder = x b := by
  obtain ⟨hstart, hbehind⟩ := isBehind_of_startNest hb
  have hcancel : Build.cancelNest nest d.builder = .ok () b :=
    congrArg (EStateM.Result.ok ()) ((h.isBehind hbehind).kept.rollback_eq hstart)
  refine ⟨hcancel, fun α x => ?_⟩
  simp only [bind, EStateM.bind, hcancel]

/-- An attribute in an inner nest, a table for which there is no room, the end of that nest, and
another one that is begun and cancelled. -/
def innerAttempts : List (Attempt Builtin) :=
  [.call (.startNest 7), .call (.attr 2 (.u32 7)), .table 1 ActionTable.shapes .builtin,
    .call (.endNest ⟨12, rfl⟩), .call (.startNest 3), .call (.cancelNest ⟨48, rfl⟩)]

/-- The table fails in its first entry, with three nests open, and 40 octets are there to undo. -/
theorem cancelNest_after_innerAttempts :
    ∃ (b b' : Builder) (nest : Nest) (d : Draft), b.payload = [1, 2, 3, 4, 5, 0, 0, 0] ∧
      Build.startNest 5 b = .ok nest b' ∧ Attempts ⟨b', []⟩ innerAttempts d ∧
      d.builder.payload.length = 48 ∧ Build.cancelNest nest d.builder = .ok () b := by
  let b : Builder := (Builder.withLimit 48 1 70).extend [1, 2, 3, 4, 5] (by decide)
  have hs : Build.startNest 5 b = .ok ⟨8, rfl⟩ (b.extend (Build.nestHeader 5) (by decide)) := rfl
  have h : Attempts ⟨b.extend (Build.nestHeader 5) (by decide), []⟩ innerAttempts _ :=
    .snoc (.snoc (.snoc (.snoc (.snoc (.snoc .nil
      (.call (.startNest 7)) ⟨nofun, rfl, rfl⟩)
      (.call (.attr 2 (.u32 7))) ⟨nofun, rfl, rfl⟩)
      (.table 1 ActionTable.shapes .builtin)
        fun a _ => ActionTable.isConfined_builtin (a.onlyAdds .builtin))
      (.call (.endNest ⟨12, rfl⟩)) ⟨by decide +kernel, rfl, rfl⟩)
      (.call (.startNest 3)) ⟨nofun, rfl, rfl⟩)
      (.call (.cancelNest ⟨48, rfl⟩)) ⟨by decide +kernel, rfl, rfl⟩
  exact ⟨b, _, _, _, rfl, hs, h, by decide +kernel, (cancelNest_after_attempts hs h).1⟩

/-- A flag that a codec adds while a table is written stays when the nest around the table is
cancelled. -/
theorem exists_cancelNest_ne :
    ∃ (b b₁ b₂ b₃ : Builder) (nest : Nest), Build.startNest 5 b = .ok nest b₁ ∧
      ActionTable.write 1 Custom.flagging.chain .builtin b₁ = .ok () b₂ ∧
      Build.cancelNest nest b₂ = .ok () b₃ ∧ b₃.octets ≠ b.octets := by
  let b : Builder := .new 48 1
  have hs : Build.startNest 5 b = .ok ⟨0, rfl⟩ (b.extend (Build.nestHeader 5) (by decide)) := rfl
  have hmessage : (pure Custom.flagging.chain >>= fun c => Build.message
      (ActionTable.write 1 c .builtin) (b.extend (Build.nestHeader 5) (by decide))).map
      (fun b₂ => (b₂.rollback ⟨0, rfl⟩).octets.take 8) = .ok [16, 0, 0, 0, 48, 0, 1, 4] := by
    decide +kernel
  obtain ⟨c, b₂, hc, hb, hfront⟩ := Build.exists_of_message_eq_ok hmessage
  cases hc
  refine ⟨b, _, b₂, b₂.rollback ⟨0, rfl⟩, _, hs, hb, rfl, fun heq => ?_⟩
  rw [heq] at hfront
  revert hfront
  decide

end Builder
end TrafficControl
