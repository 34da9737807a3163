import TrafficControl.Proofs.AttrSequence

/-!
# Settled computations

A computation on a builder is settled when it either writes a fixed octet string or fails on every
builder because of a length. What is made of settled parts is settled, so a computation that
succeeded once, on whatever builder, has written its string, and so has each of its parts.

The string of a settled computation is unique, and nothing both writes and refuses. With these two
facts the success of a nest or a sequence tells what its parts have written.
-/
namespace TrafficControl.Build

variable {x y : Build Unit} {d e : Octets}

/-- The computation writes a fixed string, or no builder is good enough for it. -/
def Settled (x : Build Unit) : Prop := (∃ d, Writes x d) ∨ Refuses x

/-- Some builder has room for any string. -/
theorem exists_room (n : Nat) : ∃ b : Builder, b.length + n ≤ b.limit :=
  ⟨.withLimit 0 0 (Message.headerLength + n), Nat.le_max_left ..⟩

theorem Writes.not_refuses (hx : Writes x d) : ¬ Refuses x := by
  intro hr
  obtain ⟨b, hb⟩ := exists_room (align d.length)
  exact hr.ne_ok (hx.ok b hb)

theorem Writes.unique (hd : Writes x d) (he : Writes x e) : d = e := by
  obtain ⟨b, hb⟩ := exists_room (align d.length)
  obtain ⟨h, heq⟩ := he.eq_ok_iff.mp (hd.ok b hb)
  have hp := congrArg Builder.payload heq
  rwa [Builder.payload_extend, Builder.payload_extend, Octets.pad_eq_self hd.aligned,
    Octets.pad_eq_self he.aligned, List.append_cancel_left_eq] at hp

theorem Writes.settled (hx : Writes x d) : Settled x := .inl ⟨d, hx⟩

theorem Refuses.settled (hx : Refuses x) : Settled x := .inr hx

/-- What a computation writes is read as the attributes that it yields. -/
theorem Yields.list_eq {as : List Attr} (hx : Yields x as) (hd : Writes x d) :
    Attr.list d = as := by
  obtain ⟨e, he, -, hl⟩ := hx.writes
  rwa [hd.unique he]

theorem Settled.writes_of_ok (hx : Settled x) {b b' : Builder} (h : x b = .ok () b') :
    ∃ d, Writes x d ∧ b'.payload = b.payload ++ d := by
  rcases hx with ⟨d, hd⟩ | hr
  · obtain ⟨hroom, rfl⟩ := hd.eq_ok_iff.mp h
    exact ⟨d, hd, by rw [Builder.payload_extend, Octets.pad_eq_self hd.aligned]⟩
  · exact absurd h hr.ne_ok

/-- Nothing but a length stops a settled computation. -/
theorem Settled.exists_tooLarge (hx : Settled x) {b b' : Builder} {err : Error}
    (h : x b = .error err b') : ∃ n m, m < n ∧ err = .tooLarge n m := by
  rcases hx with ⟨d, hd⟩ | hr
  · by_cases hroom : b.length + align d.length ≤ b.limit
    · rw [hd.ok b hroom] at h
      cases h
    · rw [align_eq_self hd.aligned, Nat.not_le] at hroom
      obtain ⟨n, b'', hn, hb⟩ := hd.tooLarge b hroom
      cases hb.symm.trans h
      exact ⟨n, b.limit, hn, rfl⟩
  · obtain ⟨n, m, b'', hn, hb⟩ := hr b
    cases hb.symm.trans h
    exact ⟨n, m, hn, rfl⟩

theorem Settled.attr (t : UInt16) (d : Octets) : Settled (attr t d) := by
  by_cases h : Attr.headerLength + d.length ≤ Attr.maxLength
  · exact (Writes.attr h).settled
  · exact (Refuses.attr (Nat.not_le.mp h)).settled

theorem Settled.bind (hx : Settled x) (hy : Settled y) : Settled (x >>= fun _ => y) := by
  rcases hx with ⟨d, hd⟩ | hx
  · rcases hy with ⟨e, he⟩ | hy
    · exact (hd.bind he).settled
    · exact (hd.bind_refuses hy).settled
  · exact hx.bind.settled

theorem Settled.nested {t : UInt16} (hx : Settled x) : Settled (nested t x) := by
  rcases hx with ⟨d, hd⟩ | hx
  · by_cases h : Attr.headerLength + d.length ≤ Attr.maxLength
    · exact (hd.nested h).settled
    · exact (hd.nested_refuses (Nat.not_le.mp h)).settled
  · exact hx.nested.settled

theorem Refuses.adaptExcept {f : Error → Error} (hx : Refuses x)
    (hf : ∀ n m, f (.tooLarge n m) = .tooLarge n m) : Refuses (x.adaptExcept f) := by
  intro b
  obtain ⟨n, m, b', hn, hb⟩ := hx b
  exact ⟨n, m, b', hn, by simp only [EStateM.adaptExcept, hb, hf]⟩

theorem Settled.adaptExcept {f : Error → Error} (hx : Settled x)
    (hf : ∀ n m, f (.tooLarge n m) = .tooLarge n m) : Settled (x.adaptExcept f) := by
  rcases hx with ⟨d, hd⟩ | hx
  · exact (hd.adaptExcept hf).settled
  · exact (hx.adaptExcept hf).settled

theorem Settled.option {α : Type} {f : α → Build Unit} {o : Option α}
    (h : ∀ v ∈ o, Settled (f v)) : Settled (o.forM f) := by
  cases o with
  | none => exact Writes.pure.settled
  | some v => exact h v rfl

theorem Settled.forM {α : Type} {f : α → Build Unit} {l : List α}
    (h : ∀ v ∈ l, Settled (f v)) : Settled (l.forM f) := by
  induction l with
  | nil => exact Writes.pure.settled
  | cons v l ih =>
      exact (h v List.mem_cons_self).bind (ih fun w hw => h w (List.mem_cons_of_mem v hw))

theorem Writes.of_attr {t : UInt16} (h : Writes (Build.attr t d) e) :
    Attr.headerLength + d.length ≤ Attr.maxLength := by
  by_contra hl
  exact h.not_refuses (.attr (Nat.not_le.mp hl))

/-- A sequence that writes anything writes what its parts write. -/
theorem Writes.of_bind (hx : Settled x) (hy : Settled y) (h : Writes (x >>= fun _ => y) e) :
    ∃ d₁ d₂, Writes x d₁ ∧ Writes y d₂ ∧ e = d₁ ++ d₂ := by
  rcases hx with ⟨d₁, h₁⟩ | hx
  · rcases hy with ⟨d₂, h₂⟩ | hy
    · exact ⟨d₁, d₂, h₁, h₂, h.unique (h₁.bind h₂)⟩
    · exact absurd (h₁.bind_refuses hy) h.not_refuses
  · exact absurd hx.bind h.not_refuses

theorem Writes.of_adaptExcept {f : Error → Error} (hx : Settled x)
    (hf : ∀ n m, f (.tooLarge n m) = .tooLarge n m) (h : Writes (x.adaptExcept f) e) :
    Writes x e := by
  rcases hx with ⟨d, hd⟩ | hx
  · rwa [h.unique (hd.adaptExcept hf)]
  · exact absurd (hx.adaptExcept hf) h.not_refuses

/-- A nest that writes anything writes its contents, and these are not too long. -/
theorem Writes.of_nested {t : UInt16} (hx : Settled x) (h : Writes (Build.nested t x) e) :
    ∃ d, Writes x d ∧ Attr.headerLength + d.length ≤ Attr.maxLength ∧
      e = Attr.written (t ||| Attr.nestedFlag) d := by
  rcases hx with ⟨d, hd⟩ | hx
  · by_cases hl : Attr.headerLength + d.length ≤ Attr.maxLength
    · exact ⟨d, hd, hl, h.unique (hd.nested hl)⟩
    · exact absurd (hd.nested_refuses (Nat.not_le.mp hl)) h.not_refuses
  · exact absurd hx.nested h.not_refuses

theorem Writes.yields_attr {t : UInt16} (ht : t.toNat < Attr.typeBound)
    (h : Writes (Build.attr t d) e) : Yields (Build.attr t d) [⟨t, d⟩] :=
  .attr ht h.of_attr

theorem Writes.yields_nested {t : UInt16} (ht : t.toNat < Attr.typeBound) (hx : Writes x d)
    (h : Writes (Build.nested t x) e) : Yields (Build.nested t x) [⟨t, d⟩] := by
  obtain ⟨d', hd', hl, -⟩ := h.of_nested hx.settled
  exact .nested ht hx (by rwa [hx.unique hd'])

theorem Writes.of_forM {α : Type} {f : α → Build Unit} {l : List α}
    (h : ∀ v ∈ l, Settled (f v)) (hw : Writes (l.forM f) e) :
    ∀ v ∈ l, ∃ d, Writes (f v) d := by
  induction l generalizing e with
  | nil => simp
  | cons v l ih =>
      have hl : ∀ w ∈ l, Settled (f w) := fun w hw => h w (List.mem_cons_of_mem v hw)
      obtain ⟨d₁, d₂, h₁, h₂, -⟩ := hw.of_bind (h v List.mem_cons_self) (.forM hl)
      intro w hw
      rcases List.mem_cons.mp hw with rfl | hw
      · exact ⟨d₁, h₁⟩
      · exact ih hl h₂ w hw

/-- What a finished message says about the computations that made it. -/
theorem exists_of_message_eq_ok {α β : Type} {x : Except Error α} {f : α → Build Unit}
    {b : Builder} {g : Builder → β} {v : β}
    (h : (x >>= fun a => message (f a) b).map g = .ok v) :
    ∃ a b', x = .ok a ∧ f a b = .ok () b' ∧ g b' = v := by
  obtain ⟨b', hmessage, hv⟩ := exists_eq_ok_of_map_eq_ok h
  cases x with
  | error e => cases hmessage
  | ok a =>
      change message (f a) b = .ok b' at hmessage
      rw [message] at hmessage
      cases hb : f a b with
      | error e b'' =>
          rw [hb] at hmessage
          cases hmessage
      | ok u b'' =>
          rw [hb] at hmessage
          cases hmessage
          exact ⟨a, b', rfl, hb, hv⟩

end TrafficControl.Build
