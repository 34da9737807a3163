import TrafficControl.Builder
import TrafficControl.Proofs.WrittenAttr

/-!
# What a computation writes

Most computations on a builder have one effect, the same for every builder: they write a fixed
octet string of whole words when there is room for it, and otherwise fail because the message would
outgrow its limit. Others fail on every builder, since an attribute in them would be longer than its
length field can say. Both properties pass from the parts of a computation to the whole: to
sequences, nests, options and lists.

A sequence stops in the first of its parts that fails, and what was written before that stays.

A nest is the one place where octets change after they were written. Its header is written with the
length of an empty nest and gets the true length when the nest ends; the octets before and behind
the length field stay.
-/
namespace TrafficControl

namespace Octets

theorem u16_eq (n : UInt16) : u16 n = [UInt8.ofNat n.toNat, UInt8.ofNat (n.toNat / 256)] := rfl

theorem putU16_append (p : Octets) (m n : UInt16) (d : Octets) :
    putU16 (p ++ (u16 m ++ d)) p.length n = p ++ (u16 n ++ d) := by
  simp [putU16, u16_eq]

end Octets

attribute [ext] Builder

namespace Builder

theorem payload_extend {b : Builder} {d : Octets} (h : b.length + align d.length ≤ b.limit) :
    (b.extend d h).payload = b.payload ++ Octets.pad d := rfl

@[simp] theorem limit_extend {b : Builder} {d : Octets}
    (h : b.length + align d.length ≤ b.limit) : (b.extend d h).limit = b.limit := rfl

theorem length_extend {b : Builder} {d : Octets} (h : b.length + align d.length ≤ b.limit) :
    (b.extend d h).length = b.length + align d.length := by
  simp only [length, payload_extend, List.length_append, Octets.length_pad, Nat.add_assoc]

theorem octets_extend {b : Builder} {d : Octets} (h : b.length + align d.length ≤ b.limit) :
    (b.extend d h).octets = b.octets ++ Octets.pad d := (List.append_assoc ..).symm

/-- Only what is written and its filling count, so a string may be written in parts. -/
theorem extend_extend {b : Builder} {d e : Octets} (hd : d.length % 4 = 0)
    (h : b.length + align d.length ≤ b.limit)
    (h' : (b.extend d h).length + align e.length ≤ (b.extend d h).limit)
    (h'' : b.length + align (d ++ e).length ≤ b.limit) :
    (b.extend d h).extend e h' = b.extend (d ++ e) h'' := by
  ext1 <;> try rfl
  simp only [payload_extend, Octets.pad_append hd, Octets.pad_eq_self hd, List.append_assoc]

theorem extend_pad {b : Builder} {d : Octets} (h : b.length + align d.length ≤ b.limit)
    (h' : b.length + align (Octets.pad d).length ≤ b.limit) :
    b.extend (Octets.pad d) h' = b.extend d h := by
  ext1 <;> try rfl
  simp only [payload_extend, Octets.pad_pad]

theorem extend_nil {b : Builder} (h : b.length + align ([] : Octets).length ≤ b.limit) :
    b.extend [] h = b := by
  ext1 <;> try rfl
  exact List.append_nil _

end Builder

namespace Build

section Sequence

variable {α β : Type} {x : Build α} {f : α → Build β} {b b' : Builder} {e : Error}

theorem bind_eq_ok_iff {v : β} :
    (x >>= f) b = .ok v b' ↔ ∃ u b₁, x b = .ok u b₁ ∧ f u b₁ = .ok v b' := by
  simp only [bind, EStateM.bind]
  cases x b <;> simp [and_assoc]

theorem bind_eq_error_iff :
    (x >>= f) b = .error e b' ↔
      x b = .error e b' ∨ ∃ u b₁, x b = .ok u b₁ ∧ f u b₁ = .error e b' := by
  simp only [bind, EStateM.bind]
  cases x b <;> simp [and_assoc]

theorem adaptExcept_eq_error_iff {g : Error → Error} :
    x.adaptExcept g b = .error e b' ↔ ∃ err, x b = .error err b' ∧ e = g err := by
  simp only [EStateM.adaptExcept]
  cases x b with
  | ok v b₁ => simp
  | error err b₁ =>
      simp only [EStateM.Result.error.injEq]
      constructor
      · rintro ⟨rfl, rfl⟩
        exact ⟨err, ⟨rfl, rfl⟩, rfl⟩
      · rintro ⟨_, ⟨rfl, rfl⟩, rfl⟩
        exact ⟨rfl, rfl⟩

/-- A row of computations stops in the first of them that fails. -/
theorem forM_eq_error_iff {g : α → Build Unit} {l : List α} :
    l.forM g b = .error e b' ↔ ∃ before a after b₁, l = before ++ a :: after ∧
      before.forM g b = .ok () b₁ ∧ g a b₁ = .error e b' := by
  constructor
  · intro h
    induction l generalizing b with
    | nil => cases h
    | cons a l ih =>
        rcases bind_eq_error_iff.mp h with ha | ⟨_, b₁, ha, hl⟩
        · exact ⟨[], a, l, b, rfl, rfl, ha⟩
        · obtain ⟨before, x, after, b₂, rfl, hbefore, hx⟩ := ih hl
          exact ⟨a :: before, x, after, b₂, rfl, bind_eq_ok_iff.mpr ⟨_, b₁, ha, hbefore⟩, hx⟩
  · rintro ⟨before, a, after, b₁, rfl, hbefore, ha⟩
    induction before generalizing b with
    | nil =>
        cases hbefore
        exact bind_eq_error_iff.mpr (.inl ha)
    | cons x before ih =>
        obtain ⟨u, b₂, hx, hrest⟩ := bind_eq_ok_iff.mp hbefore
        exact bind_eq_error_iff.mpr (.inr ⟨u, b₂, hx, ih hrest⟩)

end Sequence

variable {x y : Build Unit} {d e : Octets}

/-- The computation writes `d`: it succeeds on every builder with room for it, and fails on any
other because of the limit. -/
structure Writes (x : Build Unit) (d : Octets) : Prop where
  aligned : d.length % 4 = 0
  ok (b : Builder) (h : b.length + align d.length ≤ b.limit) : x b = .ok () (b.extend d h)
  tooLarge (b : Builder) (h : b.limit < b.length + d.length) :
    ∃ n b', b.limit < n ∧ x b = .error (.tooLarge n b.limit) b'

/-- The computation fails on every builder, always because of a length. -/
def Refuses (x : Build Unit) : Prop := ∀ b, ∃ n m b', m < n ∧ x b = .error (.tooLarge n m) b'

theorem Writes.eq_ok_iff (hx : Writes x d) {b b' : Builder} :
    x b = .ok () b' ↔ ∃ h : b.length + align d.length ≤ b.limit, b' = b.extend d h := by
  constructor
  · intro hb
    by_cases h : b.length + align d.length ≤ b.limit
    · rw [hx.ok b h] at hb
      cases hb
      exact ⟨h, rfl⟩
    · rw [align_eq_self hx.aligned] at h
      obtain ⟨n, b'', _, hb'⟩ := hx.tooLarge b (Nat.not_le.mp h)
      rw [hb'] at hb
      cases hb
  · intro hex
    obtain ⟨h, rfl⟩ := hex
    exact hx.ok b h

theorem Writes.octets_eq (hx : Writes x d) {b b' : Builder} (h : x b = .ok () b') :
    b'.octets = b.octets ++ d := by
  obtain ⟨hroom, rfl⟩ := hx.eq_ok_iff.mp h
  rw [Builder.octets_extend, Octets.pad_eq_self hx.aligned]

theorem Refuses.ne_ok (hx : Refuses x) {b b' : Builder} : x b ≠ .ok () b' := by
  obtain ⟨n, m, b'', _, hb⟩ := hx b
  rw [hb]
  intro h
  cases h

theorem Writes.pure : Writes (pure ()) [] where
  aligned := rfl
  ok b h := by rw [Builder.extend_nil]; rfl
  tooLarge b h := absurd b.fits (Nat.not_le.mpr h)

theorem Writes.append (d : Octets) : Writes (append d) (Octets.pad d) where
  aligned := by rw [Octets.length_pad, align_mod_four]
  ok b h := by
    have h' : b.length + align d.length ≤ b.limit := by
      rwa [Octets.length_pad, align_eq_self (align_mod_four _)] at h
    rw [append_of_fits h', Builder.extend_pad h' h]
  tooLarge b h := by
    rw [Octets.length_pad] at h
    exact ⟨_, b, h, append_of_not_fits h⟩

/-- The filling is written anyway, so it does not matter whether it is there. -/
theorem append_pad (d : Octets) : append (Octets.pad d) = append d := by
  funext b
  have hl : align (Octets.pad d).length = align d.length := by
    rw [Octets.length_pad, align_eq_self (align_mod_four _)]
  by_cases h : b.length + align d.length ≤ b.limit
  · rw [append_of_fits h, append_of_fits (hl ▸ h), Builder.extend_pad h (hl ▸ h)]
  · rw [Nat.not_le] at h
    rw [append_of_not_fits h, append_of_not_fits (hl ▸ h), hl]

theorem bind_ok {b b' : Builder} (h : x b = .ok () b') : (x >>= fun _ => y) b = y b' := by
  simp only [bind, EStateM.bind, h]

theorem bind_error {b b' : Builder} {err : Error} (h : x b = .error err b') :
    (x >>= fun _ => y) b = .error err b' := by
  simp only [bind, EStateM.bind, h]

theorem Writes.bind (hx : Writes x d) (hy : Writes y e) :
    Writes (x >>= fun _ => y) (d ++ e) where
  aligned := by
    have := hx.aligned
    have := hy.aligned
    rw [List.length_append]
    omega
  ok b h := by
    have hd := align_eq_self hx.aligned
    have he := align_add e.length hx.aligned
    have h₁ : b.length + align d.length ≤ b.limit := by
      rw [List.length_append] at h
      omega
    have h₂ : (b.extend d h₁).length + align e.length ≤ (b.extend d h₁).limit := by
      rw [Builder.length_extend, Builder.limit_extend]
      rw [List.length_append] at h
      omega
    rw [bind_ok (hx.ok b h₁), hy.ok _ h₂, Builder.extend_extend hx.aligned h₁ h₂ h]
  tooLarge b h := by
    by_cases h₁ : b.length + align d.length ≤ b.limit
    · have hd := align_eq_self hx.aligned
      have h₂ : (b.extend d h₁).limit < (b.extend d h₁).length + e.length := by
        rw [Builder.length_extend, Builder.limit_extend]
        rw [List.length_append] at h
        omega
      obtain ⟨n, b', hn, hb'⟩ := hy.tooLarge _ h₂
      exact ⟨n, b', hn, by rw [bind_ok (hx.ok b h₁), hb']; rfl⟩
    · obtain ⟨n, b', hn, hb'⟩ := hx.tooLarge b (by have := align_eq_self hx.aligned; omega)
      exact ⟨n, b', hn, bind_error hb'⟩

theorem Refuses.bind (hx : Refuses x) : Refuses (x >>= fun _ => y) := by
  intro b
  obtain ⟨n, m, b', hn, hb'⟩ := hx b
  exact ⟨n, m, b', hn, bind_error hb'⟩

/-- Behind what can be written, a refusal stays one: either it is reached, or there is no room. -/
theorem Writes.bind_refuses (hx : Writes x d) (hy : Refuses y) :
    Refuses (x >>= fun _ => y) := by
  intro b
  by_cases h : b.length + align d.length ≤ b.limit
  · obtain ⟨n, m, b', hn, hb'⟩ := hy (b.extend d h)
    exact ⟨n, m, b', hn, by rw [bind_ok (hx.ok b h), hb']⟩
  · obtain ⟨n, b', hn, hb'⟩ := hx.tooLarge b (by have := align_eq_self hx.aligned; omega)
    exact ⟨n, b.limit, b', hn, bind_error hb'⟩

theorem attr_of_fits {t : UInt16} (h : Attr.headerLength + d.length ≤ Attr.maxLength) :
    attr t d = append ((Attr.Header.ofPayload t d.length).octets ++ d) := by
  rw [attr, if_neg (Nat.not_lt.mpr h)]

theorem Writes.attr {t : UInt16} (h : Attr.headerLength + d.length ≤ Attr.maxLength) :
    Writes (attr t d) (Attr.written t d) := by
  rw [attr_of_fits h]
  exact Writes.append _

theorem Refuses.attr {t : UInt16} (h : Attr.maxLength < Attr.headerLength + d.length) :
    Refuses (attr t d) := by
  intro b
  refine ⟨_, _, b, h, ?_⟩
  rw [Build.attr, if_pos h]
  rfl

def nestHeader (t : UInt16) : Octets := (Attr.Header.ofPayload (t ||| Attr.nestedFlag) 0).octets

theorem length_nestHeader (t : UInt16) : (nestHeader t).length = 4 := Attr.Header.length_octets _

theorem startNest_eq (t : UInt16) (b : Builder) :
    startNest t b = (append (nestHeader t) >>= fun _ => pure ⟨b.payload.length, b.aligned⟩) b := rfl

/-- A nest begins where the message ends. -/
theorem startNest_of_fits {t : UInt16} {b : Builder}
    (h : b.length + align (nestHeader t).length ≤ b.limit) :
    startNest t b = .ok ⟨b.payload.length, b.aligned⟩ (b.extend (nestHeader t) h) := by
  simp only [startNest_eq, bind, EStateM.bind, append_of_fits h]
  rfl

theorem startNest_of_not_fits {t : UInt16} {b : Builder}
    (h : b.limit < b.length + align (nestHeader t).length) : startNest t b =
      .error (.tooLarge (b.length + align (nestHeader t).length) b.limit) b := by
  simp only [startNest_eq, bind, EStateM.bind, append_of_not_fits h]

theorem startNest_cases (t : UInt16) (b : Builder) :
    (∃ h, startNest t b = .ok ⟨b.payload.length, b.aligned⟩ (b.extend (nestHeader t) h)) ∨
      ∃ n m, m < n ∧ startNest t b = .error (.tooLarge n m) b := by
  by_cases h : b.length + align (nestHeader t).length ≤ b.limit
  · exact .inl ⟨h, startNest_of_fits h⟩
  · rw [Nat.not_le] at h
    exact .inr ⟨_, _, h, startNest_of_not_fits h⟩

theorem nested_of_fits {t : UInt16} {b b' : Builder}
    (h : b.length + align (nestHeader t).length ≤ b.limit)
    (hx : x (b.extend (nestHeader t) h) = .ok () b') :
    nested t x b = endNest ⟨b.payload.length, b.aligned⟩ b' := by
  simp only [nested, bind, EStateM.bind, startNest_of_fits h, hx]

theorem nested_error {t : UInt16} {b b' : Builder} {err : Error}
    (h : b.length + align (nestHeader t).length ≤ b.limit)
    (hx : x (b.extend (nestHeader t) h) = .error err b') :
    nested t x b = .error err b' := by
  simp only [nested, bind, EStateM.bind, startNest_of_fits h, hx]

theorem nested_of_not_fits {t : UInt16} {b : Builder}
    (h : b.limit < b.length + align (nestHeader t).length) :
    nested t x b = .error (.tooLarge (b.length + align (nestHeader t).length) b.limit) b := by
  simp only [nested, bind, EStateM.bind, startNest_of_not_fits h]

theorem endNest_of_fits (nest : Builder.Nest) {b : Builder}
    (h : b.payload.length - nest.start ≤ Attr.maxLength) :
    endNest nest b = .ok () (b.setAttrLength nest.start (b.payload.length - nest.start)) := by
  change (ite _ _ _ : Build Unit) b = _
  rw [if_neg (Nat.not_lt.mpr h)]
  rfl

theorem endNest_of_not_fits (nest : Builder.Nest) {b : Builder}
    (h : Attr.maxLength < b.payload.length - nest.start) :
    endNest nest b = .error (.tooLarge (b.payload.length - nest.start) Attr.maxLength) b := by
  change (ite _ _ _ : Build Unit) b = _
  rw [if_pos h]
  rfl

theorem endNest_cases (nest : Builder.Nest) (b : Builder) :
    endNest nest b = .ok () (b.setAttrLength nest.start (b.payload.length - nest.start)) ∨
      ∃ n m, m < n ∧ endNest nest b = .error (.tooLarge n m) b := by
  by_cases h : b.payload.length - nest.start ≤ Attr.maxLength
  · exact .inl (endNest_of_fits nest h)
  · rw [Nat.not_le] at h
    exact .inr ⟨_, _, h, endNest_of_not_fits nest h⟩

/-- There is room for a nest when there is room for its header and then for its contents. -/
theorem room_nested_iff {t : UInt16} {b : Builder} (hd : d.length % 4 = 0) :
    b.length + align (Attr.written (t ||| Attr.nestedFlag) d).length ≤ b.limit ↔
      ∃ h : b.length + align (nestHeader t).length ≤ b.limit,
        (b.extend (nestHeader t) h).length + align d.length ≤
          (b.extend (nestHeader t) h).limit := by
  have hh : align (nestHeader t).length = 4 := by rw [length_nestHeader]; rfl
  have hw := align_eq_self (Attr.length_written_mod_four (t ||| Attr.nestedFlag) d)
  rw [hw, Attr.length_written_of_aligned _ hd]
  simp only [align_eq_self hd, Builder.length_extend, Builder.limit_extend, hh,
    Attr.headerLength, exists_prop]
  omega

/-- The length of a nest covers its header and all that was written since. -/
theorem nestLength_eq {t : UInt16} {b : Builder}
    (h : b.length + align (nestHeader t).length ≤ b.limit) (hd : d.length % 4 = 0)
    (h' : (b.extend (nestHeader t) h).length + align d.length ≤
      (b.extend (nestHeader t) h).limit) :
    ((b.extend (nestHeader t) h).extend d h').payload.length - b.payload.length =
      Attr.headerLength + d.length := by
  have hh : align (nestHeader t).length = 4 := by rw [length_nestHeader]; rfl
  simp only [Builder.payload_extend, List.length_append, Octets.length_pad, hh,
    align_eq_self hd, Attr.headerLength]
  omega

/-- Ending a nest makes it the written form of an attribute with the contents as payload. -/
theorem setAttrLength_extend {t : UInt16} {b : Builder}
    (h : b.length + align (nestHeader t).length ≤ b.limit) (hd : d.length % 4 = 0)
    (h' : (b.extend (nestHeader t) h).length + align d.length ≤
      (b.extend (nestHeader t) h).limit)
    (h'' : b.length + align (Attr.written (t ||| Attr.nestedFlag) d).length ≤ b.limit) :
    ((b.extend (nestHeader t) h).extend d h').setAttrLength b.payload.length
        (Attr.headerLength + d.length) =
      b.extend (Attr.written (t ||| Attr.nestedFlag) d) h'' := by
  ext1 <;> try rfl
  have hp : Octets.pad (nestHeader t) = nestHeader t :=
    Octets.pad_eq_self (by rw [length_nestHeader])
  have hw := Octets.pad_eq_self (Attr.length_written_mod_four (t ||| Attr.nestedFlag) d)
  rw [Builder.payload_extend h'', hw, Attr.written_of_aligned _ hd]
  simp only [Builder.setAttrLength, Builder.payload_extend, Octets.pad_eq_self hd, hp]
  simp only [nestHeader, Attr.Header.octets, Attr.Header.ofPayload, List.append_assoc,
    Octets.putU16_append]

theorem Writes.nested {t : UInt16} (hx : Writes x d)
    (h : Attr.headerLength + d.length ≤ Attr.maxLength) :
    Writes (nested t x) (Attr.written (t ||| Attr.nestedFlag) d) where
  aligned := Attr.length_written_mod_four _ _
  ok b hb := by
    obtain ⟨h₁, h₂⟩ := (room_nested_iff hx.aligned).mp hb
    have hn := nestLength_eq h₁ hx.aligned h₂
    rw [nested_of_fits h₁ (hx.ok _ h₂), endNest_of_fits _ (by rwa [hn]), hn,
      setAttrLength_extend h₁ hx.aligned h₂ hb]
  tooLarge b hb := by
    rw [← align_eq_self (Attr.length_written_mod_four _ _), ← Nat.not_le,
      room_nested_iff hx.aligned] at hb
    by_cases h₁ : b.length + align (nestHeader t).length ≤ b.limit
    · have h₂ := Nat.not_le.mp (fun h₂ => hb ⟨h₁, h₂⟩)
      rw [align_eq_self hx.aligned] at h₂
      obtain ⟨n, b', hn, hb'⟩ := hx.tooLarge _ h₂
      exact ⟨n, b', hn, nested_error h₁ hb'⟩
    · exact ⟨_, b, Nat.not_le.mp h₁, nested_of_not_fits (Nat.not_le.mp h₁)⟩

theorem Refuses.nested {t : UInt16} (hx : Refuses x) : Refuses (nested t x) := by
  intro b
  by_cases h : b.length + align (nestHeader t).length ≤ b.limit
  · obtain ⟨n, m, b', hn, hb'⟩ := hx (b.extend (nestHeader t) h)
    exact ⟨n, m, b', hn, nested_error h hb'⟩
  · exact ⟨_, _, b, Nat.not_le.mp h, nested_of_not_fits (Nat.not_le.mp h)⟩

/-- Contents too long for a length field are refused when their nest ends, if not before. -/
theorem Writes.nested_refuses {t : UInt16} (hx : Writes x d)
    (h : Attr.maxLength < Attr.headerLength + d.length) : Refuses (Build.nested t x) := by
  intro b
  by_cases h₁ : b.length + align (nestHeader t).length ≤ b.limit
  · by_cases h₂ : (b.extend (nestHeader t) h₁).length + align d.length ≤
        (b.extend (nestHeader t) h₁).limit
    · have hn := nestLength_eq h₁ hx.aligned h₂
      have he := endNest_of_not_fits ⟨b.payload.length, b.aligned⟩ (by rwa [hn])
      exact ⟨_, _, _, by rwa [hn], (nested_of_fits h₁ (hx.ok _ h₂)).trans he⟩
    · rw [align_eq_self hx.aligned] at h₂
      obtain ⟨n, b', hn, hb'⟩ := hx.tooLarge _ (Nat.not_le.mp h₂)
      exact ⟨n, _, b', hn, nested_error h₁ hb'⟩
  · exact ⟨_, _, b, Nat.not_le.mp h₁, nested_of_not_fits (Nat.not_le.mp h₁)⟩

end Build
end TrafficControl
