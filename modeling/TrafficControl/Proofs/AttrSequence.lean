import Mathlib.Data.List.Induction
import TrafficControl.Proofs.SizePolicy
import TrafficControl.Proofs.Writes

/-!
# Sequences of attributes

Most computations on a builder write attributes, one behind the other, some of them only where a
value is set. What such a computation writes is given by the attributes that reading yields, each
with its type and its payload; the payload of a nest is what its contents write. A table made of the
written attributes holds the last payload of each type, and passes when these obey their rules.
-/
namespace TrafficControl

namespace Attr

/-- Octets of attributes with their headers and fillings. -/
def sizeAll : List Attr → Nat
  | [] => 0
  | a :: as => align (headerLength + a.payload.length) + sizeAll as

theorem sizeAll_append (as bs : List Attr) : sizeAll (as ++ bs) = sizeAll as + sizeAll bs := by
  induction as with
  | nil => simp [sizeAll]
  | cons a as ih =>
      rw [List.cons_append, sizeAll, ih, sizeAll]
      omega

theorem sizeAll_singleton (a : Attr) :
    sizeAll [a] = align (headerLength + a.payload.length) := rfl

theorem sizeAll_map_le {α : Type} {f : α → Attr} {l : List α} {k : Nat}
    (h : ∀ v ∈ l, align (headerLength + (f v).payload.length) ≤ k) :
    sizeAll (l.map f) ≤ l.length * k := by
  induction l with
  | nil => simp [sizeAll]
  | cons v l ih =>
      have hv := h v List.mem_cons_self
      have hl := ih fun w hw => h w (List.mem_cons_of_mem v hw)
      rw [List.map_cons, sizeAll, List.length_cons, Nat.succ_mul]
      omega

def optional (type : UInt16) (d : Option Octets) : List Attr := d.toList.map (⟨type, ·⟩)

/-- A payload of at most four octets takes at most two words. -/
theorem sizeAll_optional_le {t : UInt16} {d : Option Octets} (h : ∀ p ∈ d, p.length ≤ 4) :
    sizeAll (optional t d) ≤ 8 := by
  cases d with
  | none => simp [optional, sizeAll]
  | some p =>
      have := h p rfl
      have := align_lt (headerLength + p.length)
      have := align_mod_four (headerLength + p.length)
      simp only [optional, Option.toList_some, List.map_cons, List.map_nil, sizeAll_singleton,
        headerLength] at *
      omega

end Attr

namespace Build

variable {x y : Build Unit} {d : Octets} {as bs : List Attr}

/-- The computation writes octets that are read as these attributes, whatever follows them. -/
def Yields (x : Build Unit) (as : List Attr) : Prop :=
  ∃ d, Writes x d ∧ d.length = Attr.sizeAll as ∧ ∀ r, Attr.list (d ++ r) = as ++ Attr.list r

theorem Yields.pure : Yields (pure ()) [] := ⟨[], .pure, rfl, fun _ => rfl⟩

theorem Yields.bind (hx : Yields x as) (hy : Yields y bs) :
    Yields (x >>= fun _ => y) (as ++ bs) := by
  obtain ⟨d, hd, hdl, hdr⟩ := hx
  obtain ⟨e, he, hel, her⟩ := hy
  refine ⟨d ++ e, hd.bind he, ?_, fun r => ?_⟩
  · rw [List.length_append, Attr.sizeAll_append, hdl, hel]
  · rw [List.append_assoc, hdr, her, List.append_assoc]

theorem Yields.attr {t : UInt16} (ht : t.toNat < Attr.typeBound)
    (h : Attr.headerLength + d.length ≤ Attr.maxLength) : Yields (attr t d) [⟨t, d⟩] := by
  refine ⟨_, .attr h, ?_, fun r => ?_⟩
  · rw [Attr.length_written, Attr.sizeAll_singleton]
  · rw [Attr.list_written_append r h, Attr.and_typeMask ht]
    rfl

theorem Yields.attrU8 {t : UInt16} (ht : t.toNat < Attr.typeBound) (n : UInt8) :
    Yields (attrU8 t n) [⟨t, [n]⟩] :=
  .attr ht (by rw [List.length_singleton]; decide)

theorem Yields.attrU16 {t : UInt16} (ht : t.toNat < Attr.typeBound) (n : UInt16) :
    Yields (attrU16 t n) [⟨t, Octets.u16 n⟩] :=
  .attr ht (by rw [Octets.length_u16]; decide)

theorem Yields.attrU16BE {t : UInt16} (ht : t.toNat < Attr.typeBound) (n : UInt16) :
    Yields (attrU16BE t n) [⟨t, Octets.u16BE n⟩] :=
  .attr ht (by rw [Octets.length_u16BE]; decide)

theorem Yields.attrU32 {t : UInt16} (ht : t.toNat < Attr.typeBound) (n : UInt32) :
    Yields (attrU32 t n) [⟨t, Octets.u32 n⟩] :=
  .attr ht (by rw [Octets.length_u32]; decide)

theorem Yields.nested {t : UInt16} (ht : t.toNat < Attr.typeBound) (hx : Writes x d)
    (h : Attr.headerLength + d.length ≤ Attr.maxLength) : Yields (nested t x) [⟨t, d⟩] := by
  refine ⟨_, hx.nested h, ?_, fun r => ?_⟩
  · rw [Attr.length_written, Attr.sizeAll_singleton]
  · rw [Attr.list_written_append r h, Attr.or_nestedFlag_and_typeMask, Attr.and_typeMask ht]
    rfl

theorem Yields.optional {α : Type} {t : UInt16} {f : α → Build Unit} {g : α → Octets}
    (h : ∀ v, Yields (f v) [⟨t, g v⟩]) (o : Option α) :
    Yields (o.forM f) (Attr.optional t (o.map g)) := by
  cases o with
  | none => exact .pure
  | some v => exact h v

theorem Yields.forM {α : Type} {f : α → Build Unit} {g : α → Attr} {l : List α}
    (h : ∀ v ∈ l, Yields (f v) [g v]) : Yields (l.forM f) (l.map g) := by
  induction l with
  | nil => exact .pure
  | cons v l ih =>
      have hv := h v List.mem_cons_self
      exact hv.bind (ih fun w hw => h w (List.mem_cons_of_mem v hw))

/-- The octets that a computation writes, when it is all there is to read. -/
theorem Yields.writes (hx : Yields x as) :
    ∃ d, Writes x d ∧ d.length = Attr.sizeAll as ∧ Attr.list d = as := by
  obtain ⟨d, hd, hl, hr⟩ := hx
  refine ⟨d, hd, hl, ?_⟩
  have := hr []
  rwa [List.append_nil, Attr.list_nil, List.append_nil] at this

/-- Another wording of failures that keeps those about a length does not touch what is written. -/
theorem Writes.adaptExcept {f : Error → Error} (hx : Writes x d)
    (hf : ∀ n m, f (.tooLarge n m) = .tooLarge n m) : Writes (x.adaptExcept f) d where
  aligned := hx.aligned
  ok b h := by rw [EStateM.adaptExcept, hx.ok b h]
  tooLarge b h := by
    obtain ⟨n, b', hn, hb'⟩ := hx.tooLarge b h
    exact ⟨n, b', hn, by simp only [EStateM.adaptExcept, hb', hf]⟩

end Build

namespace Table

theorem last?_append (i : Nat) (as bs : List Attr) :
    last? i (as ++ bs) = (last? i bs).or (last? i as) := by
  simp only [last?, List.reverse_append, List.find?_append, Option.map_or]

theorem last?_singleton (i : Nat) (a : Attr) :
    last? i [a] = if a.type.toNat = i then some a.payload else none := by
  by_cases h : a.type.toNat = i <;> simp [last?, h]

theorem last?_optional (i : Nat) (t : UInt16) (d : Option Octets) :
    last? i (Attr.optional t d) = if t.toNat = i then d else none := by
  cases d with
  | none => simp [Attr.optional, last?]
  | some p => exact last?_singleton i ⟨t, p⟩

/-- A type that counts the places of a list finds the element at its place. -/
theorem last?_mapIdx {α : Type} {f : α → Octets} {l : List α} (hl : l.length < 2 ^ 16)
    (j : Nat) :
    last? (j + 1) (l.mapIdx fun i a => ⟨UInt16.ofNat (i + 1), f a⟩) = l[j]?.map f := by
  induction l using List.reverseRecOn with
  | nil => rfl
  | append_singleton l a ih =>
      rw [List.length_append, List.length_singleton] at hl
      have hn : (UInt16.ofNat (l.length + 1)).toNat = l.length + 1 :=
        UInt16.toNat_ofNat_of_lt' hl
      rw [List.mapIdx_concat, last?_append, ih (by omega), last?_singleton, hn]
      by_cases h : l.length = j
      · subst h
        simp
      · rw [if_neg (by omega), Option.none_or, List.getElem?_append]
        split
        · rfl
        · rw [List.getElem?_eq_none (by omega), List.getElem?_eq_none]
          simp
          omega

end Table

/-- Octets whose attributes obey the rules pass the check, and their table has the last payload of
each type. -/
theorem Table.readChecked_of_list {n : Nat} {rules : List (Nat × Rule)} {d : Octets}
    {as : List Attr} (policy : Policy) (hp : policy = .ofRules n rules) (h : Attr.list d = as)
    (hr : ∀ e ∈ rules, ∀ p, last? e.1 as = some p → e.2.minLength ≤ p.length) :
    ∃ t, readChecked policy d = .ok t ∧ ∀ i < n, t.get i = last? i as := by
  have hshort (b : Attr) (r : Rule) (hb : b.IsLastIn (Attr.list d)) : ¬ b.IsShort policy r := by
    intro hs
    have hlast : last? b.type.toNat as = some b.payload :=
      h ▸ last?_eq_some_iff.mpr ⟨b, hb, rfl, rfl⟩
    exact absurd hs.lt (Nat.not_lt.mpr (hr _ (hp ▸ hs).mem _ hlast))
  refine ⟨_, readChecked_eq_ok_iff.mpr ⟨hshort, rfl⟩, fun i hi => ?_⟩
  rw [get_read d (by rwa [hp, Policy.length_ofRules]), h]

end TrafficControl
