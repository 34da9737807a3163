import TrafficControl.Proofs.Writes

/-!
# Forests of attributes

An ordered forest of attributes, nested to any depth, is written leaf by leaf and nest by nest. The
writing succeeds exactly when there is room for the forest and every attribute in it, header
included, has a length that its length field can say. Reading what was written, level by level,
gives the forest back and leaves nothing over.

A forest is the empty one, or its first attribute with the forest behind it. The filling of a leaf
belongs to the attribute around it: a nest counts the filling of its children, a leaf not its own.
-/
namespace TrafficControl

abbrev PlainType := { t : UInt16 // t.toNat < Attr.typeBound }

inductive Forest where
  | nil
  | leaf (type : PlainType) (payload : Octets) (rest : Forest)
  | node (type : PlainType) (children rest : Forest)
deriving DecidableEq

namespace Forest

def write : Forest → Build Unit
  | nil => pure ()
  | leaf t d f => do
    Build.attr t d
    f.write
  | node t g f => do
    Build.nested t g.write
    f.write

/-- Octets of all the attributes with their headers and fillings. -/
def size : Forest → Nat
  | nil => 0
  | leaf _ d f => align (Attr.headerLength + d.length) + f.size
  | node _ g f => Attr.headerLength + g.size + f.size

/-- Every attribute with its header has a length that a length field can say. -/
def Fits : Forest → Prop
  | nil => True
  | leaf _ d f => Attr.headerLength + d.length ≤ Attr.maxLength ∧ f.Fits
  | node _ g f => Attr.headerLength + g.size ≤ Attr.maxLength ∧ g.Fits ∧ f.Fits

/-- The attributes are those of the forest, in order, and the payload of each node is read without
rest as the attributes of its children. -/
def Matches : Forest → List Attr → Prop
  | nil, as => as = []
  | leaf t d f, as => ∃ bs, as = ⟨t, d⟩ :: bs ∧ f.Matches bs
  | node t g f, as => ∃ p bs, as = ⟨t, p⟩ :: bs ∧
      (Attr.leftover p = [] ∧ g.Matches (Attr.list p)) ∧ f.Matches bs

/-- Reading `d` gives the forest and leaves nothing over. -/
def ReadFrom (f : Forest) (d : Octets) : Prop := Attr.leftover d = [] ∧ f.Matches (Attr.list d)

def octets : Forest → Octets
  | nil => []
  | leaf t d f => Attr.written t d ++ f.octets
  | node t g f => Attr.written (t ||| Attr.nestedFlag) g.octets ++ f.octets

theorem length_octets_mod_four (f : Forest) : f.octets.length % 4 = 0 := by
  induction f with
  | nil => rfl
  | leaf t d f ih =>
      have := Attr.length_written_mod_four t d
      rw [octets, List.length_append]
      omega
  | node t g f _ ih =>
      have := Attr.length_written_mod_four (t ||| Attr.nestedFlag) g.octets
      rw [octets, List.length_append]
      omega

theorem length_octets (f : Forest) : f.octets.length = f.size := by
  induction f with
  | nil => rfl
  | leaf t d f ih => rw [octets, size, List.length_append, Attr.length_written, ih]
  | node t g f ihg ih =>
      have hg := Attr.length_written_of_aligned (t ||| Attr.nestedFlag) g.length_octets_mod_four
      rw [octets, size, List.length_append, hg, ihg, ih]

theorem writes_octets {f : Forest} (h : f.Fits) : Build.Writes f.write f.octets := by
  induction f with
  | nil => exact .pure
  | leaf t d f ih =>
      obtain ⟨hd, hf⟩ := h
      exact (Build.Writes.attr hd).bind (ih hf)
  | node t g f ihg ih =>
      obtain ⟨hn, hg, hf⟩ := h
      rw [← length_octets] at hn
      exact ((ihg hg).nested hn).bind (ih hf)

/-- A length that its field cannot say is refused where it stands. What comes before it either can
be written or is refused itself. -/
theorem refuses_of_not_fits {f : Forest} (h : ¬ f.Fits) : Build.Refuses f.write := by
  induction f with
  | nil => exact absurd trivial h
  | leaf t d f ih =>
      by_cases hd : Attr.headerLength + d.length ≤ Attr.maxLength
      · exact (Build.Writes.attr hd).bind_refuses (ih (fun hf => h ⟨hd, hf⟩))
      · exact (Build.Refuses.attr (Nat.not_le.mp hd)).bind
  | node t g f ihg ih =>
      by_cases hg : g.Fits
      · have hw := writes_octets hg
        by_cases hn : Attr.headerLength + g.octets.length ≤ Attr.maxLength
        · refine (hw.nested hn).bind_refuses (ih (fun hf => h ⟨?_, hg, hf⟩))
          rwa [← length_octets]
        · exact (hw.nested_refuses (Nat.not_le.mp hn)).bind
      · exact (ihg hg).nested.bind

theorem readFrom_octets {f : Forest} (h : f.Fits) : f.ReadFrom f.octets := by
  induction f with
  | nil => exact ⟨Attr.leftover_nil, Attr.list_nil⟩
  | leaf t d f ih =>
      obtain ⟨hd, hf⟩ := h
      obtain ⟨hl, hm⟩ := ih hf
      refine ⟨(Attr.leftover_written_append _ hd).trans hl, _, ?_, hm⟩
      rw [octets, Attr.list_written_append _ hd, Attr.and_typeMask t.property]
  | node t g f ihg ih =>
      obtain ⟨hn, hg, hf⟩ := h
      obtain ⟨hl, hm⟩ := ih hf
      rw [← length_octets] at hn
      refine ⟨(Attr.leftover_written_append _ hn).trans hl, _, _, ?_, ihg hg, hm⟩
      rw [octets, Attr.list_written_append _ hn, Attr.or_nestedFlag_and_typeMask,
        Attr.and_typeMask t.property]

theorem octets_extend {b : Builder} {d : Octets} (hd : d.length % 4 = 0)
    (h : b.length + align d.length ≤ b.limit) : (b.extend d h).octets = b.octets ++ d := by
  rw [Builder.octets_extend, Octets.pad_eq_self hd]

/-- Writing a forest into any builder, whatever it holds, succeeds exactly when the forest has room
and every length in it can be said. It then adds octets behind those there are, and reading these
gives the forest. -/
theorem write_ok_iff_and_readFrom (f : Forest) (b : Builder) :
    ((∃ b', f.write b = .ok () b') ↔ b.length + f.size ≤ b.limit ∧ f.Fits) ∧
      ∀ b', f.write b = .ok () b' →
        ∃ d, b'.octets = b.octets ++ d ∧ d.length = f.size ∧ f.ReadFrom d := by
  by_cases hf : f.Fits
  · have hw := writes_octets hf
    have hr : b.length + align f.octets.length ≤ b.limit ↔ b.length + f.size ≤ b.limit := by
      rw [align_eq_self hw.aligned, length_octets]
    constructor
    · constructor
      · intro hex
        obtain ⟨b', hb⟩ := hex
        obtain ⟨h, -⟩ := hw.eq_ok_iff.mp hb
        exact ⟨hr.mp h, hf⟩
      · intro hroom
        obtain ⟨h, -⟩ := hroom
        exact ⟨_, hw.ok b (hr.mpr h)⟩
    · intro b' hb
      obtain ⟨h, rfl⟩ := hw.eq_ok_iff.mp hb
      exact ⟨f.octets, octets_extend hw.aligned h, f.length_octets, readFrom_octets hf⟩
  · have hw := refuses_of_not_fits hf
    constructor
    · constructor
      · intro hex
        obtain ⟨b', hb⟩ := hex
        exact absurd hb hw.ne_ok
      · intro hroom
        exact absurd hroom.2 hf
    · intro b' hb
      exact absurd hb hw.ne_ok

end Forest
end TrafficControl
