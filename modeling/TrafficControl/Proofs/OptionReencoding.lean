import TrafficControl.Proofs.OptionReading
import TrafficControl.Proofs.OptionRoundTrip

/-!
# Writing what was read

Options that were read can hold more than the constructors make, and they are written and read
again. Nothing is lost of a mirror, of an edit of metadata and of a tag. A plain verdict loses a
share whose mode says that there is none, which it can only have from an attribute that says so
itself; the share was never in force. What is read the second time is written like what was read
first.
-/
namespace TrafficControl

namespace Configuration

/-- `c` is written in few octets, wherever there is room for them. They are read as `c'`, which is
written in the same way. -/
def RewrittenAs {α : Type} [Configuration α] (c c' : α) : Prop :=
  ∃ o, Build.Writes (write c) o ∧ o.length ≤ maxLength ∧ parse o = .ok c' ∧ write c' = write c

theorem ReadsBack.rewrittenAs {α : Type} [Configuration α] {c : α} (h : ReadsBack c) :
    RewrittenAs c c := by
  obtain ⟨o, ho, hl, hp⟩ := h
  exact ⟨o, ho, hl, hp, rfl⟩

end Configuration

namespace Gact

theorem rewrittenAs_normal (g : Gact) : Configuration.RewrittenAs g g.normal := by
  obtain ⟨o, ho, hl, hlist⟩ := g.yields_write.writes
  exact ⟨o, ho, hl ▸ g.sizeAll_attrs_le, parse_of_list hlist, g.write_normal⟩

variable {d : Octets} {g : Gact}

theorem stated?_of_parse (h : parse d = .ok g) : stated? (Attr.list d) = some g := by
  rw [parse_of_admitted (Table.admitted_of_bind h)] at h
  cases hs : stated? (Attr.list d) with
  | none =>
      rw [hs] at h
      cases h
  | some c =>
      rw [hs] at h
      exact congrArg some (Except.ok.inj h)

/-- The share comes from the last attribute of its type, and without one there is none. -/
theorem share_of_parse (h : parse d = .ok g) :
    g.mode = (Attr.lastU16? (Attr.list d) 3 0).getD always ∧
      g.share = (Attr.lastU16? (Attr.list d) 3 2).getD 0 ∧
      g.other = (Attr.lastI32? (Attr.list d) 3 4).getD Verdict.pass := by
  have hs := stated?_of_parse h
  simp only [stated?, Option.bind_eq_bind, Option.bind_eq_some_iff] at hs
  obtain ⟨index, -, verdict, -, hg⟩ := hs
  obtain rfl := Option.some.inj hg
  exact ⟨rfl, rfl, rfl⟩

/-- A share is lost exactly when the last attribute of its type denies it and still gives it. -/
theorem normal_eq_self_iff_of_parse (h : parse d = .ok g) :
    g.normal = g ↔ ∀ a : Attr, a.IsLastIn (Attr.list d) → a.type = 3 →
      Octets.u16At a.payload 0 = always →
        Octets.u16At a.payload 2 = 0 ∧ Octets.i32At a.payload 4 = Verdict.pass := by
  obtain ⟨hmode, hshare, hother⟩ := share_of_parse h
  rw [normal_eq_self_iff, hmode, hshare, hother, Attr.lastU16?_eq, Attr.lastU16?_eq,
    Attr.lastI32?_eq]
  refine Iff.trans ?_ (Table.forall_mem_last?_iff (P := fun p => Octets.u16At p 0 = always →
    Octets.u16At p 2 = 0 ∧ Octets.i32At p 4 = Verdict.pass))
  cases Table.last? (3 : UInt16).toNat (Attr.list d) <;> simp

end Gact

/-- What was read of a built-in kind can be written, and is read again. Only a plain verdict can
change: a share that its mode denies comes back empty. -/
theorem Configuration.rewritten_of_parse (d : Octets) :
    (∀ m : Mirred, parse d = .ok m → RewrittenAs m m) ∧
    (∀ s : Skbedit, parse d = .ok s → RewrittenAs s s) ∧
    (∀ v : Vlan, parse d = .ok v → RewrittenAs v v) ∧
    ∀ g : Gact, parse d = .ok g → ∃ g', RewrittenAs g g' ∧ g'.index = g.index ∧
      g'.verdict = g.verdict ∧ g'.probability = g.probability ∧
      (g.mode ≠ Gact.always → g' = g) ∧
      (g.mode = Gact.always → g' = { g with share := 0, other := .pass }) ∧
      (g' = g ↔ ∀ a : Attr, a.IsLastIn (Attr.list d) → a.type = 3 →
        Octets.u16At a.payload 0 = Gact.always →
          Octets.u16At a.payload 2 = 0 ∧ Octets.i32At a.payload 4 = Verdict.pass) := by
  refine ⟨fun m _ => m.readsBack.rewrittenAs, fun s _ => s.readsBack.rewrittenAs,
    fun v _ => v.readsBack.rewrittenAs, fun g hg => ⟨g.normal, g.rewrittenAs_normal, g.index_normal,
    g.verdict_normal, g.probability_normal, Gact.normal_of_ne_always, fun hm => ?_,
    Gact.normal_eq_self_iff_of_parse hg⟩⟩
  obtain ⟨index, verdict, mode, share, other⟩ := g
  rw [Gact.normal_of_always hm]
  exact congrArg (Gact.mk index verdict · 0 .pass) hm.symm

/-- A plain verdict with a share of five and another verdict, and a mode that says that there is no
share. -/
def Gact.denied : Octets :=
  Attr.written 2 (Params.of 7 .drop).octets ++
    Attr.written 3 (Octets.u16 always ++ Octets.u16 5 ++ Octets.i32 Verdict.reclassify)

theorem Configuration.rewritten_of_parse_denied :
    (∃ g', RewrittenAs (Gact.mk 7 .drop Gact.always 5 .reclassify) g' ∧
        g' = Gact.drop.withIndex 7) ∧
      RewrittenAs (Vlan.mk 7 2 (some 100) (some 5) 0x8100 .pipe)
        (Vlan.mk 7 2 (some 100) (some 5) 0x8100 .pipe) := by
  have hgact : Gact.parse Gact.denied = .ok ⟨7, .drop, Gact.always, 5, .reclassify⟩ := by
    decide +kernel
  have hvlan : Vlan.parse Vlan.untidy = .ok ⟨7, 2, some 100, some 5, 0x8100, .pipe⟩ := by
    decide +kernel
  obtain ⟨g', hg', -, -, -, -, heq, -⟩ := (rewritten_of_parse Gact.denied).2.2.2 _ hgact
  exact ⟨⟨g', hg', heq rfl⟩, (rewritten_of_parse Vlan.untidy).2.2.1 _ hvlan⟩

/-- The share of five and its verdict are lost. -/
theorem Configuration.rewritten_ne_denied :
    Gact.parse Gact.denied = .ok ⟨7, .drop, Gact.always, 5, .reclassify⟩ ∧
      ∃ (o : Octets) (g' : Gact),
        Build.Writes (Gact.write ⟨7, .drop, Gact.always, 5, .reclassify⟩) o ∧
        Gact.parse o = .ok g' ∧ g' ≠ ⟨7, .drop, Gact.always, 5, .reclassify⟩ := by
  obtain ⟨o, ho, -, hp, -⟩ := Gact.rewrittenAs_normal ⟨7, .drop, Gact.always, 5, .reclassify⟩
  exact ⟨by decide +kernel, o, _, ho, hp, by decide⟩

end TrafficControl
