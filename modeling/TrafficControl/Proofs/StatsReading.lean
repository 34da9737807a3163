import TrafficControl.Proofs.SizePolicy
import TrafficControl.Proofs.WrittenAttr

/-!
# Reading statistics

Statistics come from the last attribute of each type, whatever their order is, how often each of
them stands there, and what stands between them. A category is there exactly when one of its
attributes is. The wide rates hide the narrow ones wherever either stands, and the two rates are
always those of one attribute. Behind the policy every structure that is read is all there.
-/
namespace TrafficControl.Stats

/-- The statistics that attributes report: of each category, what the last attribute says. -/
structure IsReport (as : List Attr) (s : Stats) : Prop where
  basic_iff : s.isPresent { basic := true } ↔ ∃ a ∈ as, a.type = 1
  basic {a : Attr} (ha : a.IsLastIn as) (ht : a.type = 1) :
    12 ≤ a.payload.length ∧ s.get .bytes = some (Octets.u64At a.payload 0) ∧
      s.get .packets = some (Octets.u32At a.payload 8).toUInt64
  queue_iff : s.isPresent { queue := true } ↔ ∃ a ∈ as, a.type = 3
  queue {a : Attr} (ha : a.IsLastIn as) (ht : a.type = 3) :
    20 ≤ a.payload.length ∧ s.get .drops = some (Octets.u32At a.payload 8).toUInt64 ∧
      s.get .overlimits = some (Octets.u32At a.payload 16).toUInt64
  rate_iff : s.isPresent { rate := true } ↔ ∃ a ∈ as, a.type = 2 ∨ a.type = 5
  wideRate {a : Attr} (ha : a.IsLastIn as) (ht : a.type = 5) :
    16 ≤ a.payload.length ∧ s.get .byteRate = some (Octets.u64At a.payload 0) ∧
      s.get .packetRate = some (Octets.u64At a.payload 8)
  narrowRate {a : Attr} (hwide : ∀ b ∈ as, b.type ≠ 5) (ha : a.IsLastIn as) (ht : a.type = 2) :
    8 ≤ a.payload.length ∧ s.get .byteRate = some (Octets.u32At a.payload 0).toUInt64 ∧
      s.get .packetRate = some (Octets.u32At a.payload 4).toUInt64
  absent (k : Stat) (h : ¬ s.isPresent k.category) : s.get k = none ∧ s.value k = 0

/-- Every known attribute holds its structure. -/
structure IsLongEnough (a : Attr) : Prop where
  basic (h : a.type = 1) : 12 ≤ a.payload.length
  rate (h : a.type = 2) : 8 ≤ a.payload.length
  queue (h : a.type = 3) : 20 ≤ a.payload.length
  wideRate (h : a.type = 5) : 16 ≤ a.payload.length

variable {d : Octets} {s : Stats}

theorem IsLongEnough.not_isShort {a : Attr} (h : IsLongEnough a) (r : Rule) :
    ¬ a.IsShort policy r := by
  intro hr
  have hlt := hr.lt
  have hmem := hr.mem
  simp only [List.mem_cons, Prod.mk.injEq, List.not_mem_nil, or_false] at hmem
  rcases hmem with ⟨ht, rfl⟩ | ⟨ht, rfl⟩ | ⟨ht, rfl⟩ | ⟨ht, rfl⟩
  · exact absurd hlt (Nat.not_lt.mpr (h.basic (UInt16.toNat_inj.mp ht)))
  · exact absurd hlt (Nat.not_lt.mpr (h.rate (UInt16.toNat_inj.mp ht)))
  · exact absurd hlt (Nat.not_lt.mpr (h.queue (UInt16.toNat_inj.mp ht)))
  · exact absurd hlt (Nat.not_lt.mpr (h.wideRate (UInt16.toNat_inj.mp ht)))

section Table

variable {t : Table} {p : Octets}

theorem basic_ofTable (h : t.get basicType = some p) :
    (ofTable t).basic = some (Octets.u64At p 0, (Octets.u32At p 8).toUInt64) := by
  rw [ofTable, h]
  rfl

theorem queue_ofTable (h : t.get queueType = some p) : (ofTable t).queue =
    some ((Octets.u32At p 8).toUInt64, (Octets.u32At p 16).toUInt64) := by
  rw [ofTable, h]
  rfl

theorem rate_ofTable (h : t.get rate64Type = some p) :
    (ofTable t).rate = some (Octets.u64At p 0, Octets.u64At p 8) := by
  rw [ofTable, h]

theorem rate_ofTable_of_none (h : t.get rate64Type = none) (hp : t.get rateType = some p) :
    (ofTable t).rate = some ((Octets.u32At p 0).toUInt64, (Octets.u32At p 4).toUInt64) := by
  rw [ofTable, h, hp]
  rfl

theorem isSome_rate_ofTable (t : Table) : (ofTable t).rate.isSome =
    ((t.get rateType).isSome || (t.get rate64Type).isSome) := by
  rw [ofTable]
  cases t.get rate64Type <;> simp

end Table

/-- What was decoded is what the attributes report, provided that no last attribute is too short. -/
theorem isReport_ofTable
    (h : Attr.Admitted policy (Attr.list d)) :
    (ofTable (Table.read policy.length d)).IsReport (Attr.list d) where
  basic_iff := by
    rw [← Table.isSome_get_read_iff (n := policy.length) d 1 (by decide)]
    simp [isPresent, present, Categories.contains, ofTable, basicType]
  basic ha ht := by
    have hp := Table.get_read_of_isLastIn (n := policy.length) ha ht (by decide)
    have hbasic := basic_ofTable hp
    have hle := Attr.le_length_of_not_isShort (h _ ⟨"TCA_STATS_BASIC", 12⟩ ha) ht rfl
    exact ⟨hle, by rw [get, hbasic]; rfl, by rw [get, hbasic]; rfl⟩
  queue_iff := by
    rw [← Table.isSome_get_read_iff (n := policy.length) d 3 (by decide)]
    simp [isPresent, present, Categories.contains, ofTable, queueType]
  queue ha ht := by
    have hp := Table.get_read_of_isLastIn (n := policy.length) ha ht (by decide)
    have hqueue := queue_ofTable hp
    have hle := Attr.le_length_of_not_isShort (h _ ⟨"TCA_STATS_QUEUE", 20⟩ ha) ht rfl
    exact ⟨hle, by rw [get, hqueue]; rfl, by rw [get, hqueue]; rfl⟩
  rate_iff := by
    have hnarrow := Table.isSome_get_read_iff (n := policy.length) d 2 (by decide)
    have hwide := Table.isSome_get_read_iff (n := policy.length) d 5 (by decide)
    simp only [and_or_left, exists_or, ← hnarrow, ← hwide, isPresent, present,
      Categories.contains, isSome_rate_ofTable, rateType, rate64Type]
    simp
  wideRate ha ht := by
    have hp := Table.get_read_of_isLastIn (n := policy.length) ha ht (by decide)
    have hrate := rate_ofTable hp
    have hle := Attr.le_length_of_not_isShort (h _ ⟨"TCA_STATS_RATE_EST64", 16⟩ ha) ht rfl
    exact ⟨hle, by rw [get, hrate]; rfl, by rw [get, hrate]; rfl⟩
  narrowRate hwide ha ht := by
    have hnone : (Table.read policy.length d).get rate64Type = none := by
      rw [← Option.not_isSome_iff_eq_none]
      intro hsome
      obtain ⟨b, hb, ht⟩ :=
        (Table.isSome_get_read_iff (n := policy.length) d 5 (by decide)).mp hsome
      exact hwide b hb ht
    have hp := Table.get_read_of_isLastIn (n := policy.length) ha ht (by decide)
    have hrate := rate_ofTable_of_none hnone hp
    have hle := Attr.le_length_of_not_isShort (h _ ⟨"TCA_STATS_RATE_EST", 8⟩ ha) ht rfl
    exact ⟨hle, by rw [get, hrate]; rfl, by rw [get, hrate]; rfl⟩
  absent k hk := by
    have hnone : (ofTable (Table.read policy.length d)).get k = none := by
      rw [← Option.not_isSome_iff_eq_none, isSome_get]
      exact hk
    exact ⟨hnone, by rw [value, hnone]; rfl⟩

theorem decode_eq_ok_iff : decode d = .ok s ↔
    Attr.Admitted policy (Attr.list d) ∧
      s = ofTable (Table.read policy.length d) := by
  have hdecode : decode d = (Table.readChecked policy d).map ofTable := by
    rw [decode]
    cases Table.readChecked policy d <;> rfl
  rw [hdecode]
  constructor
  · intro h
    obtain ⟨t, ht, rfl⟩ := exists_eq_ok_of_map_eq_ok h
    obtain ⟨hshort, rfl⟩ := Table.readChecked_eq_ok_iff.mp ht
    exact ⟨hshort, rfl⟩
  · intro h
    rw [Table.readChecked_eq_ok_iff.mpr ⟨h.1, rfl⟩, h.2]
    rfl

/-- Statistics in which no known attribute is too short are read, and whatever is read is what the
last attributes report. -/
theorem decode_reports_last (d : Octets) :
    ((∀ a ∈ Attr.list d, IsLongEnough a) → ∃ s, decode d = .ok s) ∧
      ∀ s, decode d = .ok s → s.IsReport (Attr.list d) := by
  constructor
  · intro h
    have hlong : Attr.AllLong policy (Attr.list d) := fun a ha => (h a ha).not_isShort
    exact ⟨_, decode_eq_ok_iff.mpr ⟨hlong.admitted, rfl⟩⟩
  · intro s hs
    obtain ⟨hshort, rfl⟩ := decode_eq_ok_iff.mp hs
    exact isReport_ofTable hshort

/-- Both rates with the wide ones in front, two basic attributes of which the last one is too long,
an attribute that is not known, and an end that is no attribute. -/
def mixed : Octets :=
  Attr.written 5 (Octets.u32 7 ++ Octets.u32 1 ++ Octets.u32 8 ++ Octets.u32 0) ++
    Attr.written 1 (Octets.u32 1 ++ Octets.u32 0 ++ Octets.u32 1) ++ Attr.written 7 [1] ++
    Attr.written 2 (Octets.u32 2 ++ Octets.u32 3) ++
    Attr.written 3 (Octets.u32 1 ++ Octets.u32 2 ++ Octets.u32 3 ++ Octets.u32 4 ++ Octets.u32 5) ++
    Attr.written 1 (Octets.u32 900 ++ Octets.u32 0 ++ Octets.u32 4 ++ [255]) ++ [9, 0]

theorem decode_reports_last_mixed :
    (∀ a ∈ Attr.list mixed, IsLongEnough a) ∧
      ∃ s, decode mixed = .ok s ∧ s.IsReport (Attr.list mixed) ∧
        s = { basic := some (900, 4), rate := some (0x100000007, 8), queue := some (3, 5) } := by
  have hlong : ∀ a ∈ Attr.list mixed, (a.type = 1 → 12 ≤ a.payload.length) ∧
      (a.type = 2 → 8 ≤ a.payload.length) ∧ (a.type = 3 → 20 ≤ a.payload.length) ∧
      (a.type = 5 → 16 ≤ a.payload.length) := by decide +kernel
  have henough : ∀ a ∈ Attr.list mixed, IsLongEnough a := fun a ha =>
    ⟨(hlong a ha).1, (hlong a ha).2.1, (hlong a ha).2.2.1, (hlong a ha).2.2.2⟩
  have hvalue : decode mixed =
      .ok { basic := some (900, 4), rate := some (0x100000007, 8), queue := some (3, 5) } := by
    decide +kernel
  obtain ⟨s, hs⟩ := (decode_reports_last mixed).1 henough
  exact ⟨henough, s, hs, (decode_reports_last mixed).2 s hs, Except.ok.inj (hs.symm.trans hvalue)⟩

end TrafficControl.Stats
