import Mathlib.Data.List.Chain
import TrafficControl.Stats

/-!
# Differences of statistics

A difference of two samples has the categories that both have. It takes rates from the later sample
and lets counters grow from zero on, so no counter wraps. Where a counter never goes down, what it
grew by from sample to sample adds up to what it grew by altogether, whatever other categories come
and go.
-/
namespace TrafficControl

namespace Stats

/-- What a difference says of a statistic with value `m` now and value `n` before. -/
def change (k : Stat) (m n : UInt64) : UInt64 := if k.isRate then m else saturatingSub m n

theorem get_delta (now before : Stats) (k : Stat) : (now.delta before).get k =
    (now.get k).bind fun m => (before.get k).map fun n => change k m n := by
  obtain ⟨nowBasic, nowRate, nowQueue⟩ := now
  obtain ⟨basic, rate, queue⟩ := before
  cases k with
  | bytes | packets => cases nowBasic <;> cases basic <;> rfl
  | byteRate | packetRate => cases nowRate <;> cases rate <;> rfl
  | drops | overlimits => cases nowQueue <;> cases queue <;> rfl

theorem isSome_growth (now before : Option (UInt64 × UInt64)) :
    (growth now before).isSome = (now.isSome && before.isSome) := by
  cases now <;> cases before <;> rfl

theorem present_delta (now before : Stats) : (now.delta before).present =
    ⟨now.basic.isSome && before.basic.isSome, now.queue.isSome && before.queue.isSome,
      now.rate.isSome && before.rate.isSome⟩ := by
  have hrate : (if before.rate.isSome then now.rate else none).isSome =
      (now.rate.isSome && before.rate.isSome) := by
    cases before.rate <;> simp
  rw [present, delta, isSome_growth, isSome_growth, hrate]

theorem isPresent_delta (now before : Stats) (c : Categories) :
    (now.delta before).isPresent c = (now.isPresent c && before.isPresent c) := by
  rw [isPresent, present_delta]
  simp only [isPresent, present, Categories.contains]
  cases c.basic <;> cases c.queue <;> cases c.rate <;> simp [Bool.and_assoc, Bool.and_left_comm]

theorem get_of_isPresent {s : Stats} {k : Stat} (h : s.isPresent k.category) :
    s.get k = some (s.value k) := by
  obtain ⟨v, hv⟩ := Option.isSome_iff_exists.mp ((isSome_get s k).trans h)
  rw [value, hv, Option.getD_some]

/-- A statistic of two samples is there in their difference. -/
theorem get_delta_of_isPresent {now before : Stats} {k : Stat}
    (hnow : now.isPresent k.category) (hbefore : before.isPresent k.category) :
    (now.delta before).get k = some (change k (now.value k) (before.value k)) := by
  rw [get_delta, get_of_isPresent hnow, get_of_isPresent hbefore]
  rfl

section Counters

variable {k : Stat} {m n : UInt64} (hk : k.isRate = false)
include hk

theorem change_of_isRate_eq_false : change k m n = saturatingSub m n :=
  if_neg (by rw [hk]; exact Bool.false_ne_true)

theorem add_toNat_change (h : n ≤ m) : n.toNat + (change k m n).toNat = m.toNat := by
  rw [change_of_isRate_eq_false hk, saturatingSub, if_pos h, UInt64.toNat_sub_of_le m n h]
  exact Nat.add_sub_cancel' (UInt64.le_iff_toNat_le.mp h)

theorem change_eq_zero (h : m < n) : change k m n = 0 := by
  rw [change_of_isRate_eq_false hk, saturatingSub, if_neg (UInt64.not_le.mpr h)]

end Counters

/-- A counter that did not go down is what it was and what it grew by. -/
theorem value_add_value_delta {now before : Stats} {k : Stat} (hk : k.isRate = false)
    (hnow : now.isPresent k.category) (hbefore : before.isPresent k.category)
    (hle : before.value k ≤ now.value k) :
    (before.value k).toNat + ((now.delta before).value k).toNat = (now.value k).toNat := by
  have hdelta : (now.delta before).value k = change k (now.value k) (before.value k) := by
    rw [value, get_delta_of_isPresent hnow hbefore, Option.getD_some]
  rw [hdelta]
  exact add_toNat_change hk hle

/-- What changed from each sample to the next. -/
def deltas : List Stats → List Stats
  | before :: now :: samples => now.delta before :: deltas (now :: samples)
  | _ => []

/-- What a statistic adds up to over samples. -/
def total (k : Stat) : List Stats → Nat
  | [] => 0
  | s :: samples => (s.value k).toNat + total k samples

section Samples

variable {k : Stat} {first last : Stats} {between : List Stats}

/-- A category that all samples have is in every difference. -/
theorem isPresent_of_mem_deltas {samples : List Stats} {c : Categories}
    (hpresent : ∀ s ∈ samples, s.isPresent c) : ∀ d ∈ deltas samples, d.isPresent c := by
  induction samples with
  | nil => simp [deltas]
  | cons before samples ih =>
    cases samples with
    | nil => simp [deltas]
    | cons now samples =>
      obtain ⟨hbefore, hsamples⟩ := List.forall_mem_cons.mp hpresent
      refine List.forall_mem_cons.mpr ⟨?_, ih hsamples⟩
      rw [isPresent_delta, hsamples now List.mem_cons_self, hbefore, Bool.and_self]

/-- A counter that never goes down is at last what it was at first and all that it grew by. -/
theorem value_add_total_deltas (hk : k.isRate = false)
    (hpresent : ∀ s ∈ first :: (between ++ [last]), s.isPresent k.category)
    (hchain : (first :: (between ++ [last])).IsChain fun s t => s.value k ≤ t.value k) :
    (first.value k).toNat + total k (deltas (first :: (between ++ [last]))) =
      (last.value k).toNat := by
  -- The first sample moves: what is left of a run begins with its second sample.
  induction between generalizing first with
  | nil =>
    obtain ⟨hfirst, hlast⟩ := List.forall_mem_cons.mp hpresent
    have hle := (List.isChain_cons_cons.mp hchain).1
    exact value_add_value_delta hk (hlast last List.mem_cons_self) hfirst hle
  | cons next between ih =>
    obtain ⟨hfirst, hrest⟩ := List.forall_mem_cons.mp hpresent
    obtain ⟨hle, hchain⟩ := List.isChain_cons_cons.mp hchain
    have hstep := value_add_value_delta hk (hrest next List.mem_cons_self) hfirst hle
    calc (first.value k).toNat + total k (deltas (first :: (next :: between ++ [last])))
        = (first.value k).toNat + (((next.delta first).value k).toNat +
            total k (deltas (next :: (between ++ [last])))) := rfl
      _ = (next.value k).toNat + total k (deltas (next :: (between ++ [last]))) := by
            rw [← Nat.add_assoc, hstep]
      _ = (last.value k).toNat := ih hrest hchain

end Samples

/-- A difference has the categories of both samples, its rates are those of the later one, and its
counters are what was added, or zero after a fall. Over samples that all have the category of a
counter that never goes down, its growth from each to the next adds up to its growth from the first
to the last, and that is what the difference of these two says. -/
theorem delta_and_total_deltas :
    (∀ now before : Stats,
      (∀ c, (now.delta before).isPresent c = (now.isPresent c && before.isPresent c)) ∧
      ∀ k m n, now.get k = some m → before.get k = some n →
        ∃ v, (now.delta before).get k = some v ∧ (k.isRate = true → v = m) ∧
          (k.isRate = false → (n ≤ m → n.toNat + v.toNat = m.toNat) ∧ (m < n → v = 0))) ∧
    ∀ (k : Stat) (first : Stats) (between : List Stats) (last : Stats), k.isRate = false →
      (∀ s ∈ first :: (between ++ [last]), s.isPresent k.category) →
      ((first :: (between ++ [last])).IsChain fun s t => s.value k ≤ t.value k) →
      (∀ d ∈ deltas (first :: (between ++ [last])), d.isPresent k.category) ∧
      (first.value k).toNat + total k (deltas (first :: (between ++ [last]))) =
        (last.value k).toNat ∧
      ∃ v, (last.delta first).get k = some v ∧
        v.toNat = total k (deltas (first :: (between ++ [last]))) := by
  refine ⟨fun now before => ⟨isPresent_delta now before, fun k m n hm hn => ?_⟩,
    fun k first between last hk hpresent hchain =>
      ⟨isPresent_of_mem_deltas hpresent, value_add_total_deltas hk hpresent hchain, ?_⟩⟩
  · refine ⟨change k m n, ?_, fun hk => if_pos hk,
      fun hk => ⟨add_toNat_change hk, change_eq_zero hk⟩⟩
    rw [get_delta, hm, hn]
    rfl
  · have htotal := value_add_total_deltas hk hpresent hchain
    have hle : first.value k ≤ last.value k := by
      rw [UInt64.le_iff_toNat_le]
      omega
    have hsingle := add_toNat_change hk hle
    have hlast := hpresent last (by simp)
    exact ⟨_, get_delta_of_isPresent hlast (hpresent first List.mem_cons_self), by omega⟩

/-- The packets fall and the queue comes and goes, while the bytes reach the greatest value. -/
theorem total_deltas_bytes :
    total .bytes (deltas [{ basic := some (18446744073709551000, 9) },
        { basic := some (18446744073709551300, 4), queue := some (7, 1) },
        { basic := some (18446744073709551615, 5) }]) = 615 := by
  have h := (delta_and_total_deltas.2 .bytes { basic := some (18446744073709551000, 9) }
    [{ basic := some (18446744073709551300, 4), queue := some (7, 1) }]
    { basic := some (18446744073709551615, 5) } rfl (by decide) (by decide)).2.1
  exact Nat.add_left_cancel h

end Stats
end TrafficControl
