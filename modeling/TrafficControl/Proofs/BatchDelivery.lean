import TrafficControl.Delivery
import TrafficControl.Proofs.NumbersAt

/-!
# Delivery of a whole buffer

A buffer is worked off message by message. What becomes of it is given by rules, one for each thing
that can stand at its front: too few octets for a header, a length that cannot be right, a message
to be skipped, a kernel report, the end of a dump, or a message about actions. The last is delivered
just as if its own octets had come alone, so the receiver sees the same actions and fails the same
way. A failure is the result of the whole, and what stands behind it is not looked at.
-/
namespace TrafficControl

namespace Message

theorem Header.readAt_take {n : Nat} (d : Octets) (h : headerLength ≤ n) :
    Header.readAt (d.take n) 0 = Header.readAt d 0 := by
  rw [headerLength] at h
  rw [Header.readAt, Octets.u32At_take, Octets.u16At_take, Octets.u16At_take, Octets.u32At_take,
    Octets.u32At_take, Header.readAt] <;> omega

def front (d : Octets) : Frame :=
  ⟨Header.readAt d 0, (d.take (Header.readAt d 0).length.toNat).drop headerLength⟩

/-- The message at the front covers its header and is all there. -/
def IsWhole (d : Octets) : Prop :=
  headerLength ≤ (front d).header.length.toNat ∧ (front d).header.length.toNat ≤ d.length

def own (d : Octets) : Octets := d.take (front d).header.length.toNat

/-- The octets behind the message at the front and its filling. -/
def behind (d : Octets) : Octets := d.drop (align (front d).header.length.toNat)

theorem next?_of_short {d : Octets} (h : d.length < headerLength) : next? d = none := by
  rw [next?, Octets.hasAtLeast_eq_false_iff.mpr h]
  rfl

theorem next?_of_not_isWhole {d : Octets} (hd : headerLength ≤ d.length) (h : ¬ IsWhole d) :
    next? d = some (.error (.invalidMessage (.badLength (front d).header.length.toNat)), []) := by
  have hn : ¬ (headerLength ≤ (Header.readAt d 0).length.toNat ∧
      Octets.hasAtLeast (Header.readAt d 0).length.toNat d) := by
    rw [Octets.hasAtLeast_iff]
    exact h
  simp only [next?, Octets.hasAtLeast_iff.mpr hd, Bool.not_true, Bool.false_eq_true, if_false,
    if_neg hn]
  rfl

theorem next?_of_isWhole {d : Octets} (h : IsWhole d) :
    next? d = some (.ok (front d), behind d) := by
  obtain ⟨hn, hd⟩ := h
  have hl : Octets.hasAtLeast headerLength d := Octets.hasAtLeast_iff.mpr (Nat.le_trans hn hd)
  simp only [next?, hl, Bool.not_true, Bool.false_eq_true, if_false]
  rw [if_pos ⟨hn, Octets.hasAtLeast_iff.mpr hd⟩]
  rfl

theorem frames_of_none {d : Octets} (h : next? d = none) : frames d = [] := by
  rw [frames]; split <;> simp_all

theorem frames_of_some {d e : Octets} {f : Except Error Frame} (h : next? d = some (f, e)) :
    frames d = f :: frames e := by
  rw [frames]; split <;> simp_all

theorem length_behind_lt {d : Octets} (h : IsWhole d) : (behind d).length < d.length := by
  have := length_of_next? (next?_of_isWhole h)
  rw [headerLength] at this
  omega

end Message

namespace Delivery

open Message

variable {P σ : Type} (r : Registry P) (links : Option LinkLookup) (receiver : Receiver P σ)

theorem readFrame_own {d : Octets} (h : IsWhole d) : readFrame (own d) = .ok (front d) := by
  obtain ⟨hn, hd⟩ := h
  have hl : (own d).length = (front d).header.length.toNat := List.length_take_of_le hd
  have hr : Header.read (own d) = .ok (front d).header := by
    rw [Header.read, hl, if_neg (Nat.not_lt.mpr hn), own, Header.readAt_take d hn]
    rfl
  simp only [readFrame, hr, bind, Except.bind, hl, Nat.le_refl, and_true]
  rw [if_pos hn, own, List.take_take, Nat.min_self]
  rfl

/-- A message in a buffer is delivered as if its own octets had come alone. -/
theorem receive_own {d : Octets} (h : IsWhole d) :
    receive r links receiver (own d) = receiveFrame r links receiver (front d) := by
  rw [receive, readFrame_own h]
  rfl

theorem receiveFrame_eq_error {f : Message.Frame} {e : Error}
    (h : readActions r links f = .error e) (s : σ) :
    receiveFrame r links receiver f s = .error e s := by
  rw [receiveFrame, h]
  rfl

/-- The message is one about actions, as far as its type says: none that steers the work. -/
def IsContent (f : Frame) : Prop :=
  f.header.type ≠ Message.noop ∧ f.header.type ≠ report ∧ f.header.type ≠ Message.done

/-- What becomes of a buffer when `m` messages about actions came before it. The states are those
of the receiver, before the buffer and after it. -/
inductive Outcome : Nat → Octets → σ → EStateM.Result Error σ Progress → Prop where
  | finished {m d s} (h : d.length < headerLength) : Outcome m d s (.ok ⟨m, false⟩ s)
  | badLength {m d s} (hd : headerLength ≤ d.length) (h : ¬ IsWhole d) :
      Outcome m d s (.error (.invalidMessage (.badLength (front d).header.length.toNat)) s)
  | noop {m d s res} (h : IsWhole d) (ht : (front d).header.type = Message.noop)
      (next : Outcome m (behind d) s res) : Outcome m d s res
  | acknowledged {m d s res} (h : IsWhole d) (ht : (front d).header.type = report)
      (hl : 20 ≤ (front d).payload.length) (hc : Octets.i32At (front d).payload 0 = 0)
      (next : Outcome m (behind d) s res) : Outcome m d s res
  | truncated {m d s} (h : IsWhole d) (ht : (front d).header.type = report)
      (hl : (front d).payload.length < 20) :
      Outcome m d s (.error (.truncated 20 (front d).payload.length) s)
  | kernel {m d s e} (h : IsWhole d) (ht : (front d).header.type = report)
      (hl : 20 ≤ (front d).payload.length) (hc : Octets.i32At (front d).payload 0 = e)
      (he : e ≠ 0) : Outcome m d s (.error (.ofCode e) s)
  | done {m d s} (h : IsWhole d) (ht : (front d).header.type = Message.done) :
      Outcome m d s (.ok ⟨m, true⟩ s)
  | delivered {m d s s' res} (h : IsWhole d) (ht : IsContent (front d))
      (hr : receive r links receiver (own d) s = .ok () s')
      (next : Outcome (m + 1) (behind d) s' res) : Outcome m d s res
  | failed {m d s s' e} (h : IsWhole d) (ht : IsContent (front d))
      (hr : receive r links receiver (own d) s = .error e s') : Outcome m d s (.error e s')

/-- Works off a buffer when `m` messages about actions came before it. -/
def receiveFrom (m : Nat) (d : Octets) : EStateM Error σ Progress :=
  receiveFrames r links receiver ⟨m, false⟩ (frames d)

section Steps

variable {m : Nat} {d : Octets}

theorem receiveFrom_of_short (h : d.length < headerLength) :
    receiveFrom r links receiver m d = pure ⟨m, false⟩ := by
  rw [receiveFrom, frames_of_none (next?_of_short h), receiveFrames]

theorem receiveFrom_of_not_isWhole (hd : headerLength ≤ d.length) (h : ¬ IsWhole d) :
    receiveFrom r links receiver m d =
      throw (.invalidMessage (.badLength (front d).header.length.toNat)) := by
  rw [receiveFrom, frames_of_some (next?_of_not_isWhole hd h), receiveFrames]

theorem receiveFrom_of_noop (h : IsWhole d) (ht : (front d).header.type = Message.noop) :
    receiveFrom r links receiver m d = receiveFrom r links receiver m (behind d) := by
  have hn : (front d).header.isNoop := beq_iff_eq.mpr ht
  rw [receiveFrom, frames_of_some (next?_of_isWhole h), receiveFrames, if_pos hn, receiveFrom]

theorem receiveFrom_of_report (h : IsWhole d) (ht : (front d).header.type = report) :
    receiveFrom r links receiver m d =
      MonadExcept.ofExcept (Report.read (front d).payload >>= Report.result) >>= fun _ =>
        receiveFrom r links receiver m (behind d) := by
  have hn : ¬ (front d).header.isNoop := by rw [Header.isNoop, ht]; decide
  have hr : (front d).header.isReport := beq_iff_eq.mpr ht
  rw [receiveFrom, frames_of_some (next?_of_isWhole h), receiveFrames, if_neg hn, if_pos hr]
  rfl

theorem receiveFrom_of_done (h : IsWhole d) (ht : (front d).header.type = Message.done) :
    receiveFrom r links receiver m d = pure ⟨m, true⟩ := by
  have hn : ¬ (front d).header.isNoop := by rw [Header.isNoop, ht]; decide
  have hr : ¬ (front d).header.isReport := by rw [Header.isReport, ht]; decide
  have hd : (front d).header.isDone := beq_iff_eq.mpr ht
  rw [receiveFrom, frames_of_some (next?_of_isWhole h), receiveFrames, if_neg hn, if_neg hr,
    if_pos hd]

theorem receiveFrom_of_content (h : IsWhole d) (ht : IsContent (front d)) :
    receiveFrom r links receiver m d =
      receive r links receiver (own d) >>= fun _ =>
        receiveFrom r links receiver (m + 1) (behind d) := by
  have hn : ¬ (front d).header.isNoop := fun hc => ht.1 (beq_iff_eq.mp hc)
  have hr : ¬ (front d).header.isReport := fun hc => ht.2.1 (beq_iff_eq.mp hc)
  have hd : ¬ (front d).header.isDone := fun hc => ht.2.2 (beq_iff_eq.mp hc)
  rw [receiveFrom, frames_of_some (next?_of_isWhole h), receiveFrames, if_neg hn, if_neg hr,
    if_neg hd, receive_own r links receiver h]
  rfl

end Steps

theorem report_of_short {d : Octets} (h : d.length < Report.length) :
    (Report.read d >>= Report.result) = .error (.truncated Report.length d.length) := by
  rw [Report.read, if_pos h]
  rfl

theorem report_of_long {d : Octets} (h : Report.length ≤ d.length) :
    (Report.read d >>= Report.result) =
      if Octets.i32At d 0 = 0 then .ok () else .error (.ofCode (Octets.i32At d 0)) := by
  rw [Report.read, if_neg (Nat.not_lt.mpr h)]
  simp only [bind, Except.bind, Report.result, Report.isAck, beq_iff_eq]

/-- The rules say no more than the work does. -/
theorem Outcome.eq {m : Nat} {d : Octets} {s : σ} {res : EStateM.Result Error σ Progress}
    (h : Outcome r links receiver m d s res) : receiveFrom r links receiver m d s = res := by
  induction h with
  | finished h =>
      rw [receiveFrom_of_short r links receiver h]
      rfl
  | badLength hd h =>
      rw [receiveFrom_of_not_isWhole r links receiver hd h]
      rfl
  | noop h ht _ ih => rw [receiveFrom_of_noop r links receiver h ht, ih]
  | acknowledged h ht hl hc _ ih =>
      rw [receiveFrom_of_report r links receiver h ht, report_of_long hl, if_pos hc]
      exact ih
  | truncated h ht hl =>
      rw [receiveFrom_of_report r links receiver h ht, report_of_short hl]
      rfl
  | kernel h ht hl hc he =>
      rw [receiveFrom_of_report r links receiver h ht, report_of_long hl, hc, if_neg he]
      rfl
  | done h ht =>
      rw [receiveFrom_of_done r links receiver h ht]
      rfl
  | delivered h ht hr _ ih =>
      rw [receiveFrom_of_content r links receiver h ht]
      simp only [bind, EStateM.bind, hr, ih]
  | failed h ht hr =>
      rw [receiveFrom_of_content r links receiver h ht]
      simp only [bind, EStateM.bind, hr]

/-- Some rule applies to every buffer, and the octets behind a message are fewer. -/
theorem Outcome.exists (m : Nat) (d : Octets) (s : σ) :
    ∃ res, Outcome r links receiver m d s res := by
  induction hn : d.length using Nat.strongRecOn generalizing m d s with
  | ind n ih =>
      have next (h : IsWhole d) (m : Nat) (s : σ) :=
        ih _ (hn ▸ length_behind_lt h) m (behind d) s rfl
      by_cases hd : d.length < headerLength
      · exact ⟨_, .finished hd⟩
      by_cases h : IsWhole d
      case neg => exact ⟨_, .badLength (Nat.not_lt.mp hd) h⟩
      by_cases hnoop : (front d).header.type = Message.noop
      · obtain ⟨res, hres⟩ := next h m s
        exact ⟨res, .noop h hnoop hres⟩
      by_cases hreport : (front d).header.type = report
      · by_cases hl : (front d).payload.length < 20
        · exact ⟨_, .truncated h hreport hl⟩
        by_cases hc : Octets.i32At (front d).payload 0 = 0
        · obtain ⟨res, hres⟩ := next h m s
          exact ⟨res, .acknowledged h hreport (Nat.not_lt.mp hl) hc hres⟩
        · exact ⟨_, .kernel h hreport (Nat.not_lt.mp hl) rfl hc⟩
      by_cases hdone : (front d).header.type = Message.done
      · exact ⟨_, .done h hdone⟩
      have ht : IsContent (front d) := ⟨hnoop, hreport, hdone⟩
      cases hr : receive r links receiver (own d) s with
      | ok u s' =>
          obtain ⟨res, hres⟩ := next h (m + 1) s'
          exact ⟨res, .delivered h ht hr hres⟩
      | error e s' => exact ⟨_, .failed h ht hr⟩

theorem code_ofCode (e : Int32) : (Error.ofCode e).code = e := by
  rw [Error.ofCode, Error.code, Error.number, Int32.neg_neg]

/-- Work on a buffer gives what the rules say and nothing else, whatever the receiver does. A kernel
report gives back the error number that it carries. -/
theorem receiveAll_eq_iff_outcome :
    (∀ d s res, receiveAll r links receiver d s = res ↔ Outcome r links receiver 0 d s res) ∧
      ∀ e : Int32, e ≠ Int32.minValue →
        (∃ n, (Error.ofCode e).errno? = some n ∧ n.toInt = -e.toInt) ∧
          (Error.ofCode e).code = e := by
  constructor
  · intro d s res
    constructor
    · intro heq
      subst heq
      obtain ⟨res, hres⟩ := Outcome.exists r links receiver 0 d s
      have heq : receiveAll r links receiver d s = res := hres.eq
      rwa [heq]
    · intro h
      exact h.eq
  · intro e he
    have hmin : e.toBitVec ≠ BitVec.intMin 32 := fun hb => he (Int32.toBitVec_inj.mp hb)
    exact ⟨⟨-e, rfl, BitVec.toInt_neg_of_ne_intMin hmin⟩, code_ofCode e⟩

end Delivery
end TrafficControl
