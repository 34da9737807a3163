import Mathlib.Data.List.TakeWhile
import TrafficControl.Proofs.BatchDelivery
import TrafficControl.Proofs.Guarded.Entries

/-!
# Guarded work on messages

The messages in a buffer are taken apart, read and delivered within bounds. Every message takes at
least its header, so a sixteenth of the octets is as many rounds as the messages need. There is one
exception: the error number of a kernel report is made positive, and one number has no positive.
-/
namespace TrafficControl

namespace Message

def Header.readAt? (d : Octets) (i : Nat) : Option Header := do
  return ⟨← d.u32? i, ← d.u16? (i + 4), ← d.u16? (i + 6), ← d.u32? (i + 8), ← d.u32? (i + 12)⟩

theorem Header.readAt?_of_le {d : Octets} {i : Nat} (h : i + headerLength ≤ d.length) :
    Header.readAt? d i = some (Header.readAt d i) := by
  rw [headerLength] at h
  rw [readAt?, Octets.u32?_of_le (by omega), Octets.u16?_of_le (by omega),
    Octets.u16?_of_le (by omega), Octets.u32?_of_le (by omega), Octets.u32?_of_le (by omega)]
  rfl

/-- Whether the message is a report with the least error number, which has no positive. -/
def Frame.overflows (f : Frame) : Bool :=
  f.header.isReport && decide (Report.length ≤ f.payload.length) &&
    f.payload.i32At 0 == Int32.minValue

theorem Frame.overflows_iff {f : Frame} : f.overflows ↔
    f.header.isReport ∧ Report.length ≤ f.payload.length ∧ f.payload.i32At 0 = Int32.minValue := by
  rw [overflows, Bool.and_eq_true, Bool.and_eq_true, decide_eq_true_eq, beq_iff_eq, and_assoc]

/-- The messages before the first report whose number overflows. -/
def beforeOverflow (fs : List (Except Error Frame)) : List (Except Error Frame) :=
  fs.takeWhile fun
    | .ok f => !f.overflows
    | .error _ => true

theorem beforeOverflow_cons {f : Frame} (h : ¬ f.overflows) (fs : List (Except Error Frame)) :
    beforeOverflow (.ok f :: fs) = .ok f :: beforeOverflow fs :=
  List.takeWhile_cons_of_pos (by simp [h])

theorem beforeOverflow_cons_of_overflows {f : Frame} (h : f.overflows)
    (fs : List (Except Error Frame)) : beforeOverflow (.ok f :: fs) = [] :=
  List.takeWhile_cons_of_neg (by simp [h])

theorem beforeOverflow_eq_self {fs : List (Except Error Frame)}
    (h : ∀ f, .ok f ∈ fs → ¬ f.overflows) : beforeOverflow fs = fs := by
  refine List.takeWhile_eq_self_iff.mpr fun f hf => ?_
  cases f with
  | error e => rfl
  | ok f => exact (Bool.not_eq_true' _).mpr (Bool.eq_false_iff.mpr (h f hf))

end Message

namespace Guarded

open Message

variable {P σ : Type}

/-- The message at the front or its fault, and what comes after. -/
def nextFrame? (d : Octets) : Option (Option (Except Error Frame × Octets)) :=
  if d.length < headerLength then some none
  else do
    let h ← Header.readAt? d 0
    let n := h.length.toNat
    if n < headerLength ∨ d.length < n then
      return some (.error (.invalidMessage (.badLength n)), [])
    else
      let payload ← d.slice? headerLength n
      let rest ← d.behind? n
      return some (.ok ⟨h, payload⟩, rest)

theorem slice?_of_isWhole {d : Octets} (h : IsWhole d) :
    d.slice? headerLength (Header.readAt d 0).length.toNat = some (front d).payload :=
  Octets.slice?_of_le h.1 h.2

theorem nextFrame?_eq (d : Octets) : nextFrame? d = some (Message.next? d) := by
  by_cases hd : d.length < headerLength
  · rw [nextFrame?, if_pos hd, next?_of_short hd]
  rw [nextFrame?, if_neg hd, Header.readAt?_of_le (by omega)]
  change (if (front d).header.length.toNat < headerLength ∨
    d.length < (front d).header.length.toNat then _ else _ : Option _) = _
  by_cases h : IsWhole d
  · rw [if_neg (by have := h.1; have := h.2; omega), next?_of_isWhole h, slice?_of_isWhole h,
      Octets.behind?_eq]
    rfl
  · rw [if_pos (by rw [IsWhole] at h; omega), next?_of_not_isWhole (by omega) h]
    rfl

/-- The messages in at most so many rounds. -/
def frames? : Nat → Octets → Option (List (Except Error Frame))
  | 0, _ => none
  | k + 1, d => do
    match ← nextFrame? d with
    | none => return []
    | some (f, r) => return f :: (← frames? k r)

/-- Rounds enough for messages, of which each takes its header at least. -/
def messageRounds (d : Octets) : Nat := d.length / headerLength + 1

theorem div_lt_of_next? {d r : Octets} {f : Except Error Frame} {k : Nat}
    (h : Message.next? d = some (f, r)) (hk : d.length / headerLength < k + 1) :
    r.length / headerLength < k := by
  have := length_of_next? h
  rw [headerLength] at *
  omega

theorem frames?_eq {k : Nat} {d : Octets} (h : d.length / headerLength < k) :
    frames? k d = some (frames d) := by
  induction k generalizing d with
  | zero => exact absurd h (Nat.not_lt_zero _)
  | succ k ih =>
      rw [frames?, nextFrame?_eq]
      cases hn : Message.next? d with
      | none =>
          rw [frames_of_none hn]
          rfl
      | some next =>
          obtain ⟨f, r⟩ := next
          rw [frames_of_some hn]
          simp only [Option.bind_eq_bind, Option.bind_some, ih (div_lt_of_next? hn h)]
          rfl

/-- The message at the front, which must be all there. -/
def frame (d : Octets) : Guarded Error σ Frame :=
  if d.length < headerLength then ofExcept (.error (.truncated headerLength d.length))
  else do
    let h ← check (Header.readAt? d 0)
    let n := h.length.toNat
    if n < headerLength ∨ d.length < n then ofExcept (.error (.invalidMessage (.badLength n)))
    else return ⟨h, ← check (d.slice? headerLength n)⟩

theorem frame_eq (d : Octets) :
    (frame d : Guarded Error σ Frame) = ofExcept (Delivery.readFrame d) := by
  rw [frame, Delivery.readFrame, Header.read]
  by_cases hd : d.length < headerLength
  · rw [if_pos hd, if_pos hd]
    rfl
  rw [if_neg hd, if_neg hd, Header.readAt?_of_le (by omega), check_some_bind]
  change (if (front d).header.length.toNat < headerLength ∨
    d.length < (front d).header.length.toNat then _ else _ : Guarded _ _ _) =
      ofExcept (if headerLength ≤ (front d).header.length.toNat ∧
        (front d).header.length.toNat ≤ d.length then _ else _)
  by_cases h : headerLength ≤ (front d).header.length.toNat ∧
    (front d).header.length.toNat ≤ d.length
  · rw [if_neg (by have := h.1; have := h.2; omega), if_pos h, slice?_of_isWhole h]
    rfl
  · rw [if_pos (by omega), if_neg h]
    rfl

/-- The number with the other sign, which the least one does not have. -/
def neg? (n : Int32) : Option Int32 := if n = Int32.minValue then none else some (-n)

def report (d : Octets) : Guarded Error σ Unit :=
  if d.length < Report.length then ofExcept (.error (.truncated Report.length d.length))
  else do
    let r : Report := ⟨← check (d.i32? 0), ← check (Header.readAt? d 4)⟩
    if r.isAck then return
    else
      let n ← check (neg? r.code)
      ofExcept (.error (.kernel n (Errno.message n)))

theorem report_of_le {d : Octets} (h : Report.length ≤ d.length) :
    (report d : Guarded Error σ Unit) =
      if d.i32At 0 = 0 then pure ()
      else if d.i32At 0 = Int32.minValue then check none
      else ofExcept (.error (.ofCode (d.i32At 0))) := by
  rw [Report.length] at h
  rw [report, if_neg (by rw [Report.length]; omega), Octets.i32?_of_le (by omega), check_some_bind,
    Header.readAt?_of_le (by rw [headerLength]; omega), check_some_bind]
  simp only [Report.isAck, beq_iff_eq, neg?]
  by_cases hack : d.i32At 0 = 0
  · rw [if_pos hack, if_pos hack]
  rw [if_neg hack, if_neg hack]
  by_cases hmin : d.i32At 0 = Int32.minValue
  · rw [if_pos hmin, if_pos hmin]
    rfl
  · rw [if_neg hmin, if_neg hmin]
    rfl

theorem report_eq {d : Octets} (h : Report.length ≤ d.length → d.i32At 0 ≠ Int32.minValue) :
    (report d : Guarded Error σ Unit) = ofExcept (Report.read d >>= Report.result) := by
  by_cases hd : d.length < Report.length
  · rw [report, if_pos hd, Delivery.report_of_short hd]
  · rw [Nat.not_lt] at hd
    rw [report_of_le hd, Delivery.report_of_long hd, if_neg (h hd)]
    split <;> rfl

theorem report_of_minValue {d : Octets} (hd : Report.length ≤ d.length)
    (h : d.i32At 0 = Int32.minValue) : (report d : Guarded Error σ Unit) = check none := by
  rw [report_of_le hd, h]
  rfl

theorem report_eq_none_iff {d : Octets} {s : σ} :
    report d s = none ↔ Report.length ≤ d.length ∧ d.i32At 0 = Int32.minValue := by
  constructor
  · intro hnone
    by_contra h
    rw [not_and] at h
    rw [report_eq h] at hnone
    cases hnone
  · rintro ⟨hd, hmin⟩
    rw [report_of_minValue hd hmin]
    rfl

def put? (m : ActionMessage) (a : Attr) : Option ActionMessage :=
  if a.type = tableType then some { m with table := some a.payload }
  else if a.type = rootFlagsType ∧ 8 ≤ a.payload.length then do
    return { m with rootFlags := some (← a.payload.u32? 0, ← a.payload.u32? 4) }
  else if a.type = rootCountType ∧ 4 ≤ a.payload.length then do
    return { m with rootCount := some (← a.payload.u32? 0) }
  else some m

theorem put?_eq (m : ActionMessage) (a : Attr) : put? m a = some (m.put a) := by
  unfold put? ActionMessage.put
  split
  · rfl
  split
  case isTrue h => rw [Octets.u32?_of_le (by omega), Octets.u32?_of_le (by omega)]; rfl
  split
  case isTrue h => rw [Octets.u32?_of_le (by omega)]; rfl
  rfl

def messageReader : Guarded ReadFault Octets ActionMessage := do
  if (← ofEStateM get).length < Family.length then ofEStateM Reader.cut
  let d ← ofEStateM (Reader.take Family.length)
  match Family.read d with
  | .error _ => ofEStateM Reader.cut
  | .ok family =>
    let left ← ofEStateM get
    let attrs ← readerAttrs (rounds left)
    check (attrs.foldlM put? { family })

theorem messageReader_eq : messageReader = ofEStateM ActionMessage.reader := by
  have hput (m : ActionMessage) (as : List Attr) :
      as.foldlM put? m = some (as.foldl ActionMessage.put m) := by
    rw [funext₂ put?_eq]
    exact List.foldlM_pure
  simp only [messageReader, ActionMessage.reader, hput]
  rw [ofEStateM_bind]
  congr 1
  funext left
  by_cases hleft : left.length < Family.length
  · rw [if_pos hleft, if_pos hleft]
    rfl
  rw [if_neg hleft, if_neg hleft, ofEStateM_bind]
  congr 1
  funext d
  cases Family.read d with
  | error e => rfl
  | ok family =>
      funext r
      change (readerAttrs (rounds r) >>= fun as =>
        check (some (as.foldl ActionMessage.put { family }))) r = _
      simp only [bind, readerAttrs_eq (k := rounds r) (Nat.lt_succ_self _)]
      rfl

def message (d : Octets) : Guarded Error σ ActionMessage :=
  adaptExcept (fun fault => .parse (.reader fault)) (within d messageReader)

theorem message_eq (d : Octets) :
    (message d : Guarded Error σ ActionMessage) = ofExcept (ActionMessage.read d) := by
  rw [message, messageReader_eq, ActionMessage.read]
  funext s
  simp only [adaptExcept, within, ofEStateM]
  cases ActionMessage.reader d <;> rfl

section Delivery

variable [Payload P] [Holds P Gact] [Holds P Mirred] [Holds P Skbedit] [Holds P Vlan]
  (links : Option LinkLookup) (receiver : Receiver P σ)

def readActions (f : Frame) : Guarded Error σ (List (Action P)) :=
  if (StoreInfo.actions.kind? f.header.type).isNone then
    ofExcept (.error (.invalidMessage (.unexpectedType f.header.type)))
  else do
    let m ← message f.payload
    match m.table with
    | none => ofExcept (.error (.missingAttr "TCA_ACT_TAB"))
    | some d =>
      let hook : ActionTable.Hook P Unit := fun a =>
        pure (Delivery.stamp f.header.type m.family.family links a)
      return (← within () (actions hook 0 d)).actions

theorem readActions_eq (f : Frame) :
    (readActions links f : Guarded Error σ (List (Action P))) =
      ofExcept (Delivery.readActions .builtin links f) := by
  rw [readActions, Delivery.readActions]
  by_cases hkind : (StoreInfo.actions.kind? f.header.type).isNone
  · rw [if_pos hkind]
    simp only [if_pos hkind]
    rfl
  rw [if_neg hkind]
  simp only [if_neg hkind]
  rw [message_eq, ofExcept_bind]
  congr 1
  funext m
  cases m.table with
  | none => rfl
  | some d =>
      simp only [actions_eq]
      funext s
      simp only [bind, within, ofEStateM]
      cases ActionTable.readWith .builtin
        (fun a : Action P => pure (Delivery.stamp f.header.type m.family.family links a)) 0 d () <;>
        rfl

def receiveFrame (f : Frame) : Guarded Error σ Unit := do
  ofEStateM (Delivery.deliver receiver (← readActions links f))

theorem receiveFrame_eq (f : Frame) :
    receiveFrame links receiver f =
      ofEStateM (Delivery.receiveFrame .builtin links receiver f) := by
  rw [receiveFrame, readActions_eq, Delivery.receiveFrame, ofEStateM_bind]
  rfl

def receive (d : Octets) : Guarded Error σ Unit := do
  receiveFrame links receiver (← frame d)

theorem receive_eq (d : Octets) :
    receive links receiver d = ofEStateM (Delivery.receive .builtin links receiver d) := by
  rw [receive, frame_eq, funext (receiveFrame_eq links receiver), Delivery.receive, ofEStateM_bind]
  rfl

/-- Works off the messages in a buffer in at most so many rounds. -/
def receiveRounds : Nat → Delivery.Progress → Octets → Guarded Error σ Delivery.Progress
  | 0, _, _ => check none
  | k + 1, p, d => do
    match ← check (nextFrame? d) with
    | none => return p
    | some (.error e, _) => ofExcept (.error e)
    | some (.ok f, r) =>
      if f.header.isNoop then receiveRounds k p r
      else if f.header.isReport then
        report f.payload
        receiveRounds k p r
      else if f.header.isDone then return { p with done := true }
      else
        receiveFrame links receiver f
        receiveRounds k { p with messages := p.messages + 1 } r

/-- The rounds are the work on the messages before the first report whose number overflows. There
the work stops, unless a dump ended before. -/
theorem receiveRounds_eq {k : Nat} {d : Octets} {p : Delivery.Progress} (hp : p.done = false)
    (hk : d.length / headerLength < k) :
    receiveRounds links receiver k p d =
      ofEStateM (Delivery.receiveFrames .builtin links receiver p (beforeOverflow (frames d))) >>=
        fun q => if q.done ∨ beforeOverflow (frames d) = frames d then pure q else check none := by
  -- Only the end of a dump sets the mark, and nothing is worked off behind it, so the mark is still
  -- missing before each round.
  induction k generalizing d p with
  | zero => exact absurd hk (Nat.not_lt_zero _)
  | succ k ih =>
      rw [receiveRounds, nextFrame?_eq, check_some_bind]
      cases hn : Message.next? d with
      | none =>
          rw [frames_of_none hn]
          exact (if_pos (.inr rfl)).symm
      | some next =>
          obtain ⟨f | f, r⟩ := next
          · rw [frames_of_some hn]
            rfl
          have hrest {p : Delivery.Progress} (hp : p.done = false) :=
            ih (d := r) hp (div_lt_of_next? hn hk)
          rw [frames_of_some hn]
          by_cases hf : f.overflows
          · obtain ⟨hreport, hl, hmin⟩ := Frame.overflows_iff.mp hf
            have hnoop : ¬ f.header.isNoop := by
              rw [Header.isNoop, beq_iff_eq.mp hreport]
              decide
            dsimp only
            rw [beforeOverflow_cons_of_overflows hf, if_neg hnoop, if_pos hreport,
              report_of_minValue hl hmin, Delivery.receiveFrames, ofEStateM_pure, pure_bind,
              if_neg (by simp [hp])]
            rfl
          simp only [beforeOverflow_cons hf, Delivery.receiveFrames, List.cons.injEq, true_and]
          by_cases hnoop : f.header.isNoop
          · rw [if_pos hnoop, if_pos hnoop, hrest hp]
          rw [if_neg hnoop, if_neg hnoop]
          by_cases hreport : f.header.isReport
          · have hcode := fun hl hmin => hf (Frame.overflows_iff.mpr ⟨hreport, hl, hmin⟩)
            rw [if_pos hreport, if_pos hreport, report_eq hcode, hrest hp, ofEStateM_bind,
              bind_assoc]
            rfl
          rw [if_neg hreport, if_neg hreport]
          by_cases hdone : f.header.isDone
          · rw [if_pos hdone, if_pos hdone, ofEStateM_pure, pure_bind]
            exact (if_pos (Or.inl rfl)).symm
          · rw [if_neg hdone, if_neg hdone, receiveFrame_eq, ofEStateM_bind, bind_assoc]
            exact congrArg _ (funext fun _ => hrest (p := { p with messages := p.messages + 1 }) hp)

def receiveAll (d : Octets) : Guarded Error σ Delivery.Progress :=
  receiveRounds links receiver (messageRounds d) {} d

theorem receiveAll_eq {d : Octets} (h : ∀ f, .ok f ∈ frames d → ¬ f.overflows) :
    receiveAll links receiver d = ofEStateM (Delivery.receiveAll .builtin links receiver d) := by
  rw [receiveAll, messageRounds, receiveRounds_eq links receiver rfl (Nat.lt_succ_self _),
    beforeOverflow_eq_self h, Delivery.receiveAll]
  simp only [or_true, if_true]
  funext s
  simp only [bind, ofEStateM]
  cases Delivery.receiveFrames .builtin links receiver {} (frames d) s <;> rfl

end Delivery

end Guarded
end TrafficControl
