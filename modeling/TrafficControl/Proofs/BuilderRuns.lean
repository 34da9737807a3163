import TrafficControl.Proofs.Writes

/-!
# Messages built call by call

A message is built by calls that follow one another in any order and of which some may fail. Only a
nest that is open can be ended or cancelled. After any such calls the octets are whole words within
the limit, type and flags are what was asked for, and the next call either does its work behind the
octets there are or fails and leaves all of them as they were.

What a call can do is said once, in `Call.Effect`; what holds after many calls follows by induction
on the run. The part of the invariant that the type of a builder does not carry is that the header
of every open nest is still there, so that the end of a nest finds its length field.
-/
namespace TrafficControl

namespace Octets

theorem getElem?_putU16_of_ne {d : Octets} {i j : Nat} (n : UInt16) (h : j ≠ i)
    (h' : j ≠ i + 1) : (putU16 d i n)[j]? = d[j]? := by
  rw [putU16, List.getElem?_set_ne h'.symm, List.getElem?_set_ne h.symm]

theorem u16At_putU16 {d : Octets} {i : Nat} (n : UInt16) (h : i + 2 ≤ d.length) :
    u16At (putU16 d i n) i = n := by
  have hput : (putU16 d i n).drop i = u16 n ++ d.drop (i + 2) := by
    rw [putU16, u16_eq, List.drop_set, List.drop_set, if_neg (by omega), if_neg (by omega),
      List.drop_eq_getElem_cons (by omega : i < d.length),
      List.drop_eq_getElem_cons (by omega : i + 1 < d.length), Nat.sub_self,
      Nat.add_sub_cancel_left]
    rfl
  rw [← u16At_drop, hput, u16At_u16_append]

theorem putU16_append_right (p d : Octets) (i : Nat) (n : UInt16) :
    putU16 (p ++ d) (p.length + i) n = p ++ putU16 d i n := by
  rw [putU16, putU16, List.set_append_right _ _ (by omega),
    List.set_append_right _ _ (by omega), Nat.add_sub_cancel_left, Nat.add_assoc,
    Nat.add_sub_cancel_left]

/-- The second string has its own length in the attribute header at index `i`, which reaches to the
end, and agrees with the first one everywhere else. -/
structure IsRelengthed (i : Nat) (d e : Octets) : Prop where
  header : i + Attr.headerLength ≤ d.length
  length : (u16At e i).toNat = d.length - i
  rest (j : Nat) (h : j ≠ i) (h' : j ≠ i + 1) : e[j]? = d[j]?

end Octets

namespace Builder

/-- What an attribute is made of. -/
inductive Value where
  | octets (d : Octets)
  | u8 (n : UInt8)
  | u16 (n : UInt16)
  | u16BE (n : UInt16)
  | u32 (n : UInt32)
  | text (s : String)

namespace Value

def payload : Value → Octets
  | octets d => d
  | u8 n => [n]
  | u16 n => Octets.u16 n
  | u16BE n => Octets.u16BE n
  | u32 n => Octets.u32 n
  | text s => Attr.ofText s

def write (type : UInt16) : Value → Build Unit
  | octets d => Build.attr type d
  | u8 n => Build.attrU8 type n
  | u16 n => Build.attrU16 type n
  | u16BE n => Build.attrU16BE type n
  | u32 n => Build.attrU32 type n
  | text s => Build.attrText type s

theorem write_eq (type : UInt16) (v : Value) : v.write type = Build.attr type v.payload := by
  cases v <;> rfl

end Value

/-- A call on a message under construction. -/
inductive Call where
  | append (d : Octets)
  | attr (type : UInt16) (v : Value)
  | startNest (type : UInt16)
  | endNest (nest : Nest)
  | cancelNest (nest : Nest)
  | addFlags (flags : UInt16)
  | setSeq (seq : UInt32)

namespace Call

/-- Makes the call. What is begun is a nest. -/
def run : Call → Build (Option Nest)
  | append d => do
    Build.append d
    return none
  | attr type v => do
    v.write type
    return none
  | startNest type => do return some (← Build.startNest type)
  | endNest nest => do
    Build.endNest nest
    return none
  | cancelNest nest => do
    Build.cancelNest nest
    return none
  | addFlags flags => do
    modify (·.addFlags flags)
    return none
  | setSeq seq => do
    modify (·.setSeq seq)
    return none

/-- The octets that the call is there to add, without their filling. -/
def addition? : Call → Option Octets
  | append d => some d
  | attr type v => some ((Attr.Header.ofPayload type v.payload.length).octets ++ v.payload)
  | startNest type => some (Build.nestHeader type)
  | _ => none

/-- An attribute is no longer than its length field can say. -/
def IsSayable : Call → Prop
  | attr _ v => Attr.headerLength + v.payload.length ≤ Attr.maxLength
  | _ => True

/-- The nest that the call ends or cancels. -/
def nest? : Call → Option Nest
  | endNest nest | cancelNest nest => some nest
  | _ => none

def flags? : Call → Option UInt16
  | addFlags flags => some flags
  | _ => none

def seq? : Call → Option UInt32
  | setSeq seq => some seq
  | _ => none

/-- The nests that stay open. With a nest, those that began behind it are cancelled too. -/
def remaining (nests : List Nest) : Call → List Nest
  | endNest nest => nests.erase nest
  | cancelNest nest => nests.filter (·.start < nest.start)
  | _ => nests

/-- What a call can do. -/
inductive Effect (b : Builder) : Call → EStateM.Result Error Builder (Option Nest) → Prop
  | added {c d begun} (hd : c.addition? = some d) (hl : c.IsSayable)
      (h : b.length + align d.length ≤ b.limit)
      (hb : ∀ nest ∈ begun,
        nest.start + Attr.headerLength ≤ (b.extend d h).payload.length) :
      Effect b c (.ok begun (b.extend d h))
  | refused {c d n m} (hd : c.addition? = some d)
      (h : ¬ (b.length + align d.length ≤ b.limit ∧ c.IsSayable)) (hn : m < n) :
      Effect b c (.error (.tooLarge n m) b)
  | ended {nest} (h : b.payload.length - nest.start ≤ Attr.maxLength) :
      Effect b (.endNest nest)
        (.ok none (b.setAttrLength nest.start (b.payload.length - nest.start)))
  | tooLong {nest} (h : Attr.maxLength < b.payload.length - nest.start) :
      Effect b (.endNest nest)
        (.error (.tooLarge (b.payload.length - nest.start) Attr.maxLength) b)
  | cancelled {nest} : Effect b (.cancelNest nest) (.ok none (b.rollback nest))
  | flagged {flags} : Effect b (.addFlags flags) (.ok none (b.addFlags flags))
  | numbered {seq} : Effect b (.setSeq seq) (.ok none (b.setSeq seq))

theorem effect_of_run_eq_append {c : Call} {d : Octets} (hd : c.addition? = some d)
    (hl : c.IsSayable) (hrun : c.run = do Build.append d; return none) (b : Builder) :
    Effect b c (c.run b) := by
  by_cases h : b.length + align d.length ≤ b.limit
  · have hb : c.run b = .ok none (b.extend d h) := by
      simp only [hrun, bind, EStateM.bind, Build.append_of_fits h]
      rfl
    rw [hb]
    exact .added hd hl h (by simp)
  · have hb : c.run b = .error (.tooLarge (b.length + align d.length) b.limit) b := by
      simp only [hrun, bind, EStateM.bind, Build.append_of_not_fits (Nat.not_le.mp h)]
    rw [hb]
    exact .refused hd (fun hroom => h hroom.1) (Nat.not_le.mp h)

theorem effect_attr (type : UInt16) (v : Value) (b : Builder) :
    Effect b (attr type v) ((attr type v).run b) := by
  by_cases hl : Attr.headerLength + v.payload.length ≤ Attr.maxLength
  · refine effect_of_run_eq_append (c := attr type v) rfl hl ?_ b
    rw [run, v.write_eq, Build.attr_of_fits hl]
  · have hb : (attr type v).run b =
        .error (.tooLarge (Attr.headerLength + v.payload.length) Attr.maxLength) b := by
      rw [run, v.write_eq, Build.attr, if_pos (Nat.not_le.mp hl)]
      rfl
    rw [hb]
    exact .refused (c := attr type v) rfl (fun hroom => hl hroom.2) (Nat.not_le.mp hl)

theorem effect_startNest (type : UInt16) (b : Builder) :
    Effect b (startNest type) ((startNest type).run b) := by
  by_cases h : b.length + align (Build.nestHeader type).length ≤ b.limit
  · have hb : (startNest type).run b =
        .ok (some ⟨b.payload.length, b.aligned⟩) (b.extend (Build.nestHeader type) h) := by
      simp only [run, bind, EStateM.bind, Build.startNest_of_fits h]
      rfl
    rw [hb]
    refine .added (c := startNest type) rfl trivial h fun nest hnest => ?_
    cases hnest
    rw [payload_extend, List.length_append, Octets.length_pad, Build.length_nestHeader]
    exact Nat.le_refl _
  · have hb : (startNest type).run b =
        .error (.tooLarge (b.length + align (Build.nestHeader type).length) b.limit) b := by
      simp only [run, bind, EStateM.bind, Build.startNest_of_not_fits (Nat.not_le.mp h)]
    rw [hb]
    exact .refused (c := startNest type) rfl (fun hroom => h hroom.1) (Nat.not_le.mp h)

theorem effect_endNest (nest : Nest) (b : Builder) :
    Effect b (endNest nest) ((endNest nest).run b) := by
  by_cases h : b.payload.length - nest.start ≤ Attr.maxLength
  · have hb : (endNest nest).run b =
        .ok none (b.setAttrLength nest.start (b.payload.length - nest.start)) := by
      simp only [run, bind, EStateM.bind, Build.endNest_of_fits nest h]
      rfl
    rw [hb]
    exact .ended h
  · have hb : (endNest nest).run b =
        .error (.tooLarge (b.payload.length - nest.start) Attr.maxLength) b := by
      simp only [run, bind, EStateM.bind, Build.endNest_of_not_fits nest (Nat.not_le.mp h)]
    rw [hb]
    exact .tooLong (Nat.not_le.mp h)

/-- A call does what its effect says and nothing else. -/
theorem effect (call : Call) (b : Builder) : Effect b call (call.run b) := by
  cases call with
  | append d => exact effect_of_run_eq_append (c := append d) rfl trivial rfl b
  | attr type v => exact effect_attr type v b
  | startNest type => exact effect_startNest type b
  | endNest nest => exact effect_endNest nest b
  | cancelNest nest => exact .cancelled
  | addFlags flags => exact .flagged
  | setSeq seq => exact .numbered

end Call

/-- A message under construction and the nests that are open in it. -/
structure Draft where
  builder : Builder
  nests : List Nest

namespace Draft

def start (type flags : UInt16) (limit : Nat) : Draft := ⟨.withLimit type flags limit, []⟩

/-- The draft after a call, which may have failed. -/
def after (d : Draft) (call : Call) : Draft :=
  match call.run d.builder with
  | .ok begun b => ⟨b, begun.toList ++ call.remaining d.nests⟩
  | .error _ b => ⟨b, d.nests⟩

/-- The call ends or cancels no nest but an open one. -/
def Allows (d : Draft) (call : Call) : Prop := ∀ nest ∈ call.nest?, nest ∈ d.nests

instance (d : Draft) (call : Call) : Decidable (d.Allows call) :=
  inferInstanceAs (Decidable (∀ nest ∈ call.nest?, nest ∈ d.nests))

def AllowsAll (d : Draft) : List Call → Prop
  | [] => True
  | call :: calls => d.Allows call ∧ (d.after call).AllowsAll calls

instance decidableAllowsAll (d : Draft) : (calls : List Call) → Decidable (d.AllowsAll calls)
  | [] => inferInstanceAs (Decidable True)
  | call :: calls =>
    have := decidableAllowsAll (d.after call) calls
    inferInstanceAs (Decidable (d.Allows call ∧ (d.after call).AllowsAll calls))

end Draft

/-- The second draft is what these calls, each of them allowed, make of the first. -/
inductive Run (d : Draft) : List Call → Draft → Prop
  | nil : Run d [] d
  | snoc {calls : List Call} {e : Draft} (h : Run d calls e) (call : Call)
      (hc : e.Allows call) : Run d (calls ++ [call]) (e.after call)

theorem Run.append {d e : Draft} {calls : List Call} (h : Run d calls e) {more : List Call}
    (hm : e.AllowsAll more) : Run d (calls ++ more) (more.foldl Draft.after e) := by
  induction more generalizing e calls with
  | nil => rwa [List.append_nil]
  | cons call more ih =>
      have := ih (h.snoc call hm.1) hm.2
      rwa [List.append_assoc] at this

theorem Run.of_allowsAll (d : Draft) (calls : List Call) (h : d.AllowsAll calls) :
    Run d calls (calls.foldl Draft.after d) := Run.nil.append h

/-- The flags of a message that began with `flags`. -/
def flagsAfter (flags : UInt16) (calls : List Call) : UInt16 :=
  (calls.filterMap Call.flags?).foldl (· ||| ·) flags

/-- The sequence number that was set last, 0 when none was. -/
def seqAfter (calls : List Call) : UInt32 := (calls.filterMap Call.seq?).getLast?.getD 0

/-- What a run keeps. -/
structure Draft.Keeps (type flags : UInt16) (limit : Nat) (calls : List Call) (d : Draft) :
    Prop where
  type : d.builder.type = type
  flags : d.builder.flags = flagsAfter flags calls
  seq : d.builder.seq = seqAfter calls
  limit : d.builder.limit = max limit Message.headerLength
  nests : ∀ nest ∈ d.nests, nest.start + Attr.headerLength ≤ d.builder.payload.length

section Calls

variable {calls : List Call} {call : Call}

theorem flagsAfter_of_none (flags : UInt16) (h : call.flags? = none) :
    flagsAfter flags (calls ++ [call]) = flagsAfter flags calls := by
  simp [flagsAfter, h]

theorem flagsAfter_addFlags (flags f : UInt16) (calls : List Call) :
    flagsAfter flags (calls ++ [.addFlags f]) = flagsAfter flags calls ||| f := by
  simp [flagsAfter, Call.flags?]

theorem seqAfter_of_none (h : call.seq? = none) : seqAfter (calls ++ [call]) = seqAfter calls := by
  simp [seqAfter, h]

theorem seqAfter_setSeq (calls : List Call) (seq : UInt32) :
    seqAfter (calls ++ [.setSeq seq]) = seq := by
  simp [seqAfter, Call.seq?]

end Calls

namespace Draft

variable {type flags : UInt16} {limit : Nat} {calls : List Call} {d : Draft}

theorem keeps_start : Keeps type flags limit [] (.start type flags limit) :=
  ⟨rfl, rfl, rfl, rfl, fun _ h => absurd h List.not_mem_nil⟩

/-- The octets may change as they will while the headers of the open nests stay. -/
theorem Keeps.quiet {call : Call} {b : Builder} {nests : List Nest}
    (hk : d.Keeps type flags limit calls) (hf : call.flags? = none) (hs : call.seq? = none)
    (hb : b.type = d.builder.type ∧ b.flags = d.builder.flags ∧ b.seq = d.builder.seq ∧
      b.limit = d.builder.limit)
    (hn : ∀ nest ∈ nests, nest.start + Attr.headerLength ≤ b.payload.length) :
    Keeps type flags limit (calls ++ [call]) ⟨b, nests⟩ where
  type := hb.1.trans hk.type
  flags := by rw [flagsAfter_of_none flags hf, ← hk.flags, hb.2.1]
  seq := by rw [seqAfter_of_none hs, ← hk.seq, hb.2.2.1]
  limit := hb.2.2.2.trans hk.limit
  nests := hn

theorem Keeps.added {c : Call} {e : Octets} {begun : Option Nest}
    (hk : d.Keeps type flags limit calls) (he : c.addition? = some e)
    (h : d.builder.length + align e.length ≤ d.builder.limit)
    (hb : ∀ nest ∈ begun,
      nest.start + Attr.headerLength ≤ (d.builder.extend e h).payload.length) :
    Keeps type flags limit (calls ++ [c])
      ⟨d.builder.extend e h, begun.toList ++ c.remaining d.nests⟩ := by
  have hc : c.flags? = none ∧ c.seq? = none ∧ c.remaining d.nests = d.nests := by
    cases c <;> first | exact ⟨rfl, rfl, rfl⟩ | cases he
  refine hk.quiet hc.1 hc.2.1 ⟨rfl, rfl, rfl, rfl⟩ fun nest hnest => ?_
  rcases List.mem_append.mp hnest with hnew | hold
  · exact hb nest (Option.mem_toList.mp hnew)
  · have := hk.nests nest (hc.2.2 ▸ hold)
    rw [payload_extend, List.length_append]
    omega

theorem Keeps.ended {nest : Nest} (hk : d.Keeps type flags limit calls) (n : Nat) :
    Keeps type flags limit (calls ++ [.endNest nest])
      ⟨d.builder.setAttrLength nest.start n, d.nests.erase nest⟩ := by
  refine hk.quiet rfl rfl ⟨rfl, rfl, rfl, rfl⟩ fun other hother => ?_
  rw [setAttrLength, Octets.length_putU16]
  exact hk.nests other (List.mem_of_mem_erase hother)

/-- Nests begin at whole words, so one that began earlier has its header before the later one. -/
theorem Keeps.cancelled {nest : Nest} (hk : d.Keeps type flags limit calls)
    (hc : nest ∈ d.nests) :
    Keeps type flags limit (calls ++ [.cancelNest nest])
      ⟨d.builder.rollback nest, d.nests.filter (·.start < nest.start)⟩ := by
  refine hk.quiet rfl rfl ⟨rfl, rfl, rfl, rfl⟩ fun other hother => ?_
  obtain ⟨-, hlt⟩ := List.mem_filter.mp hother
  have hlt := of_decide_eq_true hlt
  have hlen := hk.nests nest hc
  have := nest.aligned
  have := other.aligned
  rw [rollback, List.length_take]
  rw [Attr.headerLength] at *
  omega

theorem Keeps.after {call : Call} (hk : d.Keeps type flags limit calls) (hc : d.Allows call) :
    (d.after call).Keeps type flags limit (calls ++ [call]) := by
  have heffect := call.effect d.builder
  rw [Draft.after]
  generalize call.run d.builder = res at heffect
  cases heffect with
  | added he _ h hb => exact hk.added he h hb
  | refused he =>
    have hq : call.flags? = none ∧ call.seq? = none := by
      cases call <;> first | exact ⟨rfl, rfl⟩ | cases he
    exact hk.quiet hq.1 hq.2 ⟨rfl, rfl, rfl, rfl⟩ hk.nests
  | ended => exact hk.ended _
  | tooLong => exact hk.quiet rfl rfl ⟨rfl, rfl, rfl, rfl⟩ hk.nests
  | cancelled => exact hk.cancelled (hc _ rfl)
  | flagged =>
    refine ⟨hk.type, ?_, ?_, hk.limit, hk.nests⟩
    · rw [flagsAfter_addFlags, ← hk.flags]
      rfl
    · rw [seqAfter_of_none rfl]
      exact hk.seq
  | numbered =>
    refine ⟨hk.type, ?_, ?_, hk.limit, hk.nests⟩
    · rw [flagsAfter_of_none flags rfl]
      exact hk.flags
    · rw [seqAfter_setSeq]
      rfl

end Draft

theorem Run.keeps {type flags : UInt16} {limit : Nat} {calls : List Call} {d : Draft}
    (h : Run (.start type flags limit) calls d) : d.Keeps type flags limit calls := by
  induction h with
  | nil => exact Draft.keeps_start
  | snoc _ _ hc ih => exact ih.after hc

section Next

variable {b b' : Builder} {call : Call} {begun : Option Nest} {e : Octets} {nest : Nest}

theorem eq_of_run_eq_error {err : Error} (h : call.run b = .error err b') :
    b' = b ∧ ∃ n m, m < n ∧ err = .tooLarge n m := by
  have heffect := call.effect b
  rw [h] at heffect
  cases heffect with
  | refused _ _ hn => exact ⟨rfl, _, _, hn, rfl⟩
  | tooLong hn => exact ⟨rfl, _, _, hn, rfl⟩

theorem exists_run_eq_ok_iff (he : call.addition? = some e) :
    (∃ begun b', call.run b = .ok begun b') ↔
      b.length + align e.length ≤ b.limit ∧ call.IsSayable := by
  have heffect := call.effect b
  generalize hres : call.run b = res at heffect
  cases heffect with
  | added hd hl h =>
    obtain rfl := Option.some.inj (hd.symm.trans he)
    exact ⟨fun _ => ⟨h, hl⟩, fun _ => ⟨_, _, rfl⟩⟩
  | refused hd h =>
    obtain rfl := Option.some.inj (hd.symm.trans he)
    refine ⟨fun hex => ?_, fun hroom => absurd hroom h⟩
    obtain ⟨_, _, hok⟩ := hex
    cases hok
  | ended | tooLong | cancelled | flagged | numbered => cases he

theorem octets_of_run_eq_ok (he : call.addition? = some e) (h : call.run b = .ok begun b') :
    b'.octets = Octets.pad (b.octets ++ e) := by
  have heffect := call.effect b
  rw [h] at heffect
  cases heffect with
  | added hd _ hroom =>
    obtain rfl := Option.some.inj (hd.symm.trans he)
    rw [octets_extend, Octets.pad_append (by rw [length_octets, length_mod_four])]
  | ended | cancelled | flagged | numbered => cases he

theorem isRelengthed_of_run_eq_ok (hn : nest.start + Attr.headerLength ≤ b.payload.length)
    (h : (Call.endNest nest).run b = .ok begun b') :
    Octets.IsRelengthed (Message.headerLength + nest.start) b.octets b'.octets := by
  have heffect := (Call.endNest nest).effect b
  rw [h] at heffect
  cases heffect with
  | added he => cases he
  | ended hl =>
    have hheader : (b.header Message.headerLength).octets.length = Message.headerLength :=
      Message.Header.length_octets _
    have hoctets : (b.setAttrLength nest.start (b.payload.length - nest.start)).octets =
        Octets.putU16 b.octets (Message.headerLength + nest.start)
          (UInt16.ofNat (b.payload.length - nest.start)) := by
      rw [← hheader, octets, octets, Octets.putU16_append_right]
      rfl
    have hlength : b.octets.length - (Message.headerLength + nest.start) =
        b.payload.length - nest.start := by
      rw [length_octets, length]
      omega
    have hbound : Message.headerLength + nest.start + Attr.headerLength ≤ b.octets.length := by
      rw [length_octets, length]
      omega
    refine ⟨hbound, ?_, fun j hj hj' => ?_⟩
    · rw [Attr.headerLength] at hbound
      rw [Attr.maxLength] at hl
      rw [hoctets, Octets.u16At_putU16 _ (by omega), hlength,
        UInt16.toNat_ofNat_of_lt' (by rw [UInt16.size]; omega)]
    · rw [hoctets, Octets.getElem?_putU16_of_ne _ hj hj']

end Next

/-- What holds of a draft that calls have made, and of the next call on it. -/
structure Draft.IsSound (type flags : UInt16) (limit : Nat) (calls : List Call) (d : Draft) :
    Prop where
  length_mod_four : d.builder.octets.length % 4 = 0
  headerLength_le : Message.headerLength ≤ d.builder.octets.length
  length_le : d.builder.octets.length ≤ max limit Message.headerLength
  type : d.builder.type = type
  flags : d.builder.flags = flagsAfter flags calls
  /-- A failure is one about a length, and it changes nothing. -/
  error {call : Call} {err : Error} {b : Builder} (hc : d.Allows call)
    (h : call.run d.builder = .error err b) :
    b = d.builder ∧ ∃ n m, m < n ∧ err = .tooLarge n m
  /-- What is to be added has to fit under the limit with its filling. -/
  ok_iff {call : Call} {e : Octets} (he : call.addition? = some e) :
    (∃ begun b, call.run d.builder = .ok begun b) ↔
      d.builder.octets.length + align e.length ≤ max limit Message.headerLength ∧
        call.IsSayable
  added {call : Call} {e : Octets} (he : call.addition? = some e) {begun : Option Nest}
    {b : Builder} (h : call.run d.builder = .ok begun b) :
    b.octets = Octets.pad (d.builder.octets ++ e) ∧ d.builder.octets <+: b.octets
  ended {nest : Nest} (hn : nest ∈ d.nests) {begun : Option Nest} {b : Builder}
    (h : (Call.endNest nest).run d.builder = .ok begun b) :
    Octets.IsRelengthed (Message.headerLength + nest.start) d.builder.octets b.octets

/-- A message is sound after any calls, the failed ones included. -/
theorem Run.isSound {type flags : UInt16} {limit : Nat} {calls : List Call} {d : Draft}
    (h : Run (.start type flags limit) calls d) : d.IsSound type flags limit calls := by
  have hk := h.keeps
  have hlength := d.builder.length_octets
  exact {
    length_mod_four := hlength ▸ d.builder.length_mod_four
    headerLength_le := hlength ▸ Nat.le_add_right ..
    length_le := by
      rw [hlength, ← hk.limit]
      exact d.builder.fits
    type := hk.type
    flags := hk.flags
    error := fun _ => eq_of_run_eq_error
    ok_iff := fun he => by
      rw [hlength, ← hk.limit]
      exact exists_run_eq_ok_iff he
    added := fun he _ _ h => by
      refine ⟨octets_of_run_eq_ok he h, ?_⟩
      rw [octets_of_run_eq_ok he h, Octets.pad, List.append_assoc]
      exact List.prefix_append ..
    ended := fun hn _ _ => isRelengthed_of_run_eq_ok (hk.nests _ hn) }

/-- A nest with an attribute in it, another attribute for which there is no room, one more flag, the
end of the nest, and a second nest that is cancelled. -/
def sampleCalls : List Call :=
  [.append [1, 2, 3], .startNest 1, .attr 2 (.text "gact"), .attr 3 (.u32 7), .addFlags 0x400,
    .endNest ⟨4, rfl⟩, .startNest 5, .cancelNest ⟨20, rfl⟩]

theorem isSound_sampleCalls :
    ∃ d, Run (.start 48 1 40) sampleCalls d ∧ d.builder.length = 36 ∧
      d.IsSound 48 1 40 sampleCalls := by
  have h := Run.of_allowsAll (.start 48 1 40) sampleCalls (by decide +kernel)
  exact ⟨_, h, by decide +kernel, h.isSound⟩

end Builder
end TrafficControl
