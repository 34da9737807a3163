import TrafficControl.Config.Builtin
import TrafficControl.Proofs.AttrSequence

/-!
# Round trips of options

The options of the four built-in kinds are read back as they were written, whatever their values
are. A value that is not set is not written, and one that is not there is read as not set. Only a
plain verdict could lose something: its share is not written where its mode says that there is none.
Its constructors leave no share behind in that mode, so nothing is lost.
-/
namespace TrafficControl

theorem Params.read_octets_append (p : Params) (d : Octets) : read (p.octets ++ d) = p := by
  simp only [read, octets, List.append_assoc]
  simp [Octets.u32At_append_right, Octets.i32At_append_right, Octets.u32At_u32_append,
    Octets.i32At_i32_append]

theorem Params.read_octets (p : Params) : read p.octets = p := by
  rw [← List.append_nil p.octets, read_octets_append]

namespace Attr

theorem toU16_u16 (n : UInt16) : toU16 (Octets.u16 n) = .ok n := by
  rw [toU16, Octets.u16At_u16]
  rfl

theorem toU16BE_u16BE (n : UInt16) : toU16BE (Octets.u16BE n) = .ok n := by
  rw [toU16BE, Octets.u16BEAt_u16BE]
  rfl

theorem toU32_u32 (n : UInt32) : toU32 (Octets.u32 n) = .ok n := by
  rw [toU32, Octets.u32At_u32]
  rfl

/-- What is written of a value that may be missing is read back. -/
theorem mapM_map_of_ok {α : Type} {f : α → Octets} {g : Octets → Except Error α}
    (h : ∀ v, g (f v) = .ok v) (o : Option α) : (o.map f).mapM g = .ok o := by
  cases o with
  | none => rfl
  | some v =>
      rw [Option.map_some, Option.mapM_some, h]
      rfl

end Attr

namespace Configuration

/-- Octets that the options of a built-in kind take at most. -/
def maxLength : Nat := 56

/-- The options of a configuration take few octets, and reading them gives it back. -/
def ReadsBack {α : Type} [Configuration α] (c : α) : Prop :=
  ∃ d, Build.Writes (write c) d ∧ d.length ≤ maxLength ∧ parse d = .ok c

theorem readsBack_of_yields {α : Type} [Configuration α] {c : α} {as : List Attr}
    (hw : Build.Yields (write c) as) (hl : Attr.sizeAll as ≤ maxLength)
    (hp : ∀ d, Attr.list d = as → parse d = .ok c) : ReadsBack c := by
  obtain ⟨d, hd, hdl, hda⟩ := hw.writes
  exact ⟨d, hd, hdl ▸ hl, hp d hda⟩

end Configuration

namespace Gact

/-- A plain verdict that the constructors make. -/
inductive Made : Gact → Prop where
  | new (verdict : Verdict) : Made (new verdict)
  | withIndex {g : Gact} (h : Made g) (index : UInt32) : Made (g.withIndex index)
  | random {g : Gact} (h : Made g) (percent : UInt16) (other : Verdict) :
      Made (g.random percent other)
  | deterministic {g : Gact} (h : Made g) (n : UInt16) (other : Verdict) :
      Made (g.deterministic n other)

/-- Where the mode says that there is no share, none is kept. -/
theorem Made.of_always {g : Gact} (h : g.Made) (hm : g.mode = always) :
    g = (Gact.new g.verdict).withIndex g.index := by
  induction h with
  | new verdict => rfl
  | withIndex _ index ih =>
      have := ih hm
      rw [this]
      rfl
  | random _ percent other _ => exact absurd hm (by simp [Gact.random, byChance, always])
  | deterministic _ n other _ => exact absurd hm (by simp [Gact.deterministic, oneIn, always])

/-- What is left of a plain verdict when it is written: no share where the mode says that there is
none. -/
def normal (g : Gact) : Gact :=
  if g.mode = always then (new g.verdict).withIndex g.index else g

theorem normal_of_always {g : Gact} (h : g.mode = always) :
    g.normal = (new g.verdict).withIndex g.index := if_pos h

theorem normal_of_ne_always {g : Gact} (h : g.mode ≠ always) : g.normal = g := if_neg h

@[simp] theorem index_normal (g : Gact) : g.normal.index = g.index := by
  by_cases hm : g.mode = always
  · rw [normal_of_always hm]
    rfl
  · rw [normal_of_ne_always hm]

@[simp] theorem verdict_normal (g : Gact) : g.normal.verdict = g.verdict := by
  by_cases hm : g.mode = always
  · rw [normal_of_always hm]
    rfl
  · rw [normal_of_ne_always hm]

/-- The share that is lost was not in force. -/
@[simp] theorem probability_normal (g : Gact) : g.normal.probability = g.probability := by
  by_cases hm : g.mode = always
  · rw [normal_of_always hm, probability, probability, if_pos hm]
    rfl
  · rw [normal_of_ne_always hm]

theorem normal_eq_self_iff (g : Gact) :
    g.normal = g ↔ (g.mode = always → g.share = 0 ∧ g.other = .pass) := by
  by_cases hm : g.mode = always
  · rw [normal_of_always hm]
    obtain ⟨index, verdict, mode, share, other⟩ := g
    simp only at hm
    simp [hm, new, withIndex, eq_comm]
  · simp [normal_of_ne_always hm, hm]

theorem Made.normal_eq {g : Gact} (h : g.Made) : g.normal = g := by
  by_cases hm : g.mode = always
  · rw [normal_of_always hm, ← h.of_always hm]
  · exact normal_of_ne_always hm

/-- Nothing that is lost would be written. -/
theorem write_normal (g : Gact) : g.normal.write = g.write := by
  by_cases hm : g.mode = always
  · rw [normal_of_always hm]
    have hnew : ((new g.verdict).withIndex g.index).mode = always := rfl
    simp only [write, hm, hnew, ne_eq, not_true_eq_false, if_false]
    rfl
  · rw [normal_of_ne_always hm]

def shareOctets (g : Gact) : Octets :=
  Octets.u16 g.mode ++ (Octets.u16 g.share ++ Octets.i32 g.other)

@[simp] theorem length_shareOctets (g : Gact) : g.shareOctets.length = 8 := by simp [shareOctets]

def attrs (g : Gact) : List Attr :=
  [⟨paramsType, (Params.of g.index g.verdict).octets⟩] ++
    Attr.optional shareType (if g.mode = always then none else some g.shareOctets)

theorem yields_write (g : Gact) : Build.Yields g.write g.attrs := by
  rw [write, attrs]
  refine (Build.Yields.attr (by decide) (by rw [Params.length_octets]; decide)).bind ?_
  by_cases hm : g.mode = always
  · rw [if_neg (not_not_intro hm), if_pos hm]
    exact .pure
  · rw [if_pos hm, if_neg hm, List.append_assoc]
    exact .attr (by decide) (by simp [Attr.headerLength, Attr.maxLength])

theorem parse_of_list {g : Gact} {d : Octets} (h : Attr.list d = g.attrs) :
    parse d = .ok g.normal := by
  have hlast (i : Nat) : Table.last? i g.attrs =
      (if 3 = i then (if g.mode = always then none else some g.shareOctets) else none).or
        (if 2 = i then some (Params.of g.index g.verdict).octets else none) := by
    rw [attrs, Table.last?_append, Table.last?_optional, Table.last?_singleton]
    rfl
  obtain ⟨t, hc, ht⟩ := Table.readChecked_of_list policy rfl h (by
    by_cases hm : g.mode = always <;> simp [hlast, hm])
  have hp : t.get paramsType.toNat = some (Params.of g.index g.verdict).octets := by
    rw [ht _ (by decide), hlast]
    rfl
  have hs : t.get shareType.toNat = if g.mode = always then none else some g.shareOctets := by
    rw [ht _ (by decide), hlast]
    exact Option.or_none
  have hmode : Octets.u16At g.shareOctets 0 = g.mode := Octets.u16At_u16_append ..
  have hshare : Octets.u16At g.shareOctets 2 = g.share := by
    rw [shareOctets, Octets.u16At_append_right (by simp)]
    exact Octets.u16At_u16_append ..
  have hother : Octets.i32At g.shareOctets 4 = g.other := by
    rw [shareOctets, Octets.i32At_append_right (by simp), Octets.i32At_append_right (by simp)]
    exact Octets.i32At_i32 _
  simp only [parse, hc, bind, Except.bind, Table.require, hp, hs, Params.read_octets]
  by_cases hm : g.mode = always
  · rw [if_pos hm, normal_of_always hm]
    rfl
  · rw [if_neg hm, normal_of_ne_always hm]
    simp only [hmode, hshare, hother]
    rfl

theorem sizeAll_attrs_le (g : Gact) : Attr.sizeAll g.attrs ≤ Configuration.maxLength := by
  rw [attrs, Attr.sizeAll_append, Attr.sizeAll_singleton, Params.length_octets]
  by_cases hm : g.mode = always
  · rw [if_pos hm]
    decide
  · rw [if_neg hm, Attr.optional, Option.toList_some, List.map_singleton, Attr.sizeAll_singleton,
      length_shareOctets]
    decide

theorem readsBack {g : Gact} (hg : g.Made) : Configuration.ReadsBack g :=
  Configuration.readsBack_of_yields g.yields_write g.sizeAll_attrs_le fun _ hd =>
    (parse_of_list hd).trans (congrArg Except.ok hg.normal_eq)

end Gact

namespace Mirred

def paramsOctets (m : Mirred) : Octets :=
  (Params.of m.index m.verdict).octets ++ Octets.i32 m.direction ++ Octets.u32 m.ifindex

@[simp] theorem length_paramsOctets (m : Mirred) : m.paramsOctets.length = 28 := by
  simp [paramsOctets, Params.length]

theorem yields_write (m : Mirred) : Build.Yields m.write [⟨paramsType, m.paramsOctets⟩] :=
  .attr (by decide) (by rw [← paramsOctets, length_paramsOctets]; decide)

theorem parse_of_list {m : Mirred} {d : Octets} (h : Attr.list d = [⟨paramsType, m.paramsOctets⟩]) :
    parse d = .ok m := by
  obtain ⟨t, hc, ht⟩ := Table.readChecked_of_list policy rfl h (by simp [Table.last?_singleton])
  have hp : t.get paramsType.toNat = some m.paramsOctets := by
    rw [ht _ (by decide), Table.last?_singleton]
    rfl
  have hcommon : Params.read m.paramsOctets = Params.of m.index m.verdict := by
    rw [paramsOctets, List.append_assoc, Params.read_octets_append]
  have hdirection : Octets.i32At m.paramsOctets 20 = m.direction := by
    rw [paramsOctets, List.append_assoc, Octets.i32At_append_right (by simp)]
    simp [Octets.i32At_i32_append]
  have hifindex : Octets.u32At m.paramsOctets 24 = m.ifindex := by
    rw [paramsOctets, Octets.u32At_append_right (by simp [Params.length])]
    simp [Octets.u32At_u32, Params.length]
  simp only [parse, hc, bind, Except.bind, Table.require, hp, hcommon, hdirection, hifindex]
  rfl

theorem readsBack (m : Mirred) : Configuration.ReadsBack m := by
  refine Configuration.readsBack_of_yields m.yields_write ?_ fun d => parse_of_list
  rw [Attr.sizeAll_singleton, length_paramsOctets]
  decide

end Mirred

namespace Skbedit

def attrs (s : Skbedit) : List Attr :=
  [⟨paramsType, (Params.of s.index s.verdict).octets⟩] ++
    (Attr.optional queueType (s.queue.map Octets.u16) ++
      (Attr.optional priorityType (s.priority.map Octets.u32) ++
        (Attr.optional markType (s.mark.map Octets.u32) ++
          Attr.optional maskType (s.mask.map Octets.u32))))

theorem yields_write (s : Skbedit) : Build.Yields s.write s.attrs := by
  refine (Build.Yields.attr (by decide) (by rw [Params.length_octets]; decide)).bind ?_
  refine (Build.Yields.optional (.attrU16 (by decide)) s.queue).bind ?_
  refine (Build.Yields.optional (.attrU32 (by decide)) s.priority).bind ?_
  refine (Build.Yields.optional (.attrU32 (by decide)) s.mark).bind ?_
  exact Build.Yields.optional (.attrU32 (by decide)) s.mask

theorem parse_of_list {s : Skbedit} {d : Octets} (h : Attr.list d = s.attrs) :
    parse d = .ok s := by
  have hlast (i : Nat) : Table.last? i s.attrs =
      ((((if 8 = i then s.mask.map Octets.u32 else none).or
        (if 5 = i then s.mark.map Octets.u32 else none)).or
        (if 3 = i then s.priority.map Octets.u32 else none)).or
        (if 4 = i then s.queue.map Octets.u16 else none)).or
        (if 2 = i then some (Params.of s.index s.verdict).octets else none) := by
    simp only [attrs, Table.last?_append, Table.last?_optional, Table.last?_singleton]
    rfl
  obtain ⟨t, hc, ht⟩ := Table.readChecked_of_list policy rfl h (by simp [hlast])
  have hp : t.get paramsType.toNat = some (Params.of s.index s.verdict).octets := by
    rw [ht _ (by decide), hlast]
    rfl
  have hqueue : t.get queueType.toNat = s.queue.map Octets.u16 := by
    rw [ht _ (by decide), hlast]
    simp [queueType]
  have hpriority : t.get priorityType.toNat = s.priority.map Octets.u32 := by
    rw [ht _ (by decide), hlast]
    simp [priorityType]
  have hmark : t.get markType.toNat = s.mark.map Octets.u32 := by
    rw [ht _ (by decide), hlast]
    simp [markType]
  have hmask : t.get maskType.toNat = s.mask.map Octets.u32 := by
    rw [ht _ (by decide), hlast]
    simp [maskType]
  simp only [parse, hc, bind, Except.bind, Table.require, hp, Params.read_octets, hqueue,
    Attr.mapM_map_of_ok Attr.toU16_u16, hpriority, hmark, hmask,
    Attr.mapM_map_of_ok Attr.toU32_u32]
  rfl

theorem readsBack (s : Skbedit) : Configuration.ReadsBack s := by
  refine Configuration.readsBack_of_yields s.yields_write ?_ fun d => parse_of_list
  have hu16 (n : Option UInt16) (t : UInt16) :
      Attr.sizeAll (Attr.optional t (n.map Octets.u16)) ≤ 8 :=
    Attr.sizeAll_optional_le (by simp)
  have hu32 (n : Option UInt32) (t : UInt16) :
      Attr.sizeAll (Attr.optional t (n.map Octets.u32)) ≤ 8 :=
    Attr.sizeAll_optional_le (by simp)
  have := hu16 s.queue queueType
  have := hu32 s.priority priorityType
  have := hu32 s.mark markType
  have := hu32 s.mask maskType
  have hp : align (Attr.headerLength + Params.length) = 24 := rfl
  simp only [attrs, Attr.sizeAll_append, Attr.sizeAll_singleton, Params.length_octets, hp,
    Configuration.maxLength]
  omega

end Skbedit

namespace Vlan

def paramsOctets (v : Vlan) : Octets :=
  (Params.of v.index v.verdict).octets ++ Octets.i32 v.operation

@[simp] theorem length_paramsOctets (v : Vlan) : v.paramsOctets.length = 24 := by
  simp [paramsOctets, Params.length]

def attrs (v : Vlan) : List Attr :=
  [⟨paramsType, v.paramsOctets⟩] ++
    (Attr.optional idType (v.id.map Octets.u16) ++
      (Attr.optional priorityType (v.priority.map fun n => [n]) ++
        [⟨protocolType, Octets.u16BE v.protocol⟩]))

theorem yields_write (v : Vlan) : Build.Yields v.write v.attrs := by
  have hl : Attr.headerLength + v.paramsOctets.length ≤ Attr.maxLength := by
    rw [length_paramsOctets]
    decide
  refine (Build.Yields.attr (by decide) hl).bind ?_
  refine (Build.Yields.optional (.attrU16 (by decide)) v.id).bind ?_
  refine (Build.Yields.optional (.attrU8 (by decide)) v.priority).bind ?_
  exact .attrU16BE (by decide) v.protocol

theorem parse_of_list {v : Vlan} {d : Octets} (h : Attr.list d = v.attrs) : parse d = .ok v := by
  have hlast (i : Nat) : Table.last? i v.attrs =
      (((if 4 = i then some (Octets.u16BE v.protocol) else none).or
        (if 6 = i then v.priority.map (fun n => [n]) else none)).or
        (if 3 = i then v.id.map Octets.u16 else none)).or
        (if 2 = i then some v.paramsOctets else none) := by
    simp only [attrs, Table.last?_append, Table.last?_optional, Table.last?_singleton]
    rfl
  obtain ⟨t, hc, ht⟩ := Table.readChecked_of_list policy rfl h (by simp [hlast])
  have hp : t.get paramsType.toNat = some v.paramsOctets := by
    rw [ht _ (by decide), hlast]
    rfl
  have hid : t.get idType.toNat = v.id.map Octets.u16 := by
    rw [ht _ (by decide), hlast]
    simp [idType]
  have hpriority : t.get priorityType.toNat = v.priority.map fun n => [n] := by
    rw [ht _ (by decide), hlast]
    simp [priorityType]
  have hprotocol : t.get protocolType.toNat = (some v.protocol).map Octets.u16BE := by
    rw [ht _ (by decide), hlast]
    rfl
  have hcommon : Params.read v.paramsOctets = Params.of v.index v.verdict :=
    Params.read_octets_append ..
  have hoperation : Octets.i32At v.paramsOctets 20 = v.operation := by
    rw [paramsOctets, Octets.i32At_append_right (by simp), Params.length_octets]
    exact Octets.i32At_i32 _
  have hu8 (n : UInt8) : Attr.toU8 [n] = .ok n := rfl
  simp only [parse, hc, bind, Except.bind, Table.require, hp, hcommon, hoperation, hid,
    Attr.mapM_map_of_ok Attr.toU16_u16, hpriority, Attr.mapM_map_of_ok hu8, hprotocol,
    Attr.mapM_map_of_ok Attr.toU16BE_u16BE]
  rfl

theorem readsBack (v : Vlan) : Configuration.ReadsBack v := by
  refine Configuration.readsBack_of_yields v.yields_write ?_ fun d => parse_of_list
  have : Attr.sizeAll (Attr.optional idType (v.id.map Octets.u16)) ≤ 8 :=
    Attr.sizeAll_optional_le (by simp)
  have : Attr.sizeAll (Attr.optional priorityType (v.priority.map fun n => [n])) ≤ 8 :=
    Attr.sizeAll_optional_le (by simp)
  have hp : align (Attr.headerLength + 24) = 28 := rfl
  have hprotocol : align (Attr.headerLength + 2) = 8 := rfl
  simp only [attrs, Attr.sizeAll_append, Attr.sizeAll_singleton, length_paramsOctets, hp,
    Octets.length_u16BE, hprotocol, Configuration.maxLength]
  omega

end Vlan

end TrafficControl
