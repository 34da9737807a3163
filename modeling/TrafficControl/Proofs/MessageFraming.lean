import TrafficControl.Proofs.BatchPickup
import TrafficControl.Proofs.BuilderRuns

/-!
# Messages one behind the other

Finished messages that stand one behind the other in a buffer are read back one by one, each as it
was built. Of any buffer the messages that are read tile it: each begins at a whole word, the next
one behind its filling, and reading ends where no header is left, or with the one fault of a length
that cannot be right.
-/
namespace TrafficControl.Message

theorem isPadded_finish {b : Builder} (h : b.length < 2 ^ 32) : IsPadded b.finish := by
  refine ⟨isWhole_finish h, ?_⟩
  rw [length_front_finish h, Builder.length_finish, align_eq_self b.length_mod_four]

theorem frames_flatten_finish (bs : List Builder) (h : ∀ b ∈ bs, b.length < 2 ^ 32) :
    frames (bs.map Builder.finish).flatten =
      bs.map fun b => .ok ⟨b.header b.length, b.payload⟩ := by
  have hpadded : ∀ m ∈ bs.map Builder.finish, IsPadded m := by
    intro m hm
    obtain ⟨b, hb, rfl⟩ := List.mem_map.mp hm
    exact isPadded_finish (h b hb)
  have hframes := frames_flatten_append hpadded []
  rw [List.append_nil, frames_nil, List.append_nil, List.map_map] at hframes
  rw [hframes]
  exact List.map_congr_left fun b hb => congrArg Except.ok (front_finish (h b hb))

/-- A message that calls have built, with every nest in it ended or cancelled. -/
structure Built where
  type : UInt16
  flags : UInt16
  limit : Nat
  calls : List Builder.Call
  builder : Builder
  run : Builder.Run (.start type flags limit) calls ⟨builder, []⟩

namespace Built

/-- The message that allowed calls build, when they leave no nest open. -/
def ofCalls (type flags : UInt16) (limit : Nat) (calls : List Builder.Call)
    (h : (Builder.Draft.start type flags limit).AllowsAll calls)
    (hn : (calls.foldl Builder.Draft.after (.start type flags limit)).nests = []) : Built where
  type
  flags
  limit
  calls
  builder := (calls.foldl Builder.Draft.after (.start type flags limit)).builder
  run := by
    have hrun := Builder.Run.of_allowsAll (.start type flags limit) calls h
    rwa [show calls.foldl Builder.Draft.after (.start type flags limit) = ⟨_, []⟩ from
      congrArg (Builder.Draft.mk _) hn] at hrun

def octets (m : Built) : Octets := m.builder.finish

/-- The message as it is to be read: with its own length, and with type, flags and sequence number
as the calls have set them. -/
def frame (m : Built) : Frame where
  header := {
    length := UInt32.ofNat m.builder.length
    type := m.type
    flags := Builder.flagsAfter m.flags m.calls
    seq := Builder.seqAfter m.calls
    pid := 0 }
  payload := m.builder.payload

theorem frame_eq (m : Built) :
    m.frame = ⟨m.builder.header m.builder.length, m.builder.payload⟩ := by
  have hk := m.run.keeps
  rw [frame, Builder.header, hk.type, hk.flags, hk.seq]

end Built

/-- These frames, and no more, are to be read in `d` from index `i` on. -/
inductive Tiles (d : Octets) : Nat → List (Except Error Frame) → Prop
  | finished {i} (h : d.length < i + headerLength) : Tiles d i []
  | badLength {i} (h : i + headerLength ≤ d.length)
      (hn : (Octets.u32At d i).toNat < headerLength ∨ d.length < i + (Octets.u32At d i).toNat) :
      Tiles d i [.error (.invalidMessage (.badLength (Octets.u32At d i).toNat))]
  | frame {i fs} (h : headerLength ≤ (Octets.u32At d i).toNat)
      (hn : i + (Octets.u32At d i).toNat ≤ d.length)
      (next : Tiles d (i + align (Octets.u32At d i).toNat) fs) :
      Tiles d i (.ok ⟨Header.readAt d i,
        (d.drop (i + headerLength)).take ((Octets.u32At d i).toNat - headerLength)⟩ :: fs)

section Drop

variable {d : Octets} {i : Nat}

theorem front_drop (d : Octets) (i : Nat) :
    front (d.drop i) = ⟨Header.readAt d i,
      (d.drop (i + headerLength)).take ((Octets.u32At d i).toNat - headerLength)⟩ := by
  have hh : Header.readAt (d.drop i) 0 = Header.readAt d i := by
    simp only [Header.readAt, Octets.u32At_drop, Octets.u16At, List.drop_drop, Nat.zero_add,
      Nat.add_zero]
  rw [front, hh, List.drop_take, List.drop_drop]
  rfl

theorem length_front_drop (d : Octets) (i : Nat) :
    (front (d.drop i)).header.length.toNat = (Octets.u32At d i).toNat := by
  rw [front_drop]
  rfl

theorem isWhole_drop_iff : IsWhole (d.drop i) ↔
    headerLength ≤ (Octets.u32At d i).toNat ∧ i + (Octets.u32At d i).toNat ≤ d.length := by
  rw [IsWhole, length_front_drop, List.length_drop]
  rw [headerLength]
  omega

theorem behind_drop (d : Octets) (i : Nat) :
    behind (d.drop i) = d.drop (i + align (Octets.u32At d i).toNat) := by
  rw [behind, length_front_drop, List.drop_drop]

end Drop

theorem Tiles.eq {d : Octets} {i : Nat} {fs : List (Except Error Frame)} (h : Tiles d i fs) :
    frames (d.drop i) = fs := by
  induction h with
  | finished h =>
      refine frames_of_none (next?_of_short ?_)
      rw [List.length_drop]
      rw [headerLength] at *
      omega
  | @badLength i h hn =>
      have hshort : headerLength ≤ (d.drop i).length := by
        rw [List.length_drop]
        omega
      have hwhole : ¬ IsWhole (d.drop i) := by
        rw [isWhole_drop_iff]
        omega
      rw [frames_of_some (next?_of_not_isWhole hshort hwhole), length_front_drop, frames_nil]
  | frame h hn _ ih =>
      rw [frames_of_some (next?_of_isWhole (isWhole_drop_iff.mpr ⟨h, hn⟩)), front_drop,
        behind_drop, ih]

/-- Some rule applies at every index, and the octets behind a message are fewer. -/
theorem Tiles.exists (d : Octets) (i : Nat) : ∃ fs, Tiles d i fs := by
  induction hn : d.length - i using Nat.strongRecOn generalizing i with
  | ind n ih =>
      by_cases hshort : d.length < i + headerLength
      · exact ⟨_, .finished hshort⟩
      rw [Nat.not_lt] at hshort
      by_cases hwhole : headerLength ≤ (Octets.u32At d i).toNat ∧
          i + (Octets.u32At d i).toNat ≤ d.length
      · have hle := le_align (Octets.u32At d i).toNat
        rw [headerLength] at *
        obtain ⟨fs, hfs⟩ := ih (d.length - (i + align (Octets.u32At d i).toNat)) (by omega) _ rfl
        exact ⟨_, .frame hwhole.1 hwhole.2 hfs⟩
      · exact ⟨_, .badLength hshort (by omega)⟩

theorem tiles_iff {d : Octets} {i : Nat} {fs : List (Except Error Frame)} :
    Tiles d i fs ↔ frames (d.drop i) = fs := by
  refine ⟨Tiles.eq, fun h => ?_⟩
  obtain ⟨gs, hgs⟩ := Tiles.exists d i
  rwa [← h, hgs.eq]

/-- What is left to read after so many attempts. An attempt that finds nothing takes nothing. -/
def rest (d : Octets) : Nat → Octets
  | 0 => d
  | k + 1 =>
    match next? d with
    | some (_, r) => rest r k
    | none => rest d k

/-- Attempt for attempt the messages are found, and after the last of them nothing. -/
theorem map_next?_rest (d : Octets) (k : Nat) :
    (next? (rest d k)).map (·.1) = (frames d)[k]? := by
  induction k generalizing d with
  | zero =>
      cases h : next? d with
      | none => rw [rest, h, frames_of_none h, Option.map_none, List.getElem?_nil]
      | some p => rw [rest, h, frames_of_some h, Option.map_some, List.getElem?_cons_zero]
  | succ k ih =>
      cases h : next? d with
      | none =>
          rw [rest, h, ih d, frames_of_none h, List.getElem?_nil, List.getElem?_nil]
      | some p => rw [rest, h, ih p.2, frames_of_some h, List.getElem?_cons_succ]

/-- Built messages in a row are read as what they are, and the frames that are read in any buffer
tile it from its beginning. -/
theorem frames_flatten_and_tiles {ms : List Built} (h : ∀ m ∈ ms, m.builder.length < 2 ^ 32) :
    (frames (ms.map Built.octets).flatten = ms.map (.ok ·.frame) ∧
      ∀ m ∈ ms, m.frame.header.length.toNat = m.builder.length) ∧
    ∀ d, (∀ fs, Tiles d 0 fs ↔ frames d = fs) ∧
      ∀ k, (next? (rest d k)).map (·.1) = (frames d)[k]? := by
  refine ⟨⟨?_, fun m hm => UInt32.toNat_ofNat_of_lt' (h m hm)⟩,
    fun d => ⟨fun fs => tiles_iff, map_next?_rest d⟩⟩
  have hframes := frames_flatten_finish (ms.map (·.builder)) fun b hb => by
    obtain ⟨m, hm, rfl⟩ := List.mem_map.mp hb
    exact h m hm
  rw [List.map_map, List.map_map] at hframes
  have hmap : (ms.map Built.octets) = ms.map (Builder.finish ∘ (·.builder)) := rfl
  rw [hmap, hframes]
  exact List.map_congr_left fun m _ => congrArg Except.ok m.frame_eq.symm

/-- A message with a nest and a sequence number, and one whose only call has failed. -/
def twoBuilt : List Built :=
  [.ofCalls 48 1 64 [.append [1, 2, 3, 4, 5], .startNest 1, .attr 2 (.u8 9), .endNest ⟨8, rfl⟩,
      .addFlags 0x400, .setSeq 7] (by decide +kernel) (by decide +kernel),
    .ofCalls 3 2 0 [.append [1]] (by decide +kernel) (by decide +kernel)]

theorem frames_twoBuilt :
    (∀ m ∈ twoBuilt, m.builder.length < 2 ^ 32) ∧
      frames (twoBuilt.map Built.octets).flatten = twoBuilt.map (.ok ·.frame) ∧
      twoBuilt.map (·.frame.header) = [⟨36, 48, 0x401, 7, 0⟩, ⟨16, 3, 2, 0, 0⟩] := by
  have h : ∀ m ∈ twoBuilt, m.builder.length < 2 ^ 32 := by decide +kernel
  exact ⟨h, (frames_flatten_and_tiles h).1.1, by decide +kernel⟩

end TrafficControl.Message
