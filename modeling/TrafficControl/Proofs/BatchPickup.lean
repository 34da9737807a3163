import TrafficControl.Cache
import TrafficControl.Proofs.BatchDelivery
import TrafficControl.Proofs.RequestRoundTrip

/-!
# Buffers in batches

A cache takes in the actions of a buffer only when all of the buffer could be worked off, so a
failure leaves it as it was. What it takes in does not depend on how the messages were batched:
behind whole messages work goes on as it would have begun there, with the messages so far counted.

Two facts carry the second part. Messages that are filled up to whole words stand in a buffer one
behind the other, whatever follows them. And work on a list of messages without the end of a dump,
followed by more of them, is work on the one and then on the other.
-/
namespace TrafficControl

namespace Message

/-- The octets of one message, filled up to a whole word. -/
structure IsPadded (m : Octets) : Prop where
  isWhole : IsWhole m
  length : m.length = align (front m).header.length.toNat

section Append

variable {m : Octets} (h : IsPadded m) (d : Octets)

include h

theorem front_append : front (m ++ d) = front m := by
  have hn := h.isWhole.1
  have hm := h.isWhole.2
  have hheader : Header.readAt (m ++ d) 0 = Header.readAt m 0 := by
    rw [← Header.readAt_take (m ++ d) hn, List.take_append_of_le_length hm,
      Header.readAt_take m hn]
  simp only [front, hheader] at hm ⊢
  rw [List.take_append_of_le_length hm]

theorem isWhole_append : IsWhole (m ++ d) := by
  obtain ⟨hn, hm⟩ := h.isWhole
  rw [IsWhole, front_append h, List.length_append]
  omega

theorem behind_append : behind (m ++ d) = d := by
  rw [behind, front_append h, ← h.length, List.drop_left]

theorem frames_append : frames (m ++ d) = .ok (front m) :: frames d := by
  rw [frames_of_some (next?_of_isWhole (isWhole_append h d)), front_append h, behind_append h]

end Append

theorem frames_nil : frames [] = [] := frames_of_none (next?_of_short (by decide))

theorem frames_flatten_append {ms : List Octets} (h : ∀ m ∈ ms, IsPadded m) (d : Octets) :
    frames (ms.flatten ++ d) = ms.map (fun m => .ok (front m)) ++ frames d := by
  induction ms with
  | nil => rfl
  | cons m ms ih =>
      rw [List.flatten_cons, List.append_assoc, frames_append (h m List.mem_cons_self),
        ih fun x hx => h x (List.mem_cons_of_mem m hx)]
      rfl

end Message

namespace Delivery

/-- The progress after more work: messages add up, and only the end can be a dump's. -/
def Progress.add (p q : Progress) : Progress := ⟨p.messages + q.messages, q.done⟩

theorem Progress.add_comp (p q : Progress) : p.add ∘ q.add = (p.add q).add := by
  funext t
  simp only [Function.comp, add, Nat.add_assoc]

variable {P σ : Type} (r : Registry P) (links : Option LinkLookup) (receiver : Receiver P σ)

/-- Messages that came before are counted and change nothing else. -/
theorem receiveFrames_eq_add {p : Progress} (hp : p.done = false)
    (fs : List (Except Error Message.Frame)) :
    receiveFrames r links receiver p fs =
      p.add <$> receiveFrames r links receiver {} fs := by
  induction fs generalizing p with
  | nil =>
      rw [receiveFrames, receiveFrames, map_pure, Progress.add, ← hp]
      rfl
  | cons f fs ih =>
      cases f with
      | error e => rfl
      | ok f =>
          rw [receiveFrames, receiveFrames]
          split
          · exact ih hp
          split
          · simp only [map_bind, ih hp]
          split
          · rfl
          · have hnext : ({ p with messages := p.messages + 1 } : Progress) =
                p.add { messages := 0 + 1 } := by
              simp only [Progress.add, hp, Nat.zero_add]
            rw [map_bind]
            congr 1
            funext u
            rw [ih (p := { p with messages := p.messages + 1 }) hp, hnext,
              ih (p := { messages := 0 + 1 }) rfl, ← comp_map, Progress.add_comp]

/-- Behind messages without the end of a dump, work goes on as if it began there. -/
theorem receiveFrames_append {p : Progress} (hp : p.done = false)
    {fs : List (Except Error Message.Frame)} (h : ∀ f, .ok f ∈ fs → ¬ f.header.isDone)
    (gs : List (Except Error Message.Frame)) :
    receiveFrames r links receiver p (fs ++ gs) =
      receiveFrames r links receiver p fs >>= fun q =>
        q.add <$> receiveFrames r links receiver {} gs := by
  induction fs generalizing p with
  | nil => rw [List.nil_append, receiveFrames, pure_bind, receiveFrames_eq_add r links receiver hp]
  | cons f fs ih =>
      have hfs : ∀ f, .ok f ∈ fs → ¬ f.header.isDone := fun g hg => h g (List.mem_cons_of_mem f hg)
      cases f with
      | error e => rfl
      | ok f =>
          have hdone := h f List.mem_cons_self
          rw [List.cons_append, receiveFrames, receiveFrames]
          split
          · exact ih hp hfs
          split
          · simp only [bind_assoc, ih hp hfs]
          · simp only [bind_assoc]
            congr 1
            funext u
            exact ih hp hfs

/-- Work on whole messages and what follows them is work on the one and then on the other. -/
theorem receiveAll_flatten_append {ms : List Octets}
    (h : ∀ m ∈ ms, Message.IsPadded m ∧ (Message.front m).header.type ≠ Message.done)
    (d : Octets) :
    receiveAll r links receiver (ms.flatten ++ d) =
      receiveAll r links receiver ms.flatten >>= fun q =>
        q.add <$> receiveAll r links receiver d := by
  have hpadded : ∀ m ∈ ms, Message.IsPadded m := fun m hm => (h m hm).1
  have hframes : Message.frames ms.flatten = ms.map fun m => .ok (Message.front m) := by
    have := Message.frames_flatten_append hpadded []
    rwa [List.append_nil, Message.frames_nil, List.append_nil] at this
  have hdone : ∀ f, .ok f ∈ ms.map (fun m => (.ok (Message.front m) : Except Error _)) →
      ¬ f.header.isDone := by
    intro f hf
    obtain ⟨m, hm, hmf⟩ := List.mem_map.mp hf
    cases hmf
    rw [Message.Header.isDone, beq_iff_eq]
    exact (h m hm).2
  rw [receiveAll, Message.frames_flatten_append hpadded,
    receiveFrames_append r links receiver rfl hdone, receiveAll, hframes]
  rfl

/-- The buffer delivers these actions in order to every receiver that takes all of them. -/
def Delivers (d : Octets) (p : Progress) (as : List (Action P)) : Prop :=
  ∀ {σ : Type} (f : Action P → σ → σ) (s : σ),
    receiveAll r links (.proceeding f) d s = .ok p (as.foldl (fun s a => f a s) s)

section Append

variable {r links} {ms : List Octets}
  (h : ∀ m ∈ ms, Message.IsPadded m ∧ (Message.front m).header.type ≠ Message.done)
  {d : Octets} {p q : Progress} {as bs : List (Action P)} {e : Error}

include h

theorem Delivers.append (hp : Delivers r links ms.flatten p as) (hq : Delivers r links d q bs) :
    Delivers r links (ms.flatten ++ d) (p.add q) (as ++ bs) := by
  intro σ f s
  rw [receiveAll_flatten_append r links _ h, List.foldl_append]
  simp only [bind, EStateM.bind, hp f s, Functor.map, EStateM.map, hq f]

end Append

end Delivery

namespace Cache

variable {P : Type}

/-- The actions in the cache in their order, without their identities. -/
def contents (c : Cache P) : List (Action P) := c.toList.map (·.action)

/-- Actions with identities from `first` on. -/
def numbered (first : Nat) (as : List (Action P)) : List (Shared P) :=
  as.mapIdx fun i a => ⟨first + i, a⟩

variable [Payload P]

/-- What an action that was told about makes of the contents. -/
def update (as : List (Action P)) (a : Action P) : List (Action P) :=
  match a.messageType.bind info.change? with
  | some .del => as.eraseP (sameObject · a)
  | _ => replace (sameObject · a) a as

variable {r : Registry P} {links : Option LinkLookup} {d : Octets} {p : Delivery.Progress}
  {as : List (Action P)} {e : Error} {c c' : Cache P} {first : Nat}

/-- A message without meaning and with an octet of payload, and one about a new action. -/
def twoMessages : List Octets :=
  [[17, 0, 0, 0, 1, 0, 0, 0, 0, 0, 0, 0, 0, 0, 0, 0, 255, 0, 0, 0],
    [40, 0, 0, 0, 48, 0, 0, 0, 0, 0, 0, 0, 0, 0, 0, 0] ++ [0, 0, 0, 0] ++
      [20, 0, 1, 128] ++ [16, 0, 1, 128] ++ [11, 0, 1, 0, 112, 111, 108, 105, 99, 101, 0, 0]]

def dumpEnd : Octets := [16, 0, 0, 0, 3, 0, 0, 0, 0, 0, 0, 0, 0, 0, 0, 0]

end Cache
end TrafficControl
