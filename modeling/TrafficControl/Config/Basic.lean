import TrafficControl.Builder
import TrafficControl.Attr.Table

/-!
# Configurations

A configuration says what the actions of one kind do: it writes itself as option attributes and is
read back from them. The payloads that actions carry come from a type that holds the values of
several configuration types side by side; a payload knows its kind, and a configuration is found
in it again. Every kind begins its options with the parameters common to all kinds.
-/
namespace TrafficControl

abbrev Verdict := Int32

namespace Verdict

def pass : Verdict := 0

def reclassify : Verdict := 1

def drop : Verdict := 2

def pipe : Verdict := 3

def stolen : Verdict := 4

end Verdict

structure Params where
  /-- Number of the action in the kernel, 0 to let the kernel choose. -/
  index : UInt32
  capab : UInt32
  verdict : Verdict
  refcnt : Int32
  /-- Number of holders in filters. -/
  bindcnt : Int32
deriving DecidableEq, Repr

namespace Params

abbrev length : Nat := 20

def of (index : UInt32) (verdict : Verdict) : Params := ⟨index, 0, verdict, 0, 0⟩

def octets (p : Params) : Octets :=
  Octets.u32 p.index ++ Octets.u32 p.capab ++ Octets.i32 p.verdict ++ Octets.i32 p.refcnt ++
    Octets.i32 p.bindcnt

@[simp] theorem length_octets (p : Params) : p.octets.length = length := by
  simp [octets, length]

def read (d : Octets) : Params :=
  ⟨Octets.u32At d 0, Octets.u32At d 4, Octets.i32At d 8, Octets.i32At d 12, Octets.i32At d 16⟩

end Params

/-- A type of configurations, all of one kind. -/
class Configuration (α : Type) where
  kind : String
  /-- Number of the action in the kernel, 0 to let the kernel choose. -/
  index : α → UInt32
  write : α → Build Unit
  parse : Octets → Except Error α

/-- A type of payloads, perhaps of many kinds. -/
class Payload (P : Type) where
  kind : P → String
  /-- Number of the action in the kernel, 0 to let the kernel choose. -/
  index : P → UInt32
  write : P → Build Unit

/-- The configurations of type `α` are among the payloads of type `P`, where they keep their kind,
index and options and are found again. -/
class Holds (P α : Type) [Payload P] [Configuration α] where
  payload : α → P
  config? : P → Option α
  config?_eq_some_iff (p : P) (c : α) : config? p = some c ↔ p = payload c
  kind_payload (c : α) : Payload.kind (payload c) = Configuration.kind α
  index_payload (c : α) : Payload.index (payload c) = Configuration.index c
  write_payload (c : α) : Payload.write (payload c) = Configuration.write c

namespace Holds

variable {P α β : Type} [Payload P] [Configuration α] [Configuration β]

theorem config?_payload [Holds P α] (c : α) : config? (payload c : P) = some c :=
  (config?_eq_some_iff _ _).2 rfl

instance : Payload (P ⊕ α) where
  kind
    | .inl p => Payload.kind p
    | .inr _ => Configuration.kind α
  index
    | .inl p => Payload.index p
    | .inr c => Configuration.index c
  write
    | .inl p => Payload.write p
    | .inr c => Configuration.write c

instance : Holds (P ⊕ α) α where
  payload := .inr
  config?
    | .inl _ => none
    | .inr c => some c
  config?_eq_some_iff p c := by cases p <;> simp
  kind_payload _ := rfl
  index_payload _ := rfl
  write_payload _ := rfl

instance [Holds P β] : Holds (P ⊕ α) β where
  payload c := .inl (payload c)
  config?
    | .inl p => config? p
    | .inr _ => none
  config?_eq_some_iff p c := by cases p <;> simp [config?_eq_some_iff]
  kind_payload c := kind_payload (P := P) c
  index_payload c := index_payload (P := P) c
  write_payload c := write_payload (P := P) c

end Holds
end TrafficControl
