import TrafficControl.Config.Basic
import TrafficControl.Link
import TrafficControl.Stats

/-!
# Actions

An action is one step in the treatment of a packet: its kind, the configuration or the raw options
attached to it, and what a message told about it. Kind names are short, and a longer one is cut.
Once something is attached the kind is locked. Main statements: a kind set on an action is short
(`size_kindName_le`), and a locked action refuses another kind (`setKind_of_locked`).
-/
namespace TrafficControl

def kindBound : Nat := 16

/-- A kind name as it is kept: cut so that it and a closing zero fit into its octets. -/
def kindName (s : String) : String := Text.truncate s (kindBound - 1)

theorem size_kindName_le (s : String) : Text.size (kindName s).toList < kindBound := by
  have := Text.size_takeOctets_le (kindBound - 1) s.toList
  simp only [kindName, Text.truncate, String.toList_ofList, kindBound] at *
  omega

/-- One step in the treatment of a packet. -/
structure Action (P : Type) where
  kind : Option String := none
  payload : Option P := none
  options : Option Octets := none
  stats : Stats := {}
  family : UInt8 := 0
  /-- The index of the link it belongs to, 0 for none. -/
  ifindex : Int32 := 0
  messageType : Option UInt16 := none
  /-- The link it belongs to, where a lookup found it. -/
  link : Option Link := none
deriving DecidableEq

namespace Action

variable {P : Type}

def empty : Action P := {}

def ofKind (kind : String) : Action P := { kind := some (kindName kind) }

/-- Whether something is attached that belongs to the kind. -/
def isAttached (a : Action P) : Bool := a.payload.isSome || a.options.isSome

/-- The action with another kind, unless something is attached that belongs to a different one. -/
def setKind (a : Action P) (kind : String) : Except Error (Action P) :=
  match a.kind with
  | some current =>
    if a.isAttached ∧ current ≠ kindName kind then .error (.kindLocked current)
    else .ok { a with kind := some (kindName kind) }
  | none => .ok { a with kind := some (kindName kind) }

def setOptions (a : Action P) (options : Octets) : Action P := { a with options := some options }

def setStats (a : Action P) (stats : Stats) : Action P := { a with stats }

def setIfindex (a : Action P) (ifindex : Int32) : Action P := { a with ifindex }

def setOrigin (a : Action P) (type : UInt16) (family : UInt8) : Action P :=
  { a with messageType := some type, family }

/-- The action with the link that a lookup finds for it, if any. -/
def resolve (a : Action P) (links : LinkLookup) : Action P :=
  match links a.ifindex with
  | some link => { a with link := some link }
  | none => a

def attach (a : Action P) (payload : P) : Action P := { a with payload := some payload }

theorem setKind_of_locked {a : Action P} {current kind : String} (h : a.kind = some current)
    (ha : a.isAttached) (hk : current ≠ kindName kind) :
    a.setKind kind = .error (.kindLocked current) := by
  simp [setKind, h, ha, hk]

section Payload

variable [Payload P]

def setPayload (a : Action P) (p : P) : Except Error (Action P) :=
  match a.kind with
  | some current =>
    if current ≠ kindName (Payload.kind p) then .error (.kindLocked current)
    else .ok { a with kind := some (kindName (Payload.kind p)), payload := some p }
  | none => .ok { a with kind := some (kindName (Payload.kind p)), payload := some p }

def index (a : Action P) : Option UInt32 := a.payload.map Payload.index

variable {α : Type} [Configuration α] [Holds P α]

def ofConfig (c : α) : Action P :=
  { kind := some (kindName (Configuration.kind α)), payload := some (Holds.payload c) }

def setConfig (a : Action P) (c : α) : Except Error (Action P) := a.setPayload (Holds.payload c)

def config? (α : Type) [Configuration α] [Holds P α] (a : Action P) : Option α :=
  a.payload.bind Holds.config?

end Payload
end Action
end TrafficControl
