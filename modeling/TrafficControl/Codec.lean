import TrafficControl.Action

/-!
# Codecs

A codec writes and reads the options of one kind. Each of the two is optional: what a codec does
not write goes out as raw options, and what it does not read stays raw.
-/
namespace TrafficControl

inductive FillStyle where
  | nested
  | raw
deriving DecidableEq, Repr

structure Codec (P : Type) where
  name : String
  /-- Where the options are written, or nothing when they are not. -/
  style : Option FillStyle := none
  fill : Action P → Build Unit := fun _ => pure ()
  /-- Reads the options, which a message may leave out; none when it reads nothing. -/
  parse? : Option (Option Octets → Except Error (Option P)) := none

namespace Codec

variable {P : Type}

def canParse (c : Codec P) : Bool := c.parse?.isSome

/-- The payload that the codec reads from options, none when it reads nothing. -/
def parse (c : Codec P) (options : Option Octets) : Except Error (Option P) :=
  match c.parse? with
  | some f => f options
  | none => .ok none

variable [Payload P]

/-- Writes the configuration of an action, or else its raw options. -/
def fillPayload (a : Action P) : Build Unit :=
  match a.payload, a.options with
  | some p, _ => Payload.write p
  | none, some d => Build.append d
  | none, none => pure ()

def ofConfig (α : Type) [Configuration α] [Holds P α] : Codec P where
  name := Configuration.kind α
  style := some .nested
  fill := fillPayload
  parse? := some fun
    | some d => do return some (Holds.payload (← Configuration.parse (α := α) d))
    | none => .ok none

end Codec
end TrafficControl
