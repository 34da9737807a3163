import TrafficControl.ActionTable
import TrafficControl.Message.Action

/-!
# Delivery

Messages about actions are taken apart and their actions handed, one by one, to a receiver that
has a state of its own. A message is delivered only when all of it can be read; a buffer is worked
off message by message until the first failure or the end of a dump.
-/
namespace TrafficControl

inductive Change where
  | new
  | del
  | get
deriving DecidableEq, Repr

structure MessageKind where
  type : UInt16
  change : Change
  name : String
deriving DecidableEq, Repr

/-- What is known of a store of actions without looking into it. -/
structure StoreInfo where
  name : String
  protocol : Int32
  headerLength : Nat
  kinds : List MessageKind
deriving DecidableEq, Repr

namespace StoreInfo

def actions : StoreInfo where
  name := "route/act"
  protocol := 0
  headerLength := Message.Family.length
  kinds :=
    [⟨Message.newAction, .new, "new"⟩, ⟨Message.delAction, .del, "del"⟩,
      ⟨Message.getAction, .get, "get"⟩]

def kind? (s : StoreInfo) (type : UInt16) : Option MessageKind :=
  s.kinds.find? (·.type = type)

def change? (s : StoreInfo) (type : UInt16) : Option Change := (s.kind? type).map (·.change)

end StoreInfo

inductive Flow where
  | proceed
  | stop
deriving DecidableEq, Repr

/-- What actions are handed to. -/
abbrev Receiver (P σ : Type) := Action P → EStateM Error σ Flow

namespace Delivery

variable {P σ : Type}

/-- Hands over actions in order. A receiver that stops makes the delivery fail. -/
def deliver (receiver : Receiver P σ) : List (Action P) → EStateM Error σ Unit
  | [] => pure ()
  | a :: as => do
    match ← receiver a with
    | .proceed => deliver receiver as
    | .stop => throw (.failure .deliveryStopped)

/-- An action as the message around it tells: its type, its family, and the link found for it. -/
def stamp (type : UInt16) (family : UInt8) (links : Option LinkLookup) (a : Action P) : Action P :=
  let a := a.setOrigin type family
  match links with
  | some links => a.resolve links
  | none => a

def readActions (r : Registry P) (links : Option LinkLookup) (f : Message.Frame) :
    Except Error (List (Action P)) := do
  let type := f.header.type
  if (StoreInfo.actions.kind? type).isNone then
    throw (.invalidMessage (.unexpectedType type))
  let m ← Message.ActionMessage.read f.payload
  match m.table with
  | none => throw (.missingAttr "TCA_ACT_TAB")
  | some d =>
    let hook : ActionTable.Hook P Unit := fun a => pure (stamp type m.family.family links a)
    match ActionTable.readWith r hook 0 d () with
    | .ok c _ => return c.actions
    | .error e _ => throw e

def receiveFrame (r : Registry P) (links : Option LinkLookup) (receiver : Receiver P σ)
    (f : Message.Frame) : EStateM Error σ Unit := do
  deliver receiver (← MonadExcept.ofExcept (readActions r links f))

/-- The message at the front of `d`, which must be all there. -/
def readFrame (d : Octets) : Except Error Message.Frame := do
  let h ← Message.Header.read d
  let n := h.length.toNat
  if Message.headerLength ≤ n ∧ n ≤ d.length then
    return ⟨h, (d.take n).drop Message.headerLength⟩
  else throw (.invalidMessage (.badLength n))

def receive (r : Registry P) (links : Option LinkLookup) (receiver : Receiver P σ) (d : Octets) :
    EStateM Error σ Unit := do
  receiveFrame r links receiver (← MonadExcept.ofExcept (readFrame d))

structure Progress where
  /-- Number of messages about actions. -/
  messages : Nat := 0
  done : Bool := false
deriving DecidableEq, Repr

/-- Works off messages in order: skips those without meaning and acknowledgements, fails with the
first error, ends with a dump, and delivers the actions of the rest. -/
def receiveFrames (r : Registry P) (links : Option LinkLookup) (receiver : Receiver P σ)
    (p : Progress) : List (Except Error Message.Frame) → EStateM Error σ Progress
  | [] => pure p
  | .error e :: _ => throw e
  | .ok f :: fs => do
    if f.header.isNoop then receiveFrames r links receiver p fs
    else if f.header.isReport then
      MonadExcept.ofExcept (Message.Report.read f.payload >>= Message.Report.result)
      receiveFrames r links receiver p fs
    else if f.header.isDone then return { p with done := true }
    else
      receiveFrame r links receiver f
      receiveFrames r links receiver { p with messages := p.messages + 1 } fs

def receiveAll (r : Registry P) (links : Option LinkLookup) (receiver : Receiver P σ)
    (d : Octets) : EStateM Error σ Progress :=
  receiveFrames r links receiver {} (Message.frames d)

end Delivery
end TrafficControl
