import TrafficControl.ActionTable
import TrafficControl.Message.Action
import TrafficControl.Transport

/-!
# Requests

Requests to add, change or delete the actions of a chain, and the request for all actions there
are. A request is a header for its family and a table of actions.
-/
namespace TrafficControl

inductive Request where
  | add
  | change
  | delete
deriving DecidableEq, Repr

namespace Request

variable {P : Type}

def type : Request → UInt16
  | add | change => Message.newAction
  | delete => Message.delAction

/-- The caller's flags together with those of the request. -/
def flags : Request → UInt16 → UInt16
  | change, flags => Message.requestFlag ||| Message.replaceFlag ||| flags
  | add, flags | delete, flags => Message.requestFlag ||| flags

def buildWithLimit (q : Request) (c : Chain P) (flags : UInt16) (r : Registry P) (limit : Nat) :
    Except Error Builder :=
  Build.message
    (do
      Build.append Message.Family.unspecified.octets
      ActionTable.write Message.tableType c r)
    (.withLimit q.type (q.flags flags) limit)

def build (q : Request) (c : Chain P) (flags : UInt16) (r : Registry P) : Except Error Builder :=
  q.buildWithLimit c flags r Builder.defaultLimit

def submit {σ : Type} (q : Request) (t : Transport σ) (c : Chain P) (flags : UInt16)
    (r : Registry P) : EStateM Error σ Unit := do
  t.sendSync (← MonadExcept.ofExcept (q.build c flags r))

end Request

/-- The message that asks for all actions there are. -/
def dumpRequest : Except Error Builder :=
  Build.message (Build.append Message.Family.unspecified.octets)
    (.new Message.getAction (Message.requestFlag ||| Message.dumpFlags))

/-- Asks for all actions there are, without waiting for them. -/
def requestDump {σ : Type} (t : Transport σ) : EStateM Error σ Unit := do
  t.send (← MonadExcept.ofExcept dumpRequest)

end TrafficControl
