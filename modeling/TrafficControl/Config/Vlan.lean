import TrafficControl.Attr.Value
import TrafficControl.Config.Basic

/-!
# Tags of virtual networks

A tag is taken off a packet, put on it, or changed. The protocol of the tag is always written, in
network order; number and priority only where they are set.
-/
namespace TrafficControl

/-- An operation on the tag of a packet. -/
structure Vlan where
  index : UInt32
  operation : Int32
  id : Option UInt16
  priority : Option UInt8
  protocol : UInt16
  verdict : Verdict
deriving DecidableEq, Repr

namespace Vlan

def plainProtocol : UInt16 := 0x8100

def stackedProtocol : UInt16 := 0x88a8

/-- An operation on a plain tag, and then the next action. -/
def new (operation : Int32) (id : Option UInt16) : Vlan :=
  ⟨0, operation, id, none, plainProtocol, .pipe⟩

def pop : Vlan := new 1 none

def push (id : UInt16) : Vlan := new 2 (some id)

def modify (id : UInt16) : Vlan := new 3 (some id)

def withIndex (v : Vlan) (index : UInt32) : Vlan := { v with index }

def withPriority (v : Vlan) (priority : UInt8) : Vlan := { v with priority := some priority }

def qinq (v : Vlan) : Vlan := { v with protocol := stackedProtocol }

def withVerdict (v : Vlan) (verdict : Verdict) : Vlan := { v with verdict }

/-- Type of the parameters: the common ones and the operation. -/
def paramsType : UInt16 := 2

def idType : UInt16 := 3

def protocolType : UInt16 := 4

def priorityType : UInt16 := 6

def policy : Policy := Policy.ofRules 10
  [(2, ⟨"TCA_VLAN_PARMS", 24⟩), (3, ⟨"TCA_VLAN_PUSH_VLAN_ID", 2⟩),
    (4, ⟨"TCA_VLAN_PUSH_VLAN_PROTOCOL", 2⟩), (6, ⟨"TCA_VLAN_PUSH_VLAN_PRIORITY", 1⟩)]

def write (v : Vlan) : Build Unit := do
  Build.attr paramsType ((Params.of v.index v.verdict).octets ++ Octets.i32 v.operation)
  v.id.forM (Build.attrU16 idType)
  v.priority.forM (Build.attrU8 priorityType)
  Build.attrU16BE protocolType v.protocol

/-- Reads the options. A tag without a protocol is a plain one. -/
def parse (d : Octets) : Except Error Vlan := do
  let t ← Table.readChecked policy d
  let s ← t.require paramsType.toNat "TCA_VLAN_PARMS"
  let p := Params.read s
  return {
    index := p.index
    operation := Octets.i32At s 20
    id := ← (t.get idType.toNat).mapM Attr.toU16
    priority := ← (t.get priorityType.toNat).mapM Attr.toU8
    protocol := (← (t.get protocolType.toNat).mapM Attr.toU16BE).getD plainProtocol
    verdict := p.verdict }

instance : Configuration Vlan where
  kind := "vlan"
  index := index
  write := write
  parse := parse

end Vlan
end TrafficControl
