import TrafficControl.Attr.Value
import TrafficControl.Config.Basic

/-!
# Edits of packet metadata

What the system notes beside a packet is changed: its queue, its priority, its mark. Each of them
is written only where it is set.
-/
namespace TrafficControl

/-- An edit of a packet's metadata. -/
structure Skbedit where
  index : UInt32
  queue : Option UInt16
  priority : Option UInt32
  mark : Option UInt32
  mask : Option UInt32
  verdict : Verdict
deriving DecidableEq, Repr

namespace Skbedit

/-- No edit, and no verdict of its own. -/
def blank : Skbedit := ⟨0, none, none, none, none, .pass⟩

def new : Skbedit := { blank with verdict := .pipe }

def withIndex (s : Skbedit) (index : UInt32) : Skbedit := { s with index }

def withQueue (s : Skbedit) (queue : UInt16) : Skbedit := { s with queue := some queue }

def withPriority (s : Skbedit) (priority : UInt32) : Skbedit := { s with priority := some priority }

def withMark (s : Skbedit) (mark : UInt32) : Skbedit := { s with mark := some mark }

def withMaskedMark (s : Skbedit) (mark mask : UInt32) : Skbedit :=
  { s with mark := some mark, mask := some mask }

def withVerdict (s : Skbedit) (verdict : Verdict) : Skbedit := { s with verdict }

/-- The mark with its mask, if there is a mark. -/
def maskedMark (s : Skbedit) : Option (UInt32 × Option UInt32) := s.mark.map (·, s.mask)

def paramsType : UInt16 := 2

def priorityType : UInt16 := 3

def queueType : UInt16 := 4

def markType : UInt16 := 5

def maskType : UInt16 := 8

def policy : Policy := Policy.ofRules 11
  [(2, ⟨"TCA_SKBEDIT_PARMS", Params.length⟩), (3, ⟨"TCA_SKBEDIT_PRIORITY", 4⟩),
    (4, ⟨"TCA_SKBEDIT_QUEUE_MAPPING", 2⟩), (5, ⟨"TCA_SKBEDIT_MARK", 4⟩),
    (8, ⟨"TCA_SKBEDIT_MASK", 4⟩)]

def write (s : Skbedit) : Build Unit := do
  Build.attr paramsType (Params.of s.index s.verdict).octets
  s.queue.forM (Build.attrU16 queueType)
  s.priority.forM (Build.attrU32 priorityType)
  s.mark.forM (Build.attrU32 markType)
  s.mask.forM (Build.attrU32 maskType)

def parse (d : Octets) : Except Error Skbedit := do
  let t ← Table.readChecked policy d
  let p := Params.read (← t.require paramsType.toNat "TCA_SKBEDIT_PARMS")
  return {
    index := p.index
    verdict := p.verdict
    queue := ← (t.get queueType.toNat).mapM Attr.toU16
    priority := ← (t.get priorityType.toNat).mapM Attr.toU32
    mark := ← (t.get markType.toNat).mapM Attr.toU32
    mask := ← (t.get maskType.toNat).mapM Attr.toU32 }

instance : Configuration Skbedit where
  kind := "skbedit"
  index := index
  write := write
  parse := parse

end Skbedit
end TrafficControl
