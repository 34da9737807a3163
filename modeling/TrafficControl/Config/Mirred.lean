import TrafficControl.Config.Basic
import TrafficControl.Link

/-!
# Mirrors and redirections

A packet, or a copy of it, goes to another link.
-/
namespace TrafficControl

/-- A mirror or a redirection to another link. -/
structure Mirred where
  index : UInt32
  /-- Which of the two, and to which side of the link. -/
  direction : Int32
  ifindex : UInt32
  verdict : Verdict
deriving DecidableEq, Repr

namespace Mirred

def egressRedirect : Int32 := 1

def egressMirror : Int32 := 2

def ingressRedirect : Int32 := 3

def ingressMirror : Int32 := 4

/-- A configuration without an index. A redirection takes the packet away, a mirror lets it go
on. -/
def new (direction : Int32) (ifindex : UInt32) : Mirred :=
  ⟨0, direction, ifindex,
    if direction = egressRedirect ∨ direction = ingressRedirect then .stolen else .pipe⟩

def redirectByIndex (ifindex : UInt32) : Mirred := new egressRedirect ifindex

def mirrorByIndex (ifindex : UInt32) : Mirred := new egressMirror ifindex

def ingressRedirectByIndex (ifindex : UInt32) : Mirred := new ingressRedirect ifindex

def ingressMirrorByIndex (ifindex : UInt32) : Mirred := new ingressMirror ifindex

def redirect (link : Link) : Mirred := redirectByIndex link.index.toUInt32

def mirror (link : Link) : Mirred := mirrorByIndex link.index.toUInt32

def withIndex (m : Mirred) (index : UInt32) : Mirred := { m with index }

def withVerdict (m : Mirred) (verdict : Verdict) : Mirred := { m with verdict }

def pipe (m : Mirred) : Mirred := m.withVerdict .pipe

/-- Type of the parameters: the common ones, the direction and the link. -/
def paramsType : UInt16 := 2

def policy : Policy := Policy.ofRules 4 [(2, ⟨"TCA_MIRRED_PARMS", 28⟩)]

def write (m : Mirred) : Build Unit :=
  Build.attr paramsType
    ((Params.of m.index m.verdict).octets ++ Octets.i32 m.direction ++ Octets.u32 m.ifindex)

def parse (d : Octets) : Except Error Mirred := do
  let t ← Table.readChecked policy d
  let s ← t.require paramsType.toNat "TCA_MIRRED_PARMS"
  let p := Params.read s
  return ⟨p.index, Octets.i32At s 20, Octets.u32At s 24, p.verdict⟩

instance : Configuration Mirred where
  kind := "mirred"
  index := index
  write := write
  parse := parse

end Mirred
end TrafficControl
