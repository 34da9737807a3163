import TrafficControl.Config.Basic

/-!
# Plain verdicts

A plain verdict on a packet, perhaps with another verdict for a random or regular share of the
packets. The share is written only where its mode says that there is one.
-/
namespace TrafficControl

/-- A plain verdict, perhaps with another one for a share of the packets. -/
structure Gact where
  index : UInt32
  verdict : Verdict
  /-- How the share is chosen: not at all, by chance, or every so many packets. -/
  mode : UInt16
  share : UInt16
  other : Verdict
deriving DecidableEq, Repr

namespace Gact

def always : UInt16 := 0

def byChance : UInt16 := 1

/-- Mode of a share of one packet in so many. -/
def oneIn : UInt16 := 2

def new (verdict : Verdict) : Gact := ⟨0, verdict, always, 0, .pass⟩

def drop : Gact := new .drop

def pass : Gact := new .pass

def pipe : Gact := new .pipe

def reclassify : Gact := new .reclassify

def stolen : Gact := new .stolen

def withIndex (g : Gact) (index : UInt32) : Gact := { g with index }

/-- Another verdict on `percent` of the packets, chosen by chance. A percentage above 100 counts
as that. -/
def random (g : Gact) (percent : UInt16) (other : Verdict) : Gact :=
  { g with
    mode := byChance
    share := UInt16.ofNat (min (percent.toNat * 65535 / 100) 65535)
    other }

def randomDrop (g : Gact) (percent : UInt16) : Gact := g.random percent .drop

def deterministic (g : Gact) (n : UInt16) (other : Verdict) : Gact :=
  { g with mode := oneIn, share := n, other }

def probability (g : Gact) : Option (UInt16 × UInt16 × Verdict) :=
  if g.mode = always then none else some (g.mode, g.share, g.other)

def paramsType : UInt16 := 2

def shareType : UInt16 := 3

def policy : Policy :=
  Policy.ofRules 5 [(2, ⟨"TCA_GACT_PARMS", Params.length⟩), (3, ⟨"TCA_GACT_PROB", 8⟩)]

def write (g : Gact) : Build Unit := do
  Build.attr paramsType (Params.of g.index g.verdict).octets
  if g.mode ≠ always then
    Build.attr shareType (Octets.u16 g.mode ++ Octets.u16 g.share ++ Octets.i32 g.other)

def parse (d : Octets) : Except Error Gact := do
  let t ← Table.readChecked policy d
  let p := Params.read (← t.require paramsType.toNat "TCA_GACT_PARMS")
  let g := (new p.verdict).withIndex p.index
  match t.get shareType.toNat with
  | none => return g
  | some s =>
    return { g with
      mode := Octets.u16At s 0, share := Octets.u16At s 2, other := Octets.i32At s 4 }

instance : Configuration Gact where
  kind := "gact"
  index := index
  write := write
  parse := parse

end Gact
end TrafficControl
