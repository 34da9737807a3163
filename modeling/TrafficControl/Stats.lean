import TrafficControl.Attr.Table

/-!
# Statistics

What the kernel counted for an action. The values come in three categories, and a category is
there with both of its values or not at all. Main statement: a value is known exactly when its
category is there (`isSome_get`).
-/
namespace TrafficControl

inductive Stat where
  | bytes
  | packets
  | byteRate
  | packetRate
  | drops
  | overlimits
deriving DecidableEq, Repr

structure Categories where
  basic : Bool := false
  queue : Bool := false
  rate : Bool := false
deriving DecidableEq, Repr

namespace Categories

def empty : Categories := {}

def insert (s t : Categories) : Categories :=
  ⟨s.basic || t.basic, s.queue || t.queue, s.rate || t.rate⟩

def contains (s t : Categories) : Bool :=
  (!t.basic || s.basic) && (!t.queue || s.queue) && (!t.rate || s.rate)

def isEmpty (s : Categories) : Bool := !s.basic && !s.queue && !s.rate

/-- The set as a number: 1 for the basic, 2 for the queue and 4 for the rate category. -/
def bits (s : Categories) : Nat := s.basic.toNat + 2 * s.queue.toNat + 4 * s.rate.toNat

end Categories

namespace Stat

def all : List Stat := [bytes, packets, byteRate, packetRate, drops, overlimits]

def category : Stat → Categories
  | bytes | packets => { basic := true }
  | byteRate | packetRate => { rate := true }
  | drops | overlimits => { queue := true }

def isRate : Stat → Bool
  | byteRate | packetRate => true
  | _ => false

def name : Stat → String
  | bytes => "bytes"
  | packets => "packets"
  | byteRate => "rate_bps"
  | packetRate => "rate_pps"
  | drops => "drops"
  | overlimits => "overlimits"

def json : Stat → String
  | bytes => "\"Bytes\""
  | packets => "\"Packets\""
  | byteRate => "\"RateBps\""
  | packetRate => "\"RatePps\""
  | drops => "\"Drops\""
  | overlimits => "\"Overlimits\""

end Stat

/-- The statistics of an action: each category with its two values, if it is there. -/
structure Stats where
  basic : Option (UInt64 × UInt64) := none
  rate : Option (UInt64 × UInt64) := none
  queue : Option (UInt64 × UInt64) := none
deriving DecidableEq, Repr

namespace Stats

def empty : Stats := {}

def get (s : Stats) : Stat → Option UInt64
  | .bytes => s.basic.map (·.1)
  | .packets => s.basic.map (·.2)
  | .byteRate => s.rate.map (·.1)
  | .packetRate => s.rate.map (·.2)
  | .drops => s.queue.map (·.1)
  | .overlimits => s.queue.map (·.2)

/-- A statistic, zero if its category is not there. -/
def value (s : Stats) (k : Stat) : UInt64 := (s.get k).getD 0

/-- The statistics with one value replaced. Its category is there from then on. -/
def set (s : Stats) (k : Stat) (v : UInt64) : Stats :=
  match k with
  | .bytes => { s with basic := some (v, s.value .packets) }
  | .packets => { s with basic := some (s.value .bytes, v) }
  | .byteRate => { s with rate := some (v, s.value .packetRate) }
  | .packetRate => { s with rate := some (s.value .byteRate, v) }
  | .drops => { s with queue := some (v, s.value .overlimits) }
  | .overlimits => { s with queue := some (s.value .drops, v) }

def present (s : Stats) : Categories := ⟨s.basic.isSome, s.queue.isSome, s.rate.isSome⟩

def isPresent (s : Stats) (c : Categories) : Bool := s.present.contains c

def isEmpty (s : Stats) : Bool := s.present.isEmpty

def toList (s : Stats) : List (Stat × UInt64) :=
  Stat.all.filterMap fun k => (s.get k).map (k, ·)

def json (s : Stats) : String :=
  "\x7b\"values\":[" ++ ",".intercalate (Stat.all.map fun k => toString (s.value k).toNat) ++
    "],\"present\":" ++ toString s.present.bits ++ "\x7d"

theorem isSome_get (s : Stats) (k : Stat) : (s.get k).isSome = s.isPresent k.category := by
  cases k <;> simp [get, isPresent, present, Categories.contains, Stat.category]

@[simp] theorem get_set_self (s : Stats) (k : Stat) (v : UInt64) : (s.set k v).get k = some v := by
  cases k <;> rfl

def saturatingSub (m n : UInt64) : UInt64 := if n ≤ m then m - n else 0

/-- How a pair of counters grew from `before` to `now`, where both are there. -/
def growth (now before : Option (UInt64 × UInt64)) : Option (UInt64 × UInt64) :=
  match now, before with
  | some m, some n => some (saturatingSub m.1 n.1, saturatingSub m.2 n.2)
  | _, _ => none

/-- What changed since an earlier sample: counters by their growth and rates as they are now, of
the categories in both samples. -/
def delta (now before : Stats) : Stats where
  basic := growth now.basic before.basic
  rate := if before.rate.isSome then now.rate else none
  queue := growth now.queue before.queue

/-- Type of the basic counters: 64 bits of octets and 32 of packets. -/
def basicType : Nat := 1

def rateType : Nat := 2

/-- Type of the queue counters, five of 32 bits: drops are the third, overlimits the fifth. -/
def queueType : Nat := 3

def rate64Type : Nat := 5

def policy : Policy := Policy.ofRules 9
  [(basicType, ⟨"TCA_STATS_BASIC", 12⟩), (rateType, ⟨"TCA_STATS_RATE_EST", 8⟩),
    (queueType, ⟨"TCA_STATS_QUEUE", 20⟩), (rate64Type, ⟨"TCA_STATS_RATE_EST64", 16⟩)]

/-- The statistics in a table of their attributes. The wide rates win over the narrow ones. -/
def ofTable (t : Table) : Stats where
  basic := (t.get basicType).map fun d => (Octets.u64At d 0, (Octets.u32At d 8).toUInt64)
  rate := match t.get rate64Type with
    | some d => some (Octets.u64At d 0, Octets.u64At d 8)
    | none =>
      (t.get rateType).map fun d => ((Octets.u32At d 0).toUInt64, (Octets.u32At d 4).toUInt64)
  queue := (t.get queueType).map fun d =>
    ((Octets.u32At d 8).toUInt64, (Octets.u32At d 16).toUInt64)

def decode (d : Octets) : Except Error Stats := do
  return ofTable (← Table.readChecked policy d)

end Stats
end TrafficControl
