/-!
# Links

A link is a network interface with its index and name. A lookup finds a link by its index.
-/
namespace TrafficControl

structure Link where
  index : Int32
  name : String
deriving DecidableEq, Repr

/-- A way to find a link by its index. -/
abbrev LinkLookup := Int32 → Option Link

namespace LinkLookup

/-- The lookup in a list of names by index, of which the last entry for an index counts. A
negative index is nobody's. -/
def ofNames (names : List (UInt32 × String)) : LinkLookup := fun i =>
  if i < 0 then none
  else (names.reverse.find? (·.1 = i.toUInt32)).map fun e => ⟨i, e.2⟩

/-- The lookup in a list of links, of which the first with an index counts. -/
def ofLinks (links : List Link) : LinkLookup := fun i => links.find? (·.index = i)

end LinkLookup
end TrafficControl
