import TrafficControl.Chain
import TrafficControl.Registry

/-!
# Tables of actions

A chain travels as a table: a nest with one entry for each action, whose type is the place of the
action in the chain, counted from one. An entry names the kind and holds the options; an entry
from the kernel also holds statistics. Reading goes by place, skips places without an entry, and
fails with the first entry that cannot be read.
-/
namespace TrafficControl.ActionTable

variable {P : Type}

def kindType : UInt16 := 1

def optionsType : UInt16 := 2

def statsType : UInt16 := 4

/-- Number of attribute types that an entry is read for. -/
def entrySize : Nat := 11

/-- The codec that writes the options of an action, with its style. -/
def writer? (r : Registry P) (a : Action P) : Option (String × Codec P × FillStyle) := do
  let kind ← a.kind
  let c ← r.get? kind
  let style ← c.style
  return (kind, c, style)

/-- Writes the options of an action: by the codec of its kind if that writes any, else the raw
options. -/
def writeOptions (r : Registry P) (a : Action P) : Build Unit :=
  match writer? r a with
  | some (kind, c, .nested) =>
    Build.nested optionsType ((c.fill a).adaptExcept (Error.inCodec kind))
  | some (kind, c, .raw) => (c.fill a).adaptExcept (Error.inCodec kind)
  | none =>
    match a.options with
    | some d => Build.nested optionsType (Build.append d)
    | none => pure ()

def writeEntry (r : Registry P) (a : Action P) : Build Unit := do
  a.kind.forM (Build.attrText kindType)
  writeOptions r a

/-- The payload that the codec of a kind reads from the options of an entry. -/
def readPayload (r : Registry P) (kind : String) (options : Option Octets) :
    Except Error (Option P) :=
  match r.get? kind with
  | none => .ok none
  | some c => (c.parse options).mapError (Error.inCodec kind)

def readEntry (r : Registry P) (d : Octets) : Except Error (Action P) := do
  let t := Table.read entrySize d
  let kind ← Attr.toText (← t.require kindType.toNat "TCA_ACT_KIND") kindBound
  let options := t.get optionsType.toNat
  let stats ← match t.get statsType.toNat with
    | some s => Stats.decode s
    | none => .ok .empty
  let payload ← readPayload r kind options
  return { kind := some (kindName kind), options, stats, payload }

/-- Writes a chain as a table in an attribute of the given type. -/
def write (type : UInt16) (c : Chain P) (r : Registry P) : Build Unit :=
  Build.nested type (c.ordered.forM fun (place, a) =>
    Build.nested (UInt16.ofNat place) (writeEntry r a.action))

/-- What a reader does to each action before it joins the chain. -/
abbrev Hook (P σ : Type) := Action P → StateM σ (Action P)

def places : List Nat := List.range' 1 Chain.maxLength

section Read

variable {σ : Type}

def runHook (hook : Hook P σ) (a : Action P) : EStateM Error σ (Action P) := fun s =>
  let (a, s) := hook a s
  .ok a s

/-- The chain with the action that an entry holds. Its identity is the number of actions before
it, counted from `first`. -/
def readInto (r : Registry P) (hook : Hook P σ) (first : Nat) (c : Chain P) (d : Octets) :
    EStateM Error σ (Chain P) := do
  let a ← MonadExcept.ofExcept (readEntry r d)
  let a ← runHook hook a
  MonadExcept.ofExcept (c.append ⟨first + c.length, a⟩)

/-- Reads a table. The actions get identities from `first` on, and each goes through the hook
before it joins the chain. -/
def readWith (r : Registry P) (hook : Hook P σ) (first : Nat) (d : Octets) :
    EStateM Error σ (Chain P) :=
  let t := Table.read (Chain.maxLength + 1) d
  (places.filterMap t.get).foldlM (readInto r hook first) .empty

end Read

def read (r : Registry P) (first : Nat) (d : Octets) : Except Error (Chain P) :=
  match readWith (σ := Unit) r (fun a => pure a) first d () with
  | .ok c _ => .ok c
  | .error e _ => .error e

end TrafficControl.ActionTable
