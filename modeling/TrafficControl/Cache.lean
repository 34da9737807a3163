import TrafficControl.Delivery
import TrafficControl.Request

/-!
# The cache of actions

The cache keeps the actions that messages told about, one for each object in the kernel, in the
order in which they were first seen. Main statement: actions are the same object exactly when they
have the same key (`sameObject_iff`).
-/
namespace TrafficControl

/-- The actions known so far. -/
structure Cache (P : Type) where
  toList : List (Shared P) := []

namespace Cache

variable {P : Type}

def empty : Cache P := {}

/-- What is known of the cache without looking into it. -/
def info : StoreInfo := .actions

def length (c : Cache P) : Nat := c.toList.length

def isEmpty (c : Cache P) : Bool := c.toList.isEmpty

def clear (_ : Cache P) : Cache P := empty

def ofKind (c : Cache P) (kind : String) : List (Shared P) :=
  c.toList.filter (·.action.kind = some kind)

variable [Payload P]

/-- Whether two actions are one object in the kernel: their kinds agree, and their numbers do, or
their raw options where neither has a number. -/
def sameObject (a b : Action P) : Bool :=
  a.kind = b.kind &&
    match a.index, b.index with
    | some m, some n => m = n
    | none, none => a.options = b.options
    | _, _ => false

/-- What tells objects of a kind apart: the number in the kernel, or the raw options. -/
abbrev Key := Option String × (UInt32 ⊕ Option Octets)

/-- The key of an action. -/
def key (a : Action P) : Key :=
  (a.kind, match a.index with
    | some n => .inl n
    | none => .inr a.options)

/-- Actions are the same object exactly when they have the same key. -/
theorem sameObject_iff {a b : Action P} : sameObject a b ↔ key a = key b := by
  unfold sameObject key
  rw [Bool.and_eq_true, decide_eq_true_eq, Prod.mk.injEq]
  apply and_congr_right
  intro _
  cases a.index <;> cases b.index <;> simp

/-- The list with `x` in place of the first element that `p` holds for, or else at the end. -/
def replace {α : Type} (p : α → Bool) (x : α) : List α → List α
  | [] => [x]
  | y :: ys => if p y then x :: ys else y :: replace p x ys

/-- The cache after one more action was told about. A message that actions are gone removes the
object, any other puts it in the place of the one before, or at the end. -/
def apply (c : Cache P) (a : Shared P) : Cache P :=
  let same := fun b : Shared P => sameObject b.action a.action
  match a.action.messageType.bind info.change? with
  | some .del => ⟨c.toList.eraseP same⟩
  | _ => ⟨replace same a c.toList⟩

/-- The cache after all these actions were told about. -/
def applyAll (c : Cache P) (as : List (Shared P)) : Cache P := as.foldl apply c

/-- A receiver that keeps what it is handed, the last action first. -/
def collector : Receiver P (List (Action P)) := fun a => do
  modify (a :: ·)
  return .proceed

/-- Works off a buffer, and only then takes in all the actions in it. They get identities from
`first` on. -/
def pickup (r : Registry P) (links : Option LinkLookup) (first : Nat) (d : Octets) :
    EStateM Error (Cache P) Delivery.Progress := fun c =>
  match Delivery.receiveAll r links collector d [] with
  | .error e _ => .error e c
  | .ok p received =>
    .ok p (c.applyAll (received.reverse.mapIdx fun i a => ⟨first + i, a⟩))

omit [Payload P] in
/-- Empties the cache and asks for all actions there are. The cache is empty also when the
transport fails. -/
def refill {σ : Type} (t : Transport σ) : EStateM Error (Cache P × σ) Unit := fun (c, s) =>
  match requestDump t s with
  | .ok u s => .ok u (c.clear, s)
  | .error e s => .error e (c.clear, s)

end Cache
end TrafficControl
