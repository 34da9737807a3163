import TrafficControl.Errno
import TrafficControl.Text.Quoted
import TrafficControl.Text.Utf8

/-!
# Errors

Every failure of the library by its cause, with its wording and its negative error number. Main
statement: putting an error into the name of a kind's codec keeps its number (`code_inCodec`).
-/
namespace TrafficControl

inductive IoFault where
  | system (errno : Int32)
  | other (text : String)
deriving DecidableEq, Repr

def IoFault.message : IoFault → String
  | .system n => Errno.message n
  | .other text => text

inductive MessageFault where
  /-- The length in the header is below the header's own or beyond the buffer. -/
  | badLength (length : Nat)
  | unexpectedType (type : UInt16)
  | other (text : String)
deriving DecidableEq, Repr

def MessageFault.text : MessageFault → String
  | .badLength n => s!"invalid message length: {n}"
  | .unexpectedType t => s!"unexpected message type {t.toNat} for route/act"
  | .other text => text

inductive AttrFault where
  | empty8
  | short16
  | short32
  | notUtf8 (fault : Text.Utf8Fault)
  | other (text : String)
deriving DecidableEq, Repr

def AttrFault.text : AttrFault → String
  | .empty8 => "empty u8 attribute"
  | .short16 => "truncated u16 attribute"
  | .short32 => "truncated u32 attribute"
  | .notUtf8 fault => s!"string is not UTF-8: {fault.message}"
  | .other text => text

inductive ReadFault where
  /-- The octets are there and cannot be right, so no other reading is worth a try. -/
  | cut
  | backtrack
deriving DecidableEq, Repr

def ReadFault.text : ReadFault → String
  | .cut => "Cut(ContextError \x7b context: [], cause: None \x7d)"
  | .backtrack => "Backtrack(ContextError \x7b context: [], cause: None \x7d)"

inductive ParseFault where
  | reader (fault : ReadFault)
  | other (text : String)
deriving DecidableEq, Repr

def ParseFault.text : ParseFault → String
  | .reader fault => fault.text
  | .other text => text

inductive Duplicate where
  | action (kind : Option String)
  | codec (name : String)
  | other (text : String)
deriving DecidableEq, Repr

def Duplicate.text : Duplicate → String
  | .action kind => "action " ++ kind.getD "<unset>" ++ " already in chain"
  | .codec name => name
  | .other text => text

/-- A breach of an agreement between the library and its caller. -/
inductive Breach where
  | deliveryStopped
  | other (text : String)
deriving DecidableEq, Repr

def Breach.text : Breach → String
  | .deliveryStopped => "action delivery stopped by callback"
  | .other text => text

/-- Why an operation failed. -/
inductive Error where
  | io (fault : IoFault)
  | kernel (errno : Int32) (text : String)
  | truncated (expected actual : Nat)
  | invalidMessage (fault : MessageFault)
  | invalidAttr (fault : AttrFault)
  | parse (fault : ParseFault)
  | outOfMemory
  /-- A message or an attribute would outgrow its limit. -/
  | tooLarge (length limit : Nat)
  | chainFull (max : Nat)
  | notFound
  | exist (what : Duplicate)
  | missingAttr (name : String)
  | attrTooShort (name : String) (expected actual : Nat)
  /-- An action cannot leave its kind any more. -/
  | kindLocked (current : String)
  /-- The codec of a kind failed with an error of this library. -/
  | codec (kind : String) (source : Error)
  /-- The codec of a kind failed with an error of its own. -/
  | foreignCodec (kind : String) (source : String)
  | failure (breach : Breach)
deriving DecidableEq, Repr

namespace Error

/-- The error that the kernel reports by the negative error number `code`. -/
def ofCode (code : Int32) : Error := .kernel (-code) (Errno.message (-code))

def message : Error → String
  | .io fault => s!"I/O error: {fault.message}"
  | .kernel n text => s!"kernel error: {text} (errno {n.toInt})"
  | .truncated expected actual =>
    s!"message truncated: expected {expected} bytes, got {actual}"
  | .invalidMessage fault => s!"invalid message: {fault.text}"
  | .invalidAttr fault => s!"invalid attribute: {fault.text}"
  | .parse fault => s!"parse error: {fault.text}"
  | .outOfMemory => "out of memory"
  | .tooLarge length limit => s!"message too large: {length} bytes exceeds limit of {limit}"
  | .chainFull max => s!"action chain full: at most {max} actions"
  | .notFound => "object not found"
  | .exist what => s!"already exists: {what.text}"
  | .missingAttr name => s!"missing attribute: {name}"
  | .attrTooShort name expected actual =>
    s!"attribute {name} too short: expected at least {expected} bytes, got {actual}"
  | .kindLocked current => s!"kind is locked to {Text.quote current}"
  | .codec kind source => s!"{kind} codec: {source.message}"
  | .foreignCodec kind source => s!"{kind} codec: {source}"
  | .failure breach => s!"failure: {breach.text}"

def source? : Error → Option String
  | .io fault => some fault.message
  | .codec _ source => some source.message
  | .foreignCodec _ source => some source
  | _ => none

/-- The positive error number closest in meaning; a codec's error has the number of its source. -/
def number : Error → Int32
  | .io (.system n) => n
  | .io (.other _) => Errno.io
  | .kernel n _ => n
  | .outOfMemory => Errno.noMemory
  | .tooLarge .. => Errno.messageSize
  | .chainFull _ => Errno.range
  | .notFound => Errno.noEntry
  | .exist _ => Errno.exist
  | .kindLocked _ => Errno.busy
  | .truncated .. | .invalidMessage _ | .invalidAttr _ | .parse _ | .missingAttr _
  | .attrTooShort .. | .foreignCodec .. => Errno.invalid
  | .codec _ source => source.number
  | .failure _ => Errno.protocol

def code (e : Error) : Int32 := -e.number

def errno? : Error → Option Int32
  | .kernel n _ => some n
  | _ => none

def isNotFound : Error → Bool
  | .kernel n _ => n == Errno.noEntry || n == Errno.noDevice
  | .notFound => true
  | _ => false

def isPermissionDenied : Error → Bool
  | .kernel n _ => n == Errno.perm || n == Errno.access
  | _ => false

def isAlreadyExists : Error → Bool
  | .kernel n _ => n == Errno.exist
  | .exist _ => true
  | _ => false

/-- What a failure of the codec for `kind` becomes outside it: size, memory and codec errors keep
their identity, any other is put under the name of the kind. -/
def inCodec (kind : String) : Error → Error
  | .tooLarge length limit => .tooLarge length limit
  | .outOfMemory => .outOfMemory
  | .codec kind source => .codec kind source
  | .foreignCodec kind source => .foreignCodec kind source
  | e => .codec kind e

theorem code_inCodec (kind : String) (e : Error) : (e.inCodec kind).code = e.code := by
  cases e <;> rfl

end Error

theorem exists_eq_ok_of_map_eq_ok {α β : Type} {x : Except Error α} {f : α → β} {b : β}
    (h : x.map f = .ok b) : ∃ a, x = .ok a ∧ f a = b := by
  cases x with
  | error e => cases h
  | ok a => exact ⟨a, rfl, Except.ok.inj h⟩

end TrafficControl
