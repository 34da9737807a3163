import TrafficControl.Codec
import TrafficControl.Config.Builtin

/-!
# Registries of codecs

A registry holds at most one codec for each name. Main statements: a codec is found under its name
once it is registered (`get?_register`), a name that is taken is refused (`register_of_mem`), and
what is done under one name changes nothing under another (`get?_register_of_ne`,
`get?_unregister_of_ne`).
-/
namespace TrafficControl

/-- At most one codec for each name. -/
structure Registry (P : Type) where
  codecs : List (Codec P)
  nodup : (codecs.map (·.name)).Nodup

namespace Registry

variable {P : Type}

def empty : Registry P := ⟨[], List.nodup_nil⟩

def get? (r : Registry P) (name : String) : Option (Codec P) := r.codecs.find? (·.name = name)

def contains (r : Registry P) (name : String) : Bool := r.codecs.any (·.name = name)

def names (r : Registry P) : List String := r.codecs.map (·.name)

def length (r : Registry P) : Nat := r.codecs.length

def isEmpty (r : Registry P) : Bool := r.codecs.isEmpty

theorem contains_iff {r : Registry P} {name : String} : r.contains name ↔ name ∈ r.names := by
  simp [contains, names]

/-- The registry with one more codec, unless its name is taken. -/
def register (r : Registry P) (c : Codec P) : Except Error (Registry P) :=
  if h : r.contains c.name then .error (.exist (.codec c.name))
  else .ok ⟨c :: r.codecs, by
    rw [List.map_cons, List.nodup_cons]
    exact ⟨mt contains_iff.2 h, r.nodup⟩⟩

def unregister (r : Registry P) (name : String) : Except Error (Codec P × Registry P) :=
  match r.get? name with
  | none => .error .notFound
  | some c => .ok (c, ⟨r.codecs.filter (·.name ≠ name),
      r.nodup.sublist (List.filter_sublist.map _)⟩)

theorem register_of_mem {r : Registry P} {c : Codec P} (h : c.name ∈ r.names) :
    r.register c = .error (.exist (.codec c.name)) := by
  rw [register, dif_pos (contains_iff.2 h)]

theorem get?_register {r s : Registry P} {c : Codec P} (h : r.register c = .ok s) :
    s.get? c.name = some c := by
  rw [register] at h
  split at h
  · simp at h
  · simp only [Except.ok.injEq] at h
    rw [← h]
    simp [get?]

theorem mem_and_name_of_get? {r : Registry P} {name : String} {c : Codec P}
    (h : r.get? name = some c) : c ∈ r.codecs ∧ c.name = name :=
  ⟨List.mem_of_find?_eq_some h, of_decide_eq_true (List.find?_some h :)⟩

theorem get?_register_of_ne {r s : Registry P} {c : Codec P} {name : String}
    (h : r.register c = .ok s) (hn : c.name ≠ name) : s.get? name = r.get? name := by
  rw [register] at h
  split at h
  · simp at h
  · simp only [Except.ok.injEq] at h
    rw [← h]
    simp [get?, hn]

theorem get?_unregister_of_ne {r s : Registry P} {c : Codec P} {name other : String}
    (h : r.unregister other = .ok (c, s)) (hn : name ≠ other) : s.get? name = r.get? name := by
  rw [unregister] at h
  split at h
  · simp at h
  · simp only [Except.ok.injEq, Prod.mk.injEq] at h
    rw [← h.2, get?, get?, List.find?_filter]
    congr 1
    funext codec
    by_cases hc : codec.name = name
    · simp [hc, hn]
    · simp [hc]

def sortedNames (r : Registry P) : List String := r.names.mergeSort (· ≤ ·)

/-- The registry in words: its names in order, quoted. -/
def describe (r : Registry P) : String :=
  "KindRegistry \x7b kinds: [" ++ ", ".intercalate (r.sortedNames.map Text.quote) ++ "] \x7d"

/-- The registry with the codec of one more configuration type, unless its name is taken. -/
def registerConfig (α : Type) [Payload P] [Configuration α] [Holds P α] (r : Registry P) :
    Except Error (Registry P) :=
  r.register (.ofConfig α)

def builtin [Payload P] [Holds P Gact] [Holds P Mirred] [Holds P Skbedit] [Holds P Vlan] :
    Registry P where
  codecs := [.ofConfig Gact, .ofConfig Mirred, .ofConfig Skbedit, .ofConfig Vlan]
  nodup := show ["gact", "mirred", "skbedit", "vlan"].Nodup by decide

end Registry
end TrafficControl
