import TrafficControl.Octets

/-!
# Texts as octets

The UTF-8 form of a text, the place where an octet string stops being UTF-8, and the cut of a text
to a number of octets. Main statements: a cut never exceeds its bound (`size_takeOctets_le`), is a
beginning of the text (`takeOctets_isPrefix`), and stops only before a character that does not fit
(`takeOctets_next`).
-/
namespace TrafficControl.Text

def octets (s : String) : Octets := s.toList.flatMap String.utf8EncodeChar

/-- Where an octet string stops being UTF-8. -/
structure Utf8Fault where
  /-- Index of the first octet of the sequence at fault. -/
  index : Nat
  /-- Number of octets that cannot begin any character, or nothing when the input ends inside a
  sequence that is good so far. -/
  length : Option Nat
deriving DecidableEq, Repr

def Utf8Fault.message : Utf8Fault → String
  | ⟨i, some n⟩ => s!"invalid utf-8 sequence of {n} bytes from index {i}"
  | ⟨i, none⟩ => s!"incomplete utf-8 byte sequence from index {i}"

/-- What an octet that begins a character of several octets asks for: how many more octets, and
the least and the greatest value of the next one. The narrowed ranges leave out overlong forms,
surrogates and numbers above U+10FFFF. -/
def lead (b : UInt8) : Option (Nat × UInt8 × UInt8) :=
  if b < 0xc2 then none
  else if b < 0xe0 then some (1, 0x80, 0xbf)
  else if b = 0xe0 then some (2, 0xa0, 0xbf)
  else if b = 0xed then some (2, 0x80, 0x9f)
  else if b < 0xf0 then some (2, 0x80, 0xbf)
  else if b = 0xf0 then some (3, 0x90, 0xbf)
  else if b < 0xf4 then some (3, 0x80, 0xbf)
  else if b = 0xf4 then some (3, 0x80, 0x8f)
  else none

/-- Scans from index `i`, where `owed` more octets belong to the sequence that began at `start`,
the next of them from `low` to `high`. -/
def scanFault (start owed : Nat) (low high : UInt8) (i : Nat) : Octets → Utf8Fault
  | [] => ⟨start, none⟩
  | b :: r =>
    if owed = 0 then
      if b < 0x80 then scanFault (i + 1) 0 low high (i + 1) r
      else match lead b with
        | none => ⟨i, some 1⟩
        | some (n, low, high) => scanFault i n low high (i + 1) r
    else if low ≤ b ∧ b ≤ high then
      scanFault (if owed = 1 then i + 1 else start) (owed - 1) 0x80 0xbf (i + 1) r
    else ⟨start, some (i - start)⟩

/-- The place where `d` stops being UTF-8; its end when it is UTF-8 throughout. -/
def utf8Fault (d : Octets) : Utf8Fault := scanFault 0 0 0x80 0xbf 0 d

/-- The text whose UTF-8 form is `d`. -/
def ofOctets (d : Octets) : Except Utf8Fault String :=
  match String.fromUTF8? ⟨d.toArray⟩ with
  | some s => .ok s
  | none => .error (utf8Fault d)

example : (ofOctets [0x68, 0xc3, 0xa9]).toOption = some "hé" := by decide +kernel

example : utf8Fault [0x67, 0xff] = ⟨1, some 1⟩ ∧ utf8Fault [0xe2, 0x82] = ⟨0, none⟩ ∧
    utf8Fault [0xf0, 0x9f, 0x98, 0x41] = ⟨0, some 3⟩ ∧
    utf8Fault [0xed, 0xa0, 0x80] = ⟨0, some 1⟩ := by decide

/-- The UTF-8 size of a character list. -/
def size : List Char → Nat
  | [] => 0
  | c :: cs => c.utf8Size + size cs

theorem size_append (cs ds : List Char) : size (cs ++ ds) = size cs + size ds := by
  induction cs with
  | nil => simp [size]
  | cons c cs ih => rw [List.cons_append, size, ih, size, Nat.add_assoc]

/-- The longest beginning of a character list with at most `n` octets. -/
def takeOctets (n : Nat) : List Char → List Char
  | [] => []
  | c :: cs => if c.utf8Size ≤ n then c :: takeOctets (n - c.utf8Size) cs else []

theorem size_takeOctets_le (n : Nat) (cs : List Char) : size (takeOctets n cs) ≤ n := by
  induction cs generalizing n with
  | nil => simp [takeOctets, size]
  | cons c cs ih =>
    unfold takeOctets
    split
    · have := ih (n - c.utf8Size)
      simp only [size] at this ⊢
      omega
    · simp [size]

theorem takeOctets_isPrefix (n : Nat) (cs : List Char) : takeOctets n cs <+: cs := by
  induction cs generalizing n with
  | nil => simp [takeOctets]
  | cons c cs ih =>
    unfold takeOctets
    split
    · simpa using ih _
    · simp

theorem takeOctets_eq_self {n : Nat} {cs : List Char} (h : size cs ≤ n) : takeOctets n cs = cs := by
  induction cs generalizing n with
  | nil => rfl
  | cons c cs ih =>
    simp only [size] at h
    rw [takeOctets, if_pos (by omega), ih (by omega)]

/-- The cut stops only before a character that does not fit. -/
theorem takeOctets_next {n : Nat} {cs rest : List Char} {c : Char}
    (h : cs = takeOctets n cs ++ c :: rest) : n < size (takeOctets n cs) + c.utf8Size := by
  induction cs generalizing n with
  | nil => simp at h
  | cons d cs ih =>
    unfold takeOctets at h ⊢
    split at h <;> rename_i hd
    · rw [if_pos hd]
      have := ih (List.cons.inj h).2
      simp only [size] at this ⊢
      omega
    · rw [if_neg hd]
      have hc : d = c := (List.cons.inj h).1
      simp only [size, ← hc]
      omega

/-- Cuts `s` to at most `n` octets between two characters. -/
def truncate (s : String) (n : Nat) : String := String.ofList (takeOctets n s.toList)

@[simp] theorem toList_truncate (s : String) (n : Nat) :
    (truncate s n).toList = takeOctets n s.toList := String.toList_ofList

/-- A text is cut before its first character that does not fit, if there is one. -/
theorem truncate_cases (s : String) (n : Nat) :
    (size s.toList ≤ n ∧ truncate s n = s) ∨
      ∃ pre c post, s.toList = pre ++ c :: post ∧ truncate s n = String.ofList pre ∧
        size pre ≤ n ∧ n < size pre + c.utf8Size := by
  have hsize := size_takeOctets_le n s.toList
  obtain ⟨post, hpost⟩ := takeOctets_isPrefix n s.toList
  cases post with
  | nil =>
    rw [List.append_nil] at hpost
    exact .inl ⟨hpost ▸ hsize, by rw [truncate, hpost, String.ofList_toList]⟩
  | cons c post =>
    exact .inr ⟨_, c, post, hpost.symm, rfl, hsize, takeOctets_next hpost.symm⟩

theorem takeOctets_takeOctets (m n : Nat) (cs : List Char) :
    takeOctets n (takeOctets m cs) = takeOctets (min m n) cs := by
  induction cs generalizing m n with
  | nil => rfl
  | cons c cs ih =>
    by_cases hm : c.utf8Size ≤ m
    · by_cases hn : c.utf8Size ≤ n
      · rw [takeOctets, if_pos hm, takeOctets, if_pos hn, ih, takeOctets,
          if_pos (Nat.le_min.mpr ⟨hm, hn⟩), Nat.sub_min_sub_right]
      · rw [takeOctets, if_pos hm, takeOctets, if_neg hn, takeOctets, if_neg (by omega)]
    · rw [takeOctets, if_neg hm, takeOctets, takeOctets, if_neg (by omega)]

/-- Only the tighter of two cuts counts. -/
theorem truncate_truncate (s : String) (m n : Nat) :
    truncate (truncate s m) n = truncate s (min m n) := by
  rw [truncate, toList_truncate, takeOctets_takeOctets, truncate]

end TrafficControl.Text
