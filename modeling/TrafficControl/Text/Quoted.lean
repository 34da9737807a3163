import TrafficControl.Text.Printable

/-!
# Quoted text

A text between quotes in which every character can be told apart: the quote and the backslash are
written behind a backslash, four control characters have a letter of their own, and any other
character that does not stand for itself is written by its number.
-/
namespace TrafficControl.Text

def hex (n : Nat) : String := String.ofList (Nat.toDigits 16 n)

def escape (c : Char) : String :=
  match c with
  | '\x00' => "\\0"
  | '\t' => "\\t"
  | '\n' => "\\n"
  | '\r' => "\\r"
  | '"' => "\\\""
  | '\\' => "\\\\"
  | _ => if isPrintable c then c.toString else "\\u\x7b" ++ hex c.toNat ++ "\x7d"

/-- Writes `s` between quotes. -/
def quote (s : String) : String :=
  "\"" ++ String.join (s.toList.map escape) ++ "\""

example : quote "a\"b\\c\n" = "\"a\\\"b\\\\c\\n\"" := by decide +kernel

example : quote "é\x1b" = "\"é\\u\x7b1b\x7d\"" := by decide +kernel

end TrafficControl.Text
