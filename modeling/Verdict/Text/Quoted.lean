import Verdict.Unicode.Category

/-!
# Quoted text

Text between double quotes with everything escaped that would not show: the quote and the backslash, tabs and line ends by a letter, and by its code every character that has no shape of its own or joins the character before it.
-/

namespace Verdict.Quoted

def unicodeEscape (c : Char) : List Char :=
  '\\' :: 'u' :: '\x7b' :: Nat.toDigits 16 c.toNat ++ ['\x7d']

/-- A character between quotes. -/
def escaped (c : Char) : List Char :=
  match c with
  | '\x00' => ['\\', '0']
  | '\t' => ['\\', 't']
  | '\r' => ['\\', 'r']
  | '\n' => ['\\', 'n']
  | '"' => ['\\', '"']
  | '\\' => ['\\', '\\']
  | c =>
    if 0x20 ≤ c.toNat ∧ c.toNat < 0x7F then [c]
    else if Unicode.graphemeExtend.contains c.toNat || Unicode.unprintable.contains c.toNat then unicodeEscape c
    else [c]

def quote (text : String) : String := "\"" ++ String.ofList (text.toList.flatMap escaped) ++ "\""

/-- Texts between brackets, with commas. -/
def list (items : List String) : String := "[" ++ String.intercalate ", " items ++ "]"

end Verdict.Quoted
