import RuleScan.Unicode.Query

/-!
# Quoted text

A string between double quotes with everything escaped that would not show as itself: quotes,
backslashes, control characters, blanks other than the space, unassigned and private characters,
and combining characters, which would change the look of what precedes them.
-/

namespace RuleScan.Text

open RuleScan.Unicode

/-- Characters that do not show, and combining ones. -/
def hidden : RangeTable :=
  let set := (lookUpAll categories ["cc", "cf", "co", "cn", "zl", "zp", "zs"]).union
    (property "graphemeextend")
  .ofSet (set.diff maxCode (.single 0x20 0x20))

/-- The lower-case hexadecimal digits of a number. -/
def hexDigits (n : Nat) : List Char := Nat.toDigits 16 n

/-- How a character is written inside quotes. -/
def quotedChar (c : Char) : List Char :=
  match c with
  | '\x00' => ['\\', '0']
  | '\t' => ['\\', 't']
  | '\r' => ['\\', 'r']
  | '\n' => ['\\', 'n']
  | '"' => ['\\', '"']
  | '\\' => ['\\', '\\']
  | c =>
    if hidden.contains c.toNat then ['\\', 'u', '\x7b'] ++ hexDigits c.toNat ++ ['\x7d'] else [c]

/-- A string between double quotes, with escapes. -/
def quoted (s : String) : String :=
  String.ofList ('"' :: (s.toList.flatMap quotedChar ++ ['"']))

end RuleScan.Text
