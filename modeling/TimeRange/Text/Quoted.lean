import TimeRange.Text.Invisible

/-!
# Quoted text

Messages quote pieces of text between double quotes. A quote and a backslash
are written after a backslash, four control characters by a letter or a zero,
and a character without a shape of its own by its hexadecimal code point in
braces. Every other character stands for itself.
-/

namespace TimeRange.Text

def escaped (character : Char) : List Char :=
  match character with
  | '\x00' => ['\\', '0']
  | '\t' => ['\\', 't']
  | '\n' => ['\\', 'n']
  | '\r' => ['\\', 'r']
  | '"' => ['\\', '"']
  | '\\' => ['\\', '\\']
  | character =>
      if isInvisible character then
        ['\\', 'u', '\x7b'] ++ Nat.toDigits 16 character.toNat ++ ['\x7d']
      else [character]

def quoted (text : String) : String :=
  String.ofList ('"' :: text.toList.flatMap escaped ++ ['"'])

end TimeRange.Text
