import SetQuery.Text.Case
import SetQuery.Text.ObscureTable

/-!
# Quoted texts in messages

A message that shows a text puts it in double quotes. Quotes and backslashes get a backslash,
tabs, line ends and the null character have short names, and characters that cannot be seen are
written by their code in hexadecimal.
-/

namespace SetQuery.Text

/-- A character written by its code. -/
def byCode (c : Char) : List Char :=
  "\\u\x7b".toList ++ Nat.toDigits 16 c.toNat ++ ['\x7d']

/-- A character as it stands in a quoted text. -/
def quotedChar (c : Char) : List Char :=
  match c with
  | '\x00' => ['\\', '0']
  | '\t' => ['\\', 't']
  | '\n' => ['\\', 'n']
  | '\r' => ['\\', 'r']
  | '"' => ['\\', '"']
  | '\\' => ['\\', '\\']
  | _ =>
    let n := c.toNat
    let obscure := if n < 0x80 then n < 0x20 || n == 0x7F else inRuns obscureRuns n
    if obscure then byCode c else [c]

/-- The text in double quotes. -/
def quoted (s : String) : String :=
  String.ofList ('"' :: s.toList.flatMap quotedChar ++ ['"'])

end SetQuery.Text
