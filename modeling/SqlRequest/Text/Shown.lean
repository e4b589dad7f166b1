import SqlRequest.Text.Visible

/-!
A text as a message shows it: between double quotes, on one line, every character
that would not show replaced by an escape.
-/

namespace SqlRequest.Text

/-- One character of a shown text. -/
def showChar (c : Char) : List Char :=
  if c = '\x00' then ['\\', '0']
  else if c = '\t' then ['\\', 't']
  else if c = '\n' then ['\\', 'n']
  else if c = '\r' then ['\\', 'r']
  else if c = '"' then ['\\', '"']
  else if c = '\\' then ['\\', '\\']
  else if visible c then [c]
  else ['\\', 'u', '\x7b'] ++ Nat.toDigits 16 c.toNat ++ ['\x7d']

/-- A text between double quotes, with what does not show escaped. -/
def shown (s : String) : String :=
  String.ofList ('"' :: s.toList.flatMap showChar ++ ['"'])

end SqlRequest.Text
