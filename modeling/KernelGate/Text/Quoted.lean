import KernelGate.Text.Decimal
import KernelGate.Text.Printable

/-!
# Quoted text

Text between quotation marks in which every character can be seen: a mark or a backslash inside is
escaped, the usual control characters have short escapes, and any other character that shows
nothing by itself is written by its code point in hexadecimal.
-/

namespace KernelGate.Text

/-- One character of quoted text. -/
def quotedChar (c : Char) : List Char :=
  match c with
  | '\x00' => ['\\', '0']
  | '\t' => ['\\', 't']
  | '\r' => ['\\', 'r']
  | '\n' => ['\\', 'n']
  | '"' => ['\\', '"']
  | '\\' => ['\\', '\\']
  | c => if isHidden c then ['\\', 'u', '\x7b'] ++ hexDigits 1 c.toNat ++ ['\x7d'] else [c]

/-- Text between quotation marks. -/
def quoted (s : String) : String :=
  String.ofList ('"' :: s.toList.flatMap quotedChar ++ ['"'])

end KernelGate.Text
