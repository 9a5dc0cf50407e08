import Chip8.Text.Hex
import Chip8.Text.Printable

/-!
# Quoted characters and strings

Diagnostics put a character between single quotes and a string between double quotes.
The quote that delimits, the backslash and the common controls are written with a
backslash; any other character that is not printable is written by its code point.
-/

namespace Chip8.Text

/-- How a character is written between quotes of the kind `delimiter`. -/
def escaped (delimiter c : Char) : String :=
  if c = delimiter ∨ c = '\\' then String.ofList ['\\', c]
  else match c with
    | '\x00' => "\\0"
    | '\t' => "\\t"
    | '\n' => "\\n"
    | '\r' => "\\r"
    | _ => if isPrintable c then c.toString else "\\u\x7b" ++ Hex.plain c.toNat ++ "\x7d"

def quotedChar (c : Char) : String := "'" ++ escaped '\x27' c ++ "'"

def quotedString (s : String) : String :=
  "\"" ++ String.join (s.toList.map (escaped '\x22')) ++ "\""

end Chip8.Text
