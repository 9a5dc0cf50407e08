/-!
# Hexadecimal numerals

Addresses and opcodes are written in sixteens.  `Hex.digits` is the numeral of a
number without leading zeros, `Hex.padded` fills it up to a least width, and
`Hex.bytes` writes a string of bytes with two digits each.
-/

namespace Chip8.Hex

/-- The digits of a number in base sixteen, most significant first, in lower case. -/
def digits (n : Nat) : List Char := Nat.toDigits 16 n

/-- The numeral of `n` in lower case, with zeros in front up to `width` digits. -/
def padded (width n : Nat) : String :=
  String.ofList (List.replicate (width - (digits n).length) '0' ++ digits n)

/-- The numeral of `n` in lower case, without leading zeros. -/
def plain (n : Nat) : String := padded 0 n

/-- The numeral of `n` in upper case, with zeros in front up to `width` digits. -/
def upper (width n : Nat) : String := (padded width n).map Char.toUpper

/-- An address as messages write it: at least three digits after `0x`. -/
def address (n : Nat) : String := "0x" ++ padded 3 n

/-- Two lower-case digits for every byte, in order and without separators. -/
def bytes (bs : List UInt8) : String := String.join (bs.map fun b => padded 2 b.toNat)

end Chip8.Hex
