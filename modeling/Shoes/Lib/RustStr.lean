import Mathlib

/-!
# Rust string operations on the characters of a text

What Rust's `str` gives a parser of configuration text: `lines`, `split`, `split_once`, `trim`,
and `parse` of integer types. Texts are lists of characters; a separator or a line ending is one
character here, as it is one byte of UTF-8 there.
-/

namespace RustStr

/-- `char::is_whitespace`: the characters of Unicode's `White_Space` property. -/
def isWhitespace (c : Char) : Bool :=
  c.val ∈ [0x09, 0x0A, 0x0B, 0x0C, 0x0D, 0x20, 0x85, 0xA0, 0x1680, 0x2028, 0x2029, 0x202F,
    0x205F, 0x3000] || (0x2000 ≤ c.val && c.val ≤ 0x200A)

/-- `str::trim`: whitespace taken off both ends. -/
def trim (text : List Char) : List Char :=
  ((text.dropWhile isWhitespace).reverse.dropWhile isWhitespace).reverse

/-- `str::split_once`: the text before and after the first `separator`. -/
def splitOnce (separator : Char) (text : List Char) : Option (List Char × List Char) :=
  (text.idxOf? separator).map fun index => (text.take index, text.drop (index + 1))

/-- `str::lines`: the text split at each `\n`, a `\r` before it dropped, with no empty last line
after a final line ending. -/
def lines (text : List Char) : List (List Char) :=
  let pieces := text.splitOn '\n'
  let pieces := if pieces.getLast? = some [] then pieces.dropLast else pieces
  pieces.map fun line => if line.getLast? = some '\r' then line.dropLast else line

/-- The decimal digits of an integer's `from_str` after its sign: their value, or `none` for no
digits, a character that is not a digit, or a value of `bound` or more. -/
def parseDigits (bound : Nat) (digits : List Char) : Option Nat :=
  if digits.isEmpty then none
  else
    digits.foldlM (fun value c =>
      if c.isDigit ∧ value * 10 + (c.toNat - '0'.toNat) < bound then
        some (value * 10 + (c.toNat - '0'.toNat))
      else none) 0

/-- `from_str` of an unsigned integer type with `bound` values: an optional `+` and digits. -/
def parseUnsigned (bound : Nat) : List Char → Option Nat
  | '+' :: digits => parseDigits bound digits
  | digits => parseDigits bound digits

/-- `from_str` of a signed integer type from `-bound` to `bound - 1`: an optional sign and
digits. -/
def parseSigned (bound : Nat) : List Char → Option Int
  | '-' :: digits => (parseDigits (bound + 1) digits).map fun value => -(value : Int)
  | '+' :: digits => (parseDigits bound digits).map fun value => (value : Int)
  | digits => (parseDigits bound digits).map fun value => (value : Int)

example : lines "a\r\nb=c\n".toList = ["a".toList, "b=c".toList] := by decide
example : parseSigned (2 ^ 63) "-9223372036854775808".toList = some (-2 ^ 63) := by decide

end RustStr
