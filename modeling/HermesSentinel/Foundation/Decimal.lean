import HermesSentinel.Foundation.CodePoints
import Mathlib.Data.Rat.Defs
import Mathlib.Algebra.Field.Rat

namespace Foundation

/-!
# Decimal numerals

The rational a numeral with an optional sign, fraction and exponent denotes.
-/

namespace Decimal

/-- The exponent behind the letter. -/
def exponent : Text -> Int
  | [] => 0
  | sign :: digits =>
      if sign = codePoint '-' then -(decimalValue digits : Int)
      else if sign = codePoint '+' then decimalValue digits
      else decimalValue (sign :: digits)

/-- The number without its sign. -/
def magnitude (numeral : Text) : ℚ :=
  let whole := numeral.takeWhile isDigit
  let rest := numeral.dropWhile isDigit
  let fraction := if rest.head? = some (codePoint '.') then rest.tail.takeWhile isDigit else []
  let letter := if rest.head? = some (codePoint '.') then rest.tail.dropWhile isDigit else rest
  decimalValue (whole ++ fraction) * (10 : ℚ) ^ (exponent letter.tail - fraction.length)

def value (numeral : Text) : ℚ :=
  if numeral.head? = some (codePoint '-') then -magnitude numeral.tail else magnitude numeral

end Decimal
end Foundation
