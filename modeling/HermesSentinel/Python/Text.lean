import HermesSentinel.Foundation.CodePoints

namespace HermesSentinel
namespace Python

/-!
# Strings

A Python `str` is a text in the sense of `Foundation.Text`: a sequence of code
points in which lone surrogates may occur.
-/

open Foundation

abbrev PyStr := Text

/-- The characters removed by `str.strip()`. -/
def isSpace (c : CodePoint) : Bool :=
  let n := c.val
  decide ((9 ≤ n ∧ n ≤ 13) ∨ (28 ≤ n ∧ n ≤ 32) ∨ n = 0x85 ∨ n = 0xA0 ∨ n = 0x1680 ∨
    (0x2000 ≤ n ∧ n ≤ 0x200A) ∨ n = 0x2028 ∨ n = 0x2029 ∨ n = 0x202F ∨ n = 0x205F ∨ n = 0x3000)

def stripBy (drop : CodePoint -> Bool) (s : PyStr) : PyStr :=
  ((s.dropWhile drop).reverse.dropWhile drop).reverse

def strip (s : PyStr) : PyStr :=
  stripBy isSpace s

/-- `not value.strip()`. -/
def isBlank (s : PyStr) : Bool :=
  (strip s).isEmpty

/-- `str.lower()` of a character, as far as it yields ASCII letters: of the
characters outside of ASCII two do. -/
def lowerChar (c : CodePoint) : PyStr :=
  if 65 ≤ c.val ∧ c.val ≤ 90 then [⟨c.val % 128 + 32, by omega⟩]
  else if c.val = 0x212A then [codePoint 'k']
  else if c.val = 0x130 then [codePoint 'i', ⟨0x307, by decide⟩]
  else [c]

def lower (s : PyStr) : PyStr :=
  s.flatMap lowerChar

/-- The characters outside of ASCII whose capitals have ASCII letters. -/
def specialCapitals : List (Nat × PyStr) :=
  [(0xDF, text "SS"), (0x131, text "I"), (0x149, text "\u02bcN"), (0x17F, text "S"),
    (0x1F0, text "J\u030c"), (0x1E96, text "H\u0331"), (0x1E97, text "T\u0308"),
    (0x1E98, text "W\u030a"), (0x1E99, text "Y\u030a"), (0x1E9A, text "A\u02be"),
    (0xFB00, text "FF"), (0xFB01, text "FI"), (0xFB02, text "FL"), (0xFB03, text "FFI"),
    (0xFB04, text "FFL"), (0xFB05, text "ST"), (0xFB06, text "ST")]

/-- `str.upper()` of a character, as far as it yields ASCII letters: a character
whose capitals have none stays as it is. -/
def upperChar (c : CodePoint) : PyStr :=
  if 97 ≤ c.val ∧ c.val ≤ 122 then [⟨c.val % 128 - 32, by omega⟩]
  else if c.val < 128 then [c]
  else (specialCapitals.lookup c.val).getD [c]

def upper (s : PyStr) : PyStr :=
  s.flatMap upperChar

/-- `s.split(separator)`. -/
def split (separator : CodePoint) (s : PyStr) : List PyStr :=
  s.splitOn separator

/-- `s.partition(separator)`, the middle part as whether there is one. -/
def partition (separator : CodePoint) (s : PyStr) : PyStr × Bool × PyStr :=
  match s.dropWhile (fun c => decide (c ≠ separator)) with
  | [] => (s, false, [])
  | _ :: after => (s.takeWhile (fun c => decide (c ≠ separator)), true, after)

end Python
end HermesSentinel
