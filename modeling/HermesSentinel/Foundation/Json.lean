import HermesSentinel.Foundation.CodePoints
import Mathlib.Data.List.Sort

namespace Foundation

/-!
# JSON documents

A document is a tree in which an object is a list of members: the order of the
members and repeated keys are part of the tree, and it is up to the reader to
give them a meaning.  Integers are kept apart from the other numbers, which
are kept as their literals.  `constant` stands for the non-standard tokens
(`NaN` and the infinities) that some readers offer to a hook.

`render` writes a document without insignificant blanks; `Json.scan` reads one.
-/

inductive Json
  | null
  | bool (value : Bool)
  | int (value : Int)
  | real (literal : Text)
  | constant (token : Text)
  | str (value : Text)
  | array (items : List Json)
  | object (members : List (Text × Json))

namespace Json

def hexDigit (n : Nat) : CodePoint :=
  if n % 16 < 10 then digit (n % 16) else ⟨97 + (n % 16 - 10), by omega⟩

/-- The escape of one UTF-16 code unit. -/
def escapeUnit (n : Nat) : Text :=
  text "\\u" ++ [hexDigit (n / 4096), hexDigit (n / 256), hexDigit (n / 16), hexDigit n]

/-- The characters that stand for themselves inside a string. -/
def isSimple (c : CodePoint) : Bool :=
  decide (0x20 ≤ c.val ∧ c.val ≤ 0x7E ∧ c ≠ codePoint '"' ∧ c ≠ codePoint '\\')

/-- One character of a string, written in ASCII. -/
def escape (c : CodePoint) : Text :=
  if isSimple c then [c]
  else if c = codePoint '"' then text "\\\""
  else if c = codePoint '\\' then text "\\\\"
  else if c.val = 10 then text "\\n"
  else if c.val = 13 then text "\\r"
  else if c.val = 9 then text "\\t"
  else if c.val = 8 then text "\\b"
  else if c.val = 12 then text "\\f"
  else if c.val < 0x10000 then escapeUnit c.val
  else escapeUnit (0xD800 + (c.val - 0x10000) / 1024) ++ escapeUnit (0xDC00 + (c.val - 0x10000) % 1024)

def renderString (s : Text) : Text :=
  codePoint '"' :: (s.flatMap escape ++ [codePoint '"'])

def renderInt (i : Int) : Text :=
  if i < 0 then codePoint '-' :: decimal i.natAbs else decimal i.natAbs

mutual

/-- The compact text of a document. -/
def render : Json -> Text
  | .null => text "null"
  | .bool true => text "true"
  | .bool false => text "false"
  | .int i => renderInt i
  | .real literal => literal
  | .constant token => token
  | .str s => renderString s
  | .array items => codePoint '[' :: (renderItems items ++ [codePoint ']'])
  | .object members => codePoint '{' :: (renderMembers members ++ [codePoint '}'])

def renderItems : List Json -> Text
  | [] => []
  | item :: rest => render item ++ renderMoreItems rest

def renderMoreItems : List Json -> Text
  | [] => []
  | item :: rest => codePoint ',' :: (render item ++ renderMoreItems rest)

def renderMembers : List (Text × Json) -> Text
  | [] => []
  | (key, value) :: rest =>
      renderString key ++ codePoint ':' :: (render value ++ renderMoreMembers rest)

def renderMoreMembers : List (Text × Json) -> Text
  | [] => []
  | (key, value) :: rest =>
      codePoint ',' :: (renderString key ++ codePoint ':' :: (render value ++ renderMoreMembers rest))

end

/-- Members in the order of their keys. -/
def sortMembers (members : List (Text × Json)) : List (Text × Json) :=
  members.insertionSort (fun first second => first.1 ≤ second.1)

mutual

/-- The document with the members of every object sorted by key. -/
def sortKeys : Json -> Json
  | .array items => .array (sortKeysItems items)
  | .object members => .object (sortMembers (sortKeysMembers members))
  | .null => .null
  | .bool value => .bool value
  | .int value => .int value
  | .real literal => .real literal
  | .constant token => .constant token
  | .str value => .str value

def sortKeysItems : List Json -> List Json
  | [] => []
  | item :: rest => sortKeys item :: sortKeysItems rest

def sortKeysMembers : List (Text × Json) -> List (Text × Json)
  | [] => []
  | (key, value) :: rest => (key, sortKeys value) :: sortKeysMembers rest

end

/-! ## Scanning -/

/-- The ways reading a text can end. -/
inductive Scanned (α : Type)
  | value (result : α)
  | malformed
  | tooDeep

namespace Scanned

def map {α β : Type} (f : α -> β) : Scanned α -> Scanned β
  | .value result => .value (f result)
  | .malformed => .malformed
  | .tooDeep => .tooDeep

def bind {α β : Type} : Scanned α -> (α -> Scanned β) -> Scanned β
  | .value result, next => next result
  | .malformed, _ => .malformed
  | .tooDeep, _ => .tooDeep

end Scanned

def isBlankChar (c : CodePoint) : Bool :=
  decide (c.val = 0x20 ∨ c.val = 0x09 ∨ c.val = 0x0A ∨ c.val = 0x0D)

def skipBlanks (s : Text) : Text :=
  s.dropWhile isBlankChar

/-- The characters of numerals; no token that may follow a number uses them. -/
def isNumberChar (c : CodePoint) : Bool :=
  isDigit c || decide (c = codePoint '-' ∨ c = codePoint '+' ∨ c = codePoint '.' ∨
    c = codePoint 'e' ∨ c = codePoint 'E')

/-- The natural number of a digit sequence without a superfluous leading zero. -/
def readNatural (token : Text) : Option Nat :=
  match token with
  | [] => none
  | first :: rest =>
      if (first = digit 0 -> rest = []) ∧ token.all isDigit = true then some (decimalValue token)
      else none

def isDigits (token : Text) : Bool :=
  !token.isEmpty && token.all isDigit

/-- An exponent: `e` or `E`, an optional sign and digits. -/
def isExponent (token : Text) : Bool :=
  match token with
  | [] => true
  | e :: rest =>
      decide (e = codePoint 'e' ∨ e = codePoint 'E') &&
        (match rest with
        | [] => false
        | sign :: digits =>
            if sign = codePoint '+' ∨ sign = codePoint '-' then isDigits digits else isDigits rest)

/-- What follows the integer part of a number that is not an integer. -/
def isFraction (token : Text) : Bool :=
  match token with
  | [] => false
  | dot :: rest =>
      if dot = codePoint '.' then
        isDigits (rest.takeWhile isDigit) && isExponent (rest.dropWhile isDigit)
      else isExponent token

/-- Classify a maximal run of number characters. -/
def readNumber (token : Text) : Option Json :=
  let unsigned := if token.head? = some (codePoint '-') then token.tail else token
  match readNatural unsigned with
  | some n => some (.int (if token.head? = some (codePoint '-') then -(n : Int) else n))
  | none =>
      if (readNatural (unsigned.takeWhile isDigit)).isSome ∧
          isFraction (unsigned.dropWhile isDigit) = true then some (.real token)
      else none

def hexValue (c : CodePoint) : Option Nat :=
  if isDigit c then some (c.val - 48)
  else if 97 ≤ c.val ∧ c.val ≤ 102 then some (c.val - 87)
  else if 65 ≤ c.val ∧ c.val ≤ 70 then some (c.val - 55)
  else none

/-- Four hexadecimal digits at the start of a text. -/
def readUnit : Text -> Option (Nat × Text)
  | a :: b :: c :: d :: rest => do
      let a ← hexValue a
      let b ← hexValue b
      let c ← hexValue c
      let d ← hexValue d
      some (a * 4096 + b * 256 + c * 16 + d, rest)
  | _ => none

/-- The character of a single-letter escape. -/
def readShortEscape (c : CodePoint) : Option CodePoint :=
  if c = codePoint '"' ∨ c = codePoint '\\' ∨ c = codePoint '/' then some c
  else if c = codePoint 'n' then some 10
  else if c = codePoint 'r' then some 13
  else if c = codePoint 't' then some 9
  else if c = codePoint 'b' then some 8
  else if c = codePoint 'f' then some 12
  else none

/-- The escape after a backslash; a surrogate pair is read as one character. -/
def readEscape : Text -> Option (CodePoint × Text)
  | [] => none
  | c :: rest =>
      if c = codePoint 'u' then
        match readUnit rest with
        | none => none
        | some (unit, rest) =>
            let low := match rest with
              | slash :: u :: more =>
                  if slash = codePoint '\\' ∧ u = codePoint 'u' then readUnit more else none
              | _ => none
            match low with
            | some (second, more) =>
                if 0xD800 ≤ unit ∧ unit < 0xDC00 ∧ 0xDC00 ≤ second ∧ second < 0xE000 then
                  some (Fin.ofNat 0x110000 (0x10000 + (unit - 0xD800) * 1024 + (second - 0xDC00)), more)
                else some (Fin.ofNat 0x110000 unit, rest)
            | none => some (Fin.ofNat 0x110000 unit, rest)
      else
        match readShortEscape c with
        | none => none
        | some c => some (c, rest)

/-- The characters of a string after its opening quote.  The first argument
bounds the number of characters read. -/
def readString : Nat -> Text -> Option (Text × Text)
  | 0, _ => none
  | _ + 1, [] => none
  | fuel + 1, c :: rest =>
      if c = codePoint '"' then some ([], rest)
      else if c = codePoint '\\' then
        match readEscape rest with
        | none => none
        | some (c, rest) => (readString fuel rest).map fun found => (c :: found.1, found.2)
      else if c.val < 0x20 then none
      else (readString fuel rest).map fun found => (c :: found.1, found.2)

/-- A literal word at the start of a text. -/
def readWord (word : String) (value : Json) (s : Text) : Option (Json × Text) :=
  if (text word).isPrefixOf s then some (value, s.drop (text word).length) else none

/-- A value that is neither a string nor a container. -/
def readScalar (s : Text) : Option (Json × Text) :=
  (readWord "null" .null s).orElse fun _ =>
  (readWord "true" (.bool true) s).orElse fun _ =>
  (readWord "false" (.bool false) s).orElse fun _ =>
  (readWord "NaN" (.constant (text "NaN")) s).orElse fun _ =>
  (readWord "Infinity" (.constant (text "Infinity")) s).orElse fun _ =>
  (readWord "-Infinity" (.constant (text "-Infinity")) s).orElse fun _ =>
  (readNumber (s.takeWhile isNumberChar)).map fun number => (number, s.dropWhile isNumberChar)

def ofOption {α : Type} : Option α -> Scanned α
  | some result => .value result
  | none => .malformed

mutual

/-- Read one value.  `fuel` bounds the length of the text and `depth` the
nesting of containers. -/
def scanValue (fuel depth : Nat) (s : Text) : Scanned (Json × Text) :=
  match fuel, s with
  | 0, _ => .malformed
  | _ + 1, [] => .malformed
  | fuel + 1, c :: rest =>
      if c = codePoint '"' then
        (ofOption (readString (rest.length + 1) rest)).map fun found => (.str found.1, found.2)
      else if c = codePoint '[' then
        match depth with
        | 0 => .tooDeep
        | depth + 1 =>
            match skipBlanks rest with
            | [] => .malformed
            | c :: more =>
                if c = codePoint ']' then .value (.array [], more)
                else (scanItems fuel depth (c :: more)).map fun found => (.array found.1, found.2)
      else if c = codePoint '{' then
        match depth with
        | 0 => .tooDeep
        | depth + 1 =>
            match skipBlanks rest with
            | [] => .malformed
            | c :: more =>
                if c = codePoint '}' then .value (.object [], more)
                else (scanMembers fuel depth (c :: more)).map fun found => (.object found.1, found.2)
      else ofOption (readScalar (c :: rest))

/-- Read the items of an array up to its closing bracket. -/
def scanItems (fuel depth : Nat) (s : Text) : Scanned (List Json × Text) :=
  match fuel with
  | 0 => .malformed
  | fuel + 1 =>
      (scanValue fuel depth s).bind fun found =>
        match skipBlanks found.2 with
        | [] => .malformed
        | c :: more =>
            if c = codePoint ']' then .value ([found.1], more)
            else if c = codePoint ',' then
              (scanItems fuel depth (skipBlanks more)).map fun others =>
                (found.1 :: others.1, others.2)
            else .malformed

/-- Read the members of an object up to its closing brace. -/
def scanMembers (fuel depth : Nat) (s : Text) : Scanned (List (Text × Json) × Text) :=
  match fuel, s with
  | 0, _ => .malformed
  | _ + 1, [] => .malformed
  | fuel + 1, quote :: rest =>
      if quote = codePoint '"' then
        (ofOption (readString (rest.length + 1) rest)).bind fun key =>
          match skipBlanks key.2 with
          | [] => .malformed
          | colon :: rest =>
              if colon = codePoint ':' then
                (scanValue fuel depth (skipBlanks rest)).bind fun found =>
                  match skipBlanks found.2 with
                  | [] => .malformed
                  | c :: more =>
                      if c = codePoint '}' then .value ([(key.1, found.1)], more)
                      else if c = codePoint ',' then
                        (scanMembers fuel depth (skipBlanks more)).map fun others =>
                          ((key.1, found.1) :: others.1, others.2)
                      else .malformed
              else .malformed
      else .malformed

end

/-- Read a whole text as one document, with a bound on the nesting. -/
def scan (depth : Nat) (s : Text) : Scanned Json :=
  (scanValue (s.length + 1) depth (skipBlanks s)).bind fun found =>
    if skipBlanks found.2 = [] then .value found.1 else .malformed

end Json

end Foundation
