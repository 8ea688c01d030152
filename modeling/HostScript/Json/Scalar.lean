import HostScript.Binary64.Approximation
import HostScript.Json.Error

/-!
# Reading JSON scalars

Readers of numbers, strings and fixed words. A number without fraction and exponent is an integer if
it fits into 64 bits. Any other number is a double, which must be finite: as many of its digits are
taken as fit into 64 bits, and the power of ten that is left is applied to them in few steps, so the
double is near the number but not always the nearest one.
-/

namespace HostScript.Json

/-- Takes digits on to a significand as long as it fits into 64 bits, and gives the digits that are
left. -/
def takeDigits (significand : Nat) : List Char → Nat × List Char
  | [] => (significand, [])
  | digit :: digits =>
    let longer := 10 * significand + (digit.toNat - '0'.toNat)
    if longer < 2 ^ 64 then takeDigits longer digits else (significand, digit :: digits)

/-- An integer whose magnitude fits into 64 bits: if it does not fit with its sign it is a double,
and so is a negative zero. -/
def Number.ofInteger (negative : Bool) (magnitude : Nat) : Number :=
  if negative then
    if 0 < magnitude ∧ magnitude ≤ 2 ^ 63 then .integer (-magnitude)
    else .float (-.ofNat magnitude)
  else .integer magnitude

/-- The number with the given parts. Each digit before the point that is not taken raises the power
of ten by one, and each digit after the point that is taken lowers it by one. -/
def Number.ofParts (negative : Bool) (whole : List Char) (fraction : Option (List Char))
    (power : Option Int) : Number :=
  let (significand, dropped) := takeDigits 0 whole
  if dropped.isEmpty && fraction.isNone && power.isNone then .ofInteger negative significand
  else
    let places := fraction.getD []
    let (significand, ignored) := takeDigits significand places
    .float (.approximate negative
      ⟨significand, power.getD 0 + dropped.length - (places.length - ignored.length)⟩)

/-- A number out of the range of doubles is malformed. -/
def Number.inRange : Number → Bool
  | .integer _ => true
  | .float value => value.isFinite

/-- A reader takes what it needs from the front of the text. -/
abbrev Reader := StateT (List Char) (Except ReadError)

namespace Reader

/-- The error for text that does not go on as it must. -/
def stopAt : List Char → ReadError
  | [] => .endOfText
  | _ => .malformed

/-- Reads exactly the given characters. -/
def word : List Char → Reader Unit
  | [], text => .ok ((), text)
  | wanted :: others, char :: text =>
    if char = wanted then word others text else .error .malformed
  | _ :: _, [] => .error .endOfText

/-- Reads a run of at least one decimal digit. -/
def digits : Reader (List Char) := fun text =>
  if (text.takeWhile Char.isDigit).isEmpty then .error (stopAt text)
  else .ok (text.takeWhile Char.isDigit, text.dropWhile Char.isDigit)

/-- Reads the integer part of a number: a zero alone, or digits that do not start with zero. -/
def integerDigits : Reader (List Char)
  | '0' :: char :: text =>
    if char.isDigit then .error .malformed else .ok (['0'], char :: text)
  | text => digits text

/-- Reads a fraction, if there is one. -/
def fractionDigits : Reader (Option (List Char))
  | '.' :: text => do
    let (fraction, rest) ← digits text
    return (some fraction, rest)
  | text => .ok (none, text)

/-- Reads digits as an integer of the given sign. -/
def signedDigits (negative : Bool) : Reader Int := fun text => do
  let (found, rest) ← digits text
  let magnitude : Int := Nat.ofDigitChars 10 found 0
  return (if negative then -magnitude else magnitude, rest)

/-- Reads the signed power of ten after an exponent mark. -/
def exponentValue : Reader Int
  | '-' :: text => signedDigits true text
  | '+' :: text => signedDigits false text
  | text => signedDigits false text

/-- Reads an exponent, if there is one. -/
def exponent : Reader (Option Int)
  | char :: text =>
    if char = 'e' ∨ char = 'E' then do
      let (value, rest) ← exponentValue text
      return (some value, rest)
    else .ok (none, char :: text)
  | [] => .ok (none, [])

/-- Reads a number after its sign. -/
def unsignedNumber (negative : Bool) : Reader Number := do
  let whole ← integerDigits
  let fraction ← fractionDigits
  let power ← exponent
  let number := Number.ofParts negative whole fraction power
  if number.inRange then return number else throw .malformed

/-- The value of a hexadecimal digit. -/
def hexDigit? (char : Char) : Option Nat :=
  if char.isDigit then some (char.toNat - '0'.toNat)
  else if 'a' ≤ char ∧ char ≤ 'f' then some (char.toNat - 'a'.toNat + 10)
  else if 'A' ≤ char ∧ char ≤ 'F' then some (char.toNat - 'A'.toNat + 10)
  else none

/-- The value of four hexadecimal digits. -/
def hexQuad? (first second third fourth : Char) : Option Nat := do
  let a ← hexDigit? first
  let b ← hexDigit? second
  let c ← hexDigit? third
  let d ← hexDigit? fourth
  return ((a * 16 + b) * 16 + c) * 16 + d

/-- The error for text that does not start with four hexadecimal digits: it ended too early if
fewer than four bytes are left. -/
def hexError (text : List Char) : ReadError :=
  if (String.ofList text).utf8ByteSize < 4 then .endOfText else .malformed

/-- The character of an escape of one letter. -/
def letterEscape? (char : Char) : Option Char :=
  if char = '"' ∨ char = '\\' ∨ char = '/' then some char
  else if char = 'b' then some (Char.ofNat 8)
  else if char = 'f' then some (Char.ofNat 12)
  else if char = 'n' then some '\n'
  else if char = 'r' then some '\r'
  else if char = 't' then some '\t'
  else none

/-- The character that a pair of surrogates stands for. -/
def surrogatePair (leading trailing : Nat) : Char :=
  Char.ofNat (0x10000 + (leading - 0xD800) * 0x400 + (trailing - 0xDC00))

/-- The error for text after a leading surrogate that is not an escaped trailing surrogate. -/
def trailingError : List Char → ReadError
  | [] => .endOfText
  | ['\\'] => .endOfText
  | '\\' :: 'u' :: text => hexError text
  | _ => .malformed

/-- Reads the characters of a string up to its closing quote. -/
def stringBody : List Char → Except ReadError (List Char × List Char)
  | [] => .error .endOfText
  | '"' :: rest => .ok ([], rest)
  | '\\' :: 'u' :: text =>
    match text with
    | a :: b :: c :: d :: after =>
      match hexQuad? a b c d with
      | none => .error (hexError text)
      | some code =>
        if code < 0xD800 ∨ 0xE000 ≤ code then do
          let (chars, rest) ← stringBody after
          return (Char.ofNat code :: chars, rest)
        else if 0xDC00 ≤ code then .error .malformed
        else
          match after with
          | '\\' :: 'u' :: e :: f :: g :: h :: others =>
            match hexQuad? e f g h with
            | some trailing =>
              if 0xDC00 ≤ trailing ∧ trailing < 0xE000 then do
                let (chars, rest) ← stringBody others
                return (surrogatePair code trailing :: chars, rest)
              else .error (trailingError after)
            | none => .error (trailingError after)
          | _ => .error (trailingError after)
    | _ => .error (hexError text)
  | '\\' :: char :: text =>
    match letterEscape? char with
    | some escaped => do
      let (chars, rest) ← stringBody text
      return (escaped :: chars, rest)
    | none => .error .malformed
  | ['\\'] => .error .endOfText
  | char :: text =>
    if char.toNat < 32 then .error .malformed
    else do
      let (chars, rest) ← stringBody text
      return (char :: chars, rest)

/-- Reads a string after its opening quote. -/
def stringRest : Reader String := fun text => do
  let (chars, rest) ← stringBody text
  return (String.ofList chars, rest)

end Reader

end HostScript.Json
