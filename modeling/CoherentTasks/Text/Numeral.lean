/-!
# Decimal numerals

Reading an unsigned numeral below a limit. Digits are ASCII, one leading plus
sign is allowed, and the first fault from the left is the one reported.
-/

namespace CoherentTasks.Text

/-- Why a text is not a numeral below the limit. -/
inductive NumeralError where
  | empty
  | invalidDigit
  | tooLarge
  deriving DecidableEq, Repr

def NumeralError.message : NumeralError → String
  | .empty => "cannot parse integer from empty string"
  | .invalidDigit => "invalid digit found in string"
  | .tooLarge => "number too large to fit in target type"

def digitValue? (character : Char) : Option Nat :=
  if '0' ≤ character ∧ character ≤ '9'
    then some (character.toNat - '0'.toNat) else none

/-- Reads digits onto the value read so far, which stays below the limit. -/
def readDigits (limit : Nat) : Nat → List Char → Except NumeralError Nat
  | value, [] => .ok value
  | value, character :: rest =>
    match digitValue? character with
    | none => .error .invalidDigit
    | some digit =>
      let extended := 10 * value + digit
      if extended < limit then readDigits limit extended rest
        else .error .tooLarge

/-- Reads an unsigned numeral below the limit; a sign alone is an invalid
digit. -/
def readNumeral (limit : Nat) : List Char → Except NumeralError Nat
  | [] => .error .empty
  | ['+'] => .error .invalidDigit
  | '+' :: digits => readDigits limit 0 digits
  | digits => readDigits limit 0 digits

end CoherentTasks.Text
