/-!
# Digits

The values of digits in bases up to sixteen, and the characters that numbers of
them stand for.
-/

namespace CoherentTasks.Text

def isDecimal (character : Char) : Bool :=
  '0' ≤ character && character ≤ '9'

def hexValue? (character : Char) : Option Nat :=
  if isDecimal character then some (character.toNat - '0'.toNat)
  else if 'a' ≤ character && character ≤ 'f'
    then some (character.toNat - 'a'.toNat + 10)
  else if 'A' ≤ character && character ≤ 'F'
    then some (character.toNat - 'A'.toNat + 10)
  else none

def number? (base : Nat) (digits : List Char) : Option Nat :=
  digits.foldlM (fun value digit => do
    let next ← hexValue? digit
    if next < base then some (base * value + next) else none) 0

/-- The character with a code point, if there is one. -/
def scalar? (code : Nat) : Option Char :=
  if code < 0xD800 ∨ (0xDFFF < code ∧ code < 0x110000)
    then some (Char.ofNat code) else none

end CoherentTasks.Text
