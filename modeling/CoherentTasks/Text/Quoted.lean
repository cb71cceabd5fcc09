import CoherentTasks.Text.Visible

/-!
# Quoted texts and lists

The written form of a text between double quotes, with everything escaped that
would not be visible, and of lists between brackets.
-/

namespace CoherentTasks.Text

/-- A code point in braces, as lower-case hexadecimal without padding. -/
def codeEscape (character : Char) : List Char :=
  ['\\', 'u', '\x7b'] ++ Nat.toDigits 16 character.toNat ++ ['\x7d']

/-- The written form of one character inside double quotes. -/
def quoteCharacter (character : Char) : List Char :=
  match character with
  | '"' => ['\\', '"']
  | '\\' => ['\\', '\\']
  | '\n' => ['\\', 'n']
  | '\r' => ['\\', 'r']
  | '\t' => ['\\', 't']
  | '\x00' => ['\\', '0']
  | _ => if isVisible character then [character] else codeEscape character

def quoted (text : String) : String :=
  String.ofList ('"' :: text.toList.flatMap quoteCharacter ++ ['"'])

/-- Items between brackets, separated by a comma and a space. -/
def bracketed (items : List String) : String :=
  "[" ++ ", ".intercalate items ++ "]"

def numberList (numbers : List Nat) : String :=
  bracketed (numbers.map toString)

def textList (texts : List String) : String :=
  bracketed (texts.map quoted)

/-- A number in hexadecimal, marked as such and without padding. -/
def hexadecimal (number : Nat) : String :=
  "0x" ++ String.ofList (Nat.toDigits 16 number)

end CoherentTasks.Text
