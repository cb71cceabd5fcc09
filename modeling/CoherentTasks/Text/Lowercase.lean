import CoherentTasks.Text.CodeRanges
import CoherentTasks.Text.LetterCase

/-!
# Lower-casing of texts

Full Unicode lower-casing without language rules. A capital sigma becomes the
final form at the end of a word, and the dotted capital I becomes two
characters.
-/

namespace CoherentTasks.Text

def isCased (character : Char) : Bool :=
  inRanges casedRanges character.toNat

def isCaseIgnorable (character : Char) : Bool :=
  inRanges caseIgnorableRanges character.toNat

/-- Whether the first character that is not case-ignorable is cased. -/
def meetsCased (characters : List Char) : Bool :=
  match characters.dropWhile isCaseIgnorable with
  | [] => false
  | character :: _ => isCased character

/-- The lower-case form of a character that has one by itself, in any
context. -/
def lowerCharacter (character : Char) : List Char :=
  if character.toNat < 128 then [character.toLower]
  else if character = 'İ' then ['i', '\u0307']
  else
    match capitalRuns.find? (·.holds character.toNat) with
    | none => [character]
    | some run => [Char.ofNat (character.toNat + run.shift).toNat]

/-- Lower-cases the characters that follow `before`, which is given in reverse.
A sigma is final when a cased letter precedes it and none follows,
case-ignorable characters aside. -/
def lowerFrom (before : List Char) : List Char → List Char
  | [] => []
  | character :: rest =>
    let lowered :=
      if character = 'Σ' then
        if meetsCased before && !meetsCased rest then ['ς'] else ['σ']
      else lowerCharacter character
    lowered ++ lowerFrom (character :: before) rest

def lowercase (text : String) : String :=
  String.ofList (lowerFrom [] text.toList)

end CoherentTasks.Text
