import CoherentTasks.Text.Reader

/-!
# Gaps, lines and comments

What may stand between the parts of a document.
-/

namespace CoherentTasks.Document

open CoherentTasks.Text (Reader)

def isGap (character : Char) : Bool :=
  character == ' ' || character == '\t'

def skipGaps (characters : List Char) : List Char :=
  characters.dropWhile isGap

/-- Characters that may stand in a comment or in a quotation: no controls except
the tabulator. -/
def isPlain (character : Char) : Bool :=
  character == '\t' || (32 ≤ character.toNat && character.toNat ≠ 127)

/-- Takes a line break off as it is written. -/
def readBreak : Reader (List Char)
  | '\n' :: rest => some (['\n'], rest)
  | '\r' :: '\n' :: rest => some (['\r', '\n'], rest)
  | _ => none

def skipBreak? (characters : List Char) : Option (List Char) :=
  (readBreak characters).map (·.2)

def skipBlanks : List Char → List Char
  | '\n' :: rest => skipBlanks rest
  | '\r' :: '\n' :: rest => skipBlanks rest
  | character :: rest =>
    if isGap character then skipBlanks rest else character :: rest
  | [] => []

/-- Leaves out gaps, line breaks and comments. -/
def skipFiller (inComment : Bool) : List Char → Option (List Char)
  | [] => some []
  | '\n' :: rest => skipFiller false rest
  | '\r' :: '\n' :: rest => skipFiller false rest
  | character :: rest =>
    if inComment then
      if isPlain character then skipFiller true rest else none
    else if isGap character then skipFiller false rest
    else if character == '#' then skipFiller true rest
    else some (character :: rest)

/-- The end of a line: gaps, maybe a comment, then a line break or the end of
the text. -/
def skipLineEnd (characters : List Char) : Option (List Char) :=
  let body :=
    match skipGaps characters with
    | '#' :: comment => comment.dropWhile isPlain
    | rest => rest
  match body with
  | [] => some []
  | rest => skipBreak? rest

end CoherentTasks.Document
