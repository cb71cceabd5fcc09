import CoherentTasks.Document.Reader
import CoherentTasks.Text.Digits

/-!
# Quotations

Texts between quotation marks, on one line or on several. Between double marks a
backslash begins an escape; between single marks everything stands for itself.
-/

namespace CoherentTasks.Document

open CoherentTasks.Text (Reader number? scalar?)

/-- Reads the code point of an escape, written by a fixed number of hexadecimal
digits. -/
def readCode (length : Nat) : Reader Char := fun characters => do
  let digits := characters.take length
  if digits.length = length then
    return (← scalar? (← number? 16 digits), characters.drop length)
  else none

def readEscape : Reader Char
  | 'b' :: rest => some ('\x08', rest)
  | 't' :: rest => some ('\t', rest)
  | 'n' :: rest => some ('\n', rest)
  | 'f' :: rest => some ('\x0c', rest)
  | 'r' :: rest => some ('\r', rest)
  | 'e' :: rest => some ('\x1b', rest)
  | '"' :: rest => some ('"', rest)
  | '\\' :: rest => some ('\\', rest)
  | 'x' :: rest => readCode 2 rest
  | 'u' :: rest => readCode 4 rest
  | 'U' :: rest => readCode 8 rest
  | _ => none

/-- Puts characters in front of what a reader takes off. -/
def ahead (taken : List Char) (result : Option (List Char × List Char)) :
    Option (List Char × List Char) :=
  result.map fun (text, rest) => (taken ++ text, rest)

/-- Reads to the closing mark of a quotation on one line; every step takes at
least one character. -/
def readLine (mark : Char) (escapes : Bool) : Nat → Reader (List Char)
  | 0, _ => none
  | _ + 1, [] => none
  | steps + 1, character :: rest =>
    if character == mark then some ([], rest)
    else if escapes && character == '\\' then do
      let (escaped, rest) ← readEscape rest
      ahead [escaped] (readLine mark escapes steps rest)
    else if isPlain character
      then ahead [character] (readLine mark escapes steps rest)
    else none

/-- The text behind a backslash that ends a line, without the gaps and line
breaks that follow. -/
def skipContinuation (characters : List Char) : Option (List Char) :=
  (skipBreak? (skipGaps characters)).map skipBlanks

/-- Reads to the three closing marks of a quotation on several lines. Up to two
more marks directly in front of them belong to the text, and so do line breaks
as they are written. Every step takes at least one character. -/
def readLines (mark : Char) (escapes : Bool) : Nat → Reader (List Char)
  | 0, _ => none
  | _ + 1, [] => none
  | steps + 1, character :: rest =>
    if character == mark then
      let marks := (character :: rest).takeWhile (· == mark)
      let behind := (character :: rest).dropWhile (· == mark)
      if marks.length < 3 then ahead marks (readLines mark escapes steps behind)
      else if marks.length ≤ 5 then some (marks.drop 3, behind)
      else none
    else if escapes && character == '\\' then
      match skipContinuation rest with
      | some behind => readLines mark escapes steps behind
      | none => do
        let (escaped, behind) ← readEscape rest
        ahead [escaped] (readLines mark escapes steps behind)
    else
      match readBreak (character :: rest) with
      | some (written, behind) =>
        ahead written (readLines mark escapes steps behind)
      | none =>
        if isPlain character
          then ahead [character] (readLines mark escapes steps rest) else none

/-- Reads a quotation on one line whose first mark has been taken off. -/
def readShort (mark : Char) : Reader String := fun characters => do
  let (text, rest) ←
    readLine mark (mark == '"') (characters.length + 1) characters
  return (String.ofList text, rest)

/-- Reads a quotation on several lines whose first three marks have been taken
off. A line break right behind them does not count. -/
def readLong (mark : Char) : Reader String := fun characters => do
  let body := (skipBreak? characters).getD characters
  let (text, rest) ← readLines mark (mark == '"') (body.length + 1) body
  return (String.ofList text, rest)

def readQuotation : Reader String
  | '"' :: '"' :: '"' :: rest => readLong '"' rest
  | '\'' :: '\'' :: '\'' :: rest => readLong '\'' rest
  | '"' :: rest => readShort '"' rest
  | '\'' :: rest => readShort '\'' rest
  | _ => none

end CoherentTasks.Document
