import CoherentTasks.Document.Quotation
import CoherentTasks.Document.Scalar

/-!
# Statements

A document is a sequence of statements, one on each line: assignments to keys,
headers of tables, and headers of elements of arrays of tables.
-/

namespace CoherentTasks.Document

open CoherentTasks.Text (Reader)

def isKeyCharacter (character : Char) : Bool :=
  character.isAlphanum || character == '_' || character == '-'

/-- Reads one part of a key; a quotation must be on one line. -/
def readKeyPart : Reader String
  | '"' :: rest => readShort '"' rest
  | '\'' :: rest => readShort '\'' rest
  | characters =>
    let part := characters.takeWhile isKeyCharacter
    if part.isEmpty then none
    else some (String.ofList part, characters.dropWhile isKeyCharacter)

/-- Reads at most the given number of parts of a key, which are separated by
dots. -/
def readKeyParts : Nat → Reader (List String)
  | 0, _ => none
  | parts + 1, characters => do
    let (part, rest) ← readKeyPart (skipGaps characters)
    match skipGaps rest with
    | '.' :: more =>
      let (others, rest) ← readKeyParts parts more
      return (part :: others, rest)
    | rest => return ([part], rest)

def keyLimit : Nat := 80

/-- Reads a key, with the gaps around it. -/
def readKey : Reader (List String) :=
  readKeyParts keyLimit

/-- Changes the table that the keys lead to. Missing tables are created with the
given origin. A key leads into the last element of an array of tables, and
nowhere if its value is complete. With dots it does not lead into a table that
has a header of its own. -/
def descend (origin : Origin) (change : Origin → Entries → Option Entries) :
    List String → Origin → Entries → Option Entries
  | [], present, entries => change present entries
  | key :: keys, _, entries =>
    match entries.find? key with
    | none => do
      let created ← descend origin change keys origin []
      return entries.set key (.table origin created)
    | some (.table present inner) => do
      if present = .inline ∨ (origin = .dotted ∧ present = .header) then none
      else
        let changed ← descend origin change keys present inner
        return entries.set key (.table present changed)
    | some (.tables elements) => do
      let last ← elements.getLast?
      let changed ← descend origin change keys .header last
      return entries.set key (.tables (elements.dropLast ++ [changed]))
    | some _ => none

/-- Assigns a value to a new key of a table. The parts of the key in front of
the last one lead through tables that were made by such keys. -/
def assign (key : List String) (value : Value) (entries : Entries) :
    Option Entries := do
  let last ← key.getLast?
  let path := key.dropLast
  descend .dotted (fun origin inner => if (origin == .dotted) == path.isEmpty ||
    (inner.find? last).isSome then none else some (inner ++ [(last, value)]))
    path .header entries

/-- Reads what follows an opening bracket, item by item. -/
def readItems (readItem : Reader Value) : Nat → Reader (List Value)
  | 0, _ => none
  | steps + 1, characters => do
    match ← skipFiller false characters with
    | ']' :: rest => return ([], rest)
    | body =>
      let (item, rest) ← readItem body
      match ← skipFiller false rest with
      | ',' :: rest =>
        let (items, rest) ← readItems readItem steps rest
        return (item :: items, rest)
      | ']' :: rest => return ([item], rest)
      | _ => none

/-- Reads a key, an equals sign and a value, given what may surround the
sign. -/
def readAssignment (skip : List Char → Option (List Char))
    (readItem : Reader Value) : Reader (List String × Value) :=
  fun characters => do
  let (key, rest) ← readKey characters
  match ← skip rest with
  | '=' :: rest =>
    let (value, rest) ← readItem (← skip rest)
    return ((key, value), rest)
  | _ => none

/-- Reads what follows an opening brace, assignment by assignment. -/
def readFields (readItem : Reader Value) : Nat → Entries → Reader Entries
  | 0, _, _ => none
  | steps + 1, entries, characters => do
    match ← skipFiller false characters with
    | '\x7d' :: rest => return (entries, rest)
    | body =>
      let ((key, value), rest) ← readAssignment (skipFiller false) readItem body
      let entries ← assign key value entries
      match ← skipFiller false rest with
      | ',' :: rest => readFields readItem steps entries rest
      | '\x7d' :: rest => return (entries, rest)
      | _ => none

/-- Reads a value, given how to read the values inside it, if any may be. -/
def readValueWith (readItem : Reader Value) : Reader Value
  | '[' :: rest => do
    let (items, rest) ← readItems readItem (rest.length + 1) rest
    return (.array items, rest)
  | '\x7b' :: rest => do
    let (entries, rest) ← readFields readItem (rest.length + 1) [] rest
    return (.table .inline entries, rest)
  | '"' :: rest =>
    (readQuotation ('"' :: rest)).map
      fun (content, rest) => (.text content, rest)
  | '\'' :: rest =>
    (readQuotation ('\'' :: rest)).map
      fun (content, rest) => (.text content, rest)
  | characters => readScalar characters

/-- Reads a value with at most the given number of brackets and braces around
each other. -/
def readValue : Nat → Reader Value
  | 0, characters =>
    match characters with
    | '[' :: _ | '\x7b' :: _ => none
    | _ => readValueWith (fun _ => none) characters
  | depth + 1, characters => readValueWith (readValue depth) characters

def depthLimit : Nat := 80

inductive Statement where
  | assignment (key : List String) (value : Value)
  | tableHeader (key : List String)
  | elementHeader (key : List String)

/-- Reads a statement, without the end of its line. -/
def readStatement : Reader Statement
  | '[' :: '[' :: rest => do
    match ← readKey rest with
    | (key, ']' :: ']' :: rest) => return (.elementHeader key, rest)
    | _ => none
  | '[' :: rest => do
    match ← readKey rest with
    | (key, ']' :: rest) => return (.tableHeader key, rest)
    | _ => none
  | characters => do
    let ((key, value), rest) ←
      readAssignment (some ∘ skipGaps) (readValue depthLimit) characters
    return (.assignment key value, rest)

/-- Reads all statements; every one takes at least one character. -/
def readStatements : Nat → List Char → Option (List Statement)
  | 0, _ => none
  | steps + 1, characters => do
    match ← skipFiller false characters with
    | [] => return []
    | body =>
      let (statement, rest) ← readStatement body
      return statement :: (← readStatements steps (← skipLineEnd rest))

end CoherentTasks.Document
