/-!
# Documents

The values of a document in the format TOML. Beside its contents a table
remembers how it came to be in the document, because that decides what may be
added to it later.
-/

namespace CoherentTasks.Document

/-- How a table came to be. -/
inductive Origin where
  /-- It was written between braces and is complete. -/
  | inline
  /-- It was named in front of a dot of a key. -/
  | dotted
  /-- It was named in front of a dot of a header. -/
  | implied
  /-- It has a header of its own. -/
  | header
  deriving DecidableEq, Repr

/-- A value of a document. The amount of a real number and the date of a moment
are not kept. -/
inductive Value where
  | text (content : String)
  | integer (number : Int)
  | real
  /-- A number that is formed like one and has no value here: it is too large,
  or its digits do not fit its base. -/
  | unreadable
  | boolean (truth : Bool)
  | moment
  | array (items : List Value)
  /-- An array whose elements are written under headers of their own. -/
  | tables (elements : List (List (String × Value)))
  | table (origin : Origin) (entries : List (String × Value))
  deriving Inhabited

mutual

/-- Whether every number in a value can be read. -/
def Value.isReadable : Value → Bool
  | .unreadable => false
  | .array items => areReadable items
  | .tables elements => areReadableTables elements
  | .table _ entries => areReadableEntries entries
  | _ => true

def areReadable : List Value → Bool
  | [] => true
  | item :: items => item.isReadable && areReadable items

def areReadableEntries : List (String × Value) → Bool
  | [] => true
  | (_, value) :: entries => value.isReadable && areReadableEntries entries

def areReadableTables : List (List (String × Value)) → Bool
  | [] => true
  | entries :: elements =>
    areReadableEntries entries && areReadableTables elements

end

/-- The entries of a table, in the order of their appearance. -/
abbrev Entries := List (String × Value)

namespace Entries

def find? (entries : Entries) (key : String) : Option Value :=
  (List.find? (·.1 == key) entries).map (·.2)

def set (key : String) (value : Value) : Entries → Entries
  | [] => [(key, value)]
  | entry :: rest =>
    if entry.1 == key then (key, value) :: rest else entry :: set key value rest

end Entries

end CoherentTasks.Document
