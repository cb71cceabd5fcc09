import CoherentTasks.Document.Statement

/-!
# Reading documents

The statements of a document are put together one after another. A header opens
a table, and the assignments that follow belong to it.
-/

namespace CoherentTasks.Document

/-- The document so far, and the header to which assignments belong. -/
structure Draft where
  root : Entries
  opened : List String

/-- Opens a table under its own header. A table that was only implied by other
headers may still get one. -/
def openTable (key : List String) (root : Entries) : Option Entries := do
  let last ← key.getLast?
  descend .implied (fun _ inner =>
      match inner.find? last with
      | none => some (inner ++ [(last, .table .header [])])
      | some (.table .implied entries) =>
        some (inner.set last (.table .header entries))
      | some _ => none)
    key.dropLast .header root

/-- Opens a new element of an array of tables. -/
def openElement (key : List String) (root : Entries) : Option Entries := do
  let last ← key.getLast?
  descend .implied (fun _ inner =>
      match inner.find? last with
      | none => some (inner ++ [(last, .tables [[]])])
      | some (.tables elements) =>
        some (inner.set last (.tables (elements ++ [[]])))
      | some _ => none)
    key.dropLast .header root

def Draft.add (draft : Draft) : Statement → Option Draft
  | .tableHeader key => do return ⟨← openTable key draft.root, key⟩
  | .elementHeader key => do return ⟨← openElement key draft.root, key⟩
  | .assignment key value => do
    let root ←
      descend .implied (fun _ inner => assign key value inner) draft.opened
        .header draft.root
    return { draft with root }

/-- Reads a document. A byte order mark in front of it does not count. -/
def parse (text : String) : Option Entries := do
  let characters :=
    match text.toList with
    | '\ufeff' :: rest => rest
    | characters => characters
  let statements ← readStatements (characters.length + 1) characters
  let draft ← statements.foldlM Draft.add ⟨[], []⟩
  return draft.root

end CoherentTasks.Document
