/-!
# Tables

Finite maps as lists of entries in ascending order of their keys.
-/

namespace CoherentTasks

/-- Entries with distinct keys, in ascending order. -/
structure Table (Key Value : Type) [Ord Key] where
  entries : List (Key × Value)
  sorted : entries.Pairwise fun left right => compare left.1 right.1 = .lt
  deriving DecidableEq, Repr

namespace Table

variable {Key Value Other : Type} [Ord Key]

def empty : Table Key Value := ⟨[], .nil⟩

/-- Puts an entry at its place, instead of one with the same key if there is
any. -/
def insertEntry (key : Key) (value : Value) :
    List (Key × Value) → List (Key × Value)
  | [] => [(key, value)]
  | entry :: rest =>
    match compare key entry.1 with
    | .lt => (key, value) :: entry :: rest
    | .eq => (key, value) :: rest
    | .gt => entry :: insertEntry key value rest

theorem mem_insertEntry {key : Key} {value : Value}
    {entries : List (Key × Value)} {entry : Key × Value}
    (member : entry ∈ insertEntry key value entries) :
    entry = (key, value) ∨ entry ∈ entries := by
  induction entries with
  | nil => exact .inl (List.mem_singleton.mp member)
  | cons head rest induction =>
      simp only [insertEntry] at member
      split at member
      · exact List.mem_cons.mp member
      · exact (List.mem_cons.mp member).imp id (List.mem_cons_of_mem _)
      · rcases List.mem_cons.mp member with same | later
        · exact .inr (same ▸ List.mem_cons_self)
        · exact (induction later).imp id (List.mem_cons_of_mem _)

theorem sorted_insertEntry [Std.TransOrd Key] (key : Key) (value : Value)
    {entries : List (Key × Value)}
    (sorted : entries.Pairwise fun left right =>
      compare left.1 right.1 = .lt) :
    (insertEntry key value entries).Pairwise fun left right =>
      compare left.1 right.1 = .lt := by
  induction entries with
  | nil => exact List.pairwise_singleton _ _
  | cons head rest induction =>
      obtain ⟨headFirst, restSorted⟩ := List.pairwise_cons.mp sorted
      simp only [insertEntry]
      split
      · rename_i less
        refine List.pairwise_cons.mpr ⟨fun entry member => ?_, sorted⟩
        rcases List.mem_cons.mp member with rfl | later
        · exact less
        · exact Std.TransCmp.lt_trans less (headFirst entry later)
      · rename_i equal
        refine List.pairwise_cons.mpr ⟨fun entry member => ?_, restSorted⟩
        exact Std.TransCmp.lt_of_eq_of_lt equal (headFirst entry member)
      · rename_i greater
        refine List.pairwise_cons.mpr
          ⟨fun entry member => ?_, induction restSorted⟩
        rcases mem_insertEntry member with rfl | old
        · exact Std.OrientedCmp.gt_iff_lt.mp greater
        · exact headFirst entry old

def insert [Std.TransOrd Key] (table : Table Key Value) (key : Key)
    (value : Value) : Table Key Value :=
  ⟨insertEntry key value table.entries,
    sorted_insertEntry key value table.sorted⟩

/-- Sets values in turn; the last value for a key stays. -/
def ofList [Std.TransOrd Key] (entries : List (Key × Value)) :
    Table Key Value :=
  entries.foldl (fun table entry => table.insert entry.1 entry.2) empty

def get? [DecidableEq Key] (table : Table Key Value) (key : Key) :
    Option Value :=
  (table.entries.find? (fun entry => entry.1 = key)).map (·.2)

def contains [DecidableEq Key] (table : Table Key Value) (key : Key) : Bool :=
  (table.get? key).isSome

def keys (table : Table Key Value) : List Key :=
  table.entries.map (·.1)

def values (table : Table Key Value) : List Value :=
  table.entries.map (·.2)

def mapValues (change : Key → Value → Other) (table : Table Key Value) :
    Table Key Other :=
  ⟨table.entries.map fun entry => (entry.1, change entry.1 entry.2),
    List.pairwise_map.mpr table.sorted⟩

def modify [DecidableEq Key] (table : Table Key Value) (key : Key)
    (change : Value → Value) : Table Key Value :=
  table.mapValues fun other value =>
    if other = key then change value else value

def size (table : Table Key Value) : Nat :=
  table.entries.length

end Table

end CoherentTasks
