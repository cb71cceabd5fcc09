import CoherentTasks.Device
import CoherentTasks.Table
import Mathlib.Tactic.Tauto

/-!
# Lookups in tables

What a table gives for a key after its entries were changed.
-/

namespace CoherentTasks

namespace Table

variable {Key Value Other : Type} [Ord Key]

@[ext]
theorem ext_entries {left right : Table Key Value}
    (same : left.entries = right.entries) : left = right := by
  cases left
  cases right
  cases same
  rfl

theorem mapValues_congr {table : Table Key Value}
    {first second : Key → Value → Other}
    (same : ∀ entry ∈ table.entries,
      first entry.1 entry.2 = second entry.1 entry.2) :
    table.mapValues first = table.mapValues second :=
  ext_entries (List.map_congr_left fun entry isEntry =>
    congrArg (entry.1, ·) (same entry isEntry))

@[simp]
theorem get?_mapValues [DecidableEq Key] (change : Key → Value → Other)
    (table : Table Key Value) (key : Key) :
    (table.mapValues change).get? key = (table.get? key).map (change key) := by
  simp only [get?, mapValues]
  induction table.entries with
  | nil => rfl
  | cons entry rest induction =>
      by_cases same : entry.1 = key
      · simp [same]
      · simpa [same] using induction

@[simp]
theorem get?_modify [DecidableEq Key] (table : Table Key Value)
    (key other : Key) (change : Value → Value) :
    (table.modify key change).get? other =
      if other = key then (table.get? other).map change
      else table.get? other := by
  simp only [modify]
  rw [get?_mapValues]
  split
  · rename_i same
    simp [same]
  · simp

theorem mem_of_get?_eq_some [DecidableEq Key] {table : Table Key Value}
    {key : Key} {value : Value} (found : table.get? key = some value) :
    (key, value) ∈ table.entries := by
  obtain ⟨entry, first, rfl⟩ := Option.map_eq_some_iff.mp found
  have same : entry.1 = key := by simpa using List.find?_some first
  rw [← same]
  exact List.mem_of_find?_eq_some first

private theorem mem_of_mem_foldl_insert [Std.TransOrd Key]
    {entries : List (Key × Value)}
    {table : Table Key Value} {entry : Key × Value}
    (member : entry ∈ (entries.foldl (fun table entry =>
      table.insert entry.1 entry.2) table).entries) :
    entry ∈ table.entries ∨ entry ∈ entries := by
  induction entries generalizing table with
  | nil => exact .inl member
  | cons first rest induction =>
      rcases induction member with old | new
      · rcases mem_insertEntry old with rfl | earlier
        · exact .inr List.mem_cons_self
        · exact .inl earlier
      · exact .inr (List.mem_cons_of_mem first new)

/-- A table has no entries but those it was made from. -/
theorem mem_of_mem_ofList [Std.TransOrd Key]
    {entries : List (Key × Value)} {entry : Key × Value}
    (member : entry ∈ (ofList entries).entries) :
    entry ∈ entries :=
  (mem_of_mem_foldl_insert member).resolve_left List.not_mem_nil

variable [Std.LawfulEqOrd Key]

theorem nodup_keys (table : Table Key Value) : table.keys.Nodup := by
  apply List.pairwise_map.mpr
  apply table.sorted.imp
  intro first second less same
  rw [same, Std.compare_self] at less
  cases less

/-- Every entry is what the lookup of its key gives. -/
theorem get?_eq_some_of_mem [DecidableEq Key] (table : Table Key Value)
    {entry : Key × Value} (member : entry ∈ table.entries) :
    table.get? entry.1 = some entry.2 := by
  obtain ⟨entries, sorted⟩ := table
  simp only [get?]
  induction entries with
  | nil => exact absurd member List.not_mem_nil
  | cons head rest induction =>
      obtain ⟨headFirst, restSorted⟩ := List.pairwise_cons.mp sorted
      rcases List.mem_cons.mp member with rfl | later
      · simp
      · have different : head.1 ≠ entry.1 := by
          intro same
          have less := headFirst entry later
          rw [same, Std.compare_self] at less
          cases less
        simpa [different] using induction restSorted later

/-- A change that keeps the value of every key keeps the table. -/
theorem mapValues_eq_self [DecidableEq Key] (table : Table Key Value)
    {change : Key → Value → Value}
    (keeps : ∀ key value,
      table.get? key = some value → change key value = value) :
    table.mapValues change = table := by
  have each (entry : Key × Value) (member : entry ∈ table.entries) :
      (entry.1, change entry.1 entry.2) = entry :=
    congrArg (entry.1, ·)
      (keeps entry.1 entry.2 (table.get?_eq_some_of_mem member))
  apply ext_entries
  simp only [mapValues]
  rw [List.map_congr_left each, List.map_id']

theorem mem_keys_insertEntry {key other : Key} {value : Value}
    {entries : List (Key × Value)} :
    other ∈ (insertEntry key value entries).map (·.1) ↔
      other = key ∨ other ∈ entries.map (·.1) := by
  induction entries with
  | nil => simp [insertEntry]
  | cons head rest induction =>
      simp only [insertEntry]
      split
      · simp
      · rename_i equal
        have same : key = head.1 := Std.compare_eq_iff_eq.mp equal
        simp [same]
      · rw [List.map_cons, List.mem_cons, induction, List.map_cons,
          List.mem_cons]
        tauto

variable [Std.TransOrd Key]

theorem get?_insert_self [DecidableEq Key] (table : Table Key Value)
    (key : Key) (value : Value) :
    (table.insert key value).get? key = some value := by
  simp only [get?, insert]
  induction table.entries with
  | nil => simp [insertEntry]
  | cons entry rest induction =>
      simp only [insertEntry]
      split
      · simp
      · simp
      · rename_i greater
        have different : entry.1 ≠ key := by
          intro equal
          subst equal
          rw [Std.compare_self] at greater
          cases greater
        simpa [different] using induction

theorem get?_insert_other [DecidableEq Key] (table : Table Key Value)
    {key other : Key} (value : Value) (different : other ≠ key) :
    (table.insert key value).get? other = table.get? other := by
  have notNew : key ≠ other := different.symm
  simp only [get?, insert]
  induction table.entries with
  | nil => simp [insertEntry, notNew]
  | cons entry rest induction =>
      simp only [insertEntry]
      split
      · simp [notNew]
      · rename_i equal
        have same : key = entry.1 := Std.compare_eq_iff_eq.mp equal
        simp [notNew, ← same]
      · by_cases same : entry.1 = other
        · simp [same]
        · simpa [same] using induction

theorem get?_insert [DecidableEq Key] (table : Table Key Value)
    (key other : Key) (value : Value) :
    (table.insert key value).get? other =
      if other = key then some value else table.get? other := by
  split
  · rename_i same
    rw [same, get?_insert_self]
  · rename_i different
    exact get?_insert_other table value different

theorem mem_keys_foldl_insert {entries : List (Key × Value)}
    {table : Table Key Value} {key : Key} :
    key ∈ (entries.foldl (fun table entry =>
        table.insert entry.1 entry.2) table).keys ↔
      key ∈ table.keys ∨ key ∈ entries.map (·.1) := by
  induction entries generalizing table with
  | nil => simp
  | cons entry rest induction =>
      rw [List.foldl_cons, induction]
      simp only [keys, insert]
      rw [mem_keys_insertEntry, List.map_cons, List.mem_cons]
      tauto

theorem mem_keys_ofList {entries : List (Key × Value)} {key : Key} :
    key ∈ (ofList entries).keys ↔ key ∈ entries.map (·.1) := by
  simp only [ofList]
  rw [mem_keys_foldl_insert]
  simp [keys, empty]

end Table

end CoherentTasks
