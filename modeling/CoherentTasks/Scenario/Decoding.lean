import CoherentTasks.Document.Parser
import CoherentTasks.Error
import CoherentTasks.Scenario.Model
import CoherentTasks.Word

/-!
# Reading scenarios

The sections of a document become a scenario. Unknown fields are ignored, as
long as they can be read. The fields of a record may also be given by an array,
in their order, and nothing behind them is looked at; a moment counts as a
record without known fields.
-/

namespace CoherentTasks.Scenario

open CoherentTasks.Document (Entries Value)

def text? : Value → Option String
  | .text content => some content
  | _ => none

def word? : Value → Option Nat
  | .integer number => if 0 ≤ number then Word.check? number.toNat else none
  | _ => none

def items? : Value → Option (List Value)
  | .array items => some items
  | .tables elements => some (elements.map (.table .header))
  | _ => none

def listOf? {Item : Type} (item? : Value → Option Item) (value : Value) :
    Option (List Item) := do
  (← items? value).mapM item?

/-- A record gives its fields by name or by place. -/
inductive Record where
  | byName (entries : Entries)
  | byPlace (items : List Value)

/-- The record that the entries of a table give. Those that are no fields of it
must be readable. -/
def namedRecord? (names : List String) (entries : Entries) : Option Record :=
  if entries.all fun (name, value) => names.contains name || value.isReadable
    then
    some (.byName entries)
  else none

/-- The record that a value stands for, given the names of the fields. -/
def record? (names : List String) : Value → Option Record
  | .table _ entries => namedRecord? names entries
  | .moment => some (.byName [])
  | value => (items? value).map .byPlace

def Record.field? (record : Record) (place : Nat) (name : String) :
    Option Value :=
  match record with
  | .byName entries => entries.find? name
  | .byPlace items => items[place]?

/-- A field that must be given. -/
def Record.required? {Field : Type} (record : Record) (place : Nat)
    (name : String) (field? : Value → Option Field) : Option Field :=
  (record.field? place name).bind field?

/-- A field that may be left out. -/
def Record.optional? {Field : Type} (record : Record) (place : Nat)
    (name : String) (field? : Value → Option Field) : Option (Option Field) :=
  match record.field? place name with
  | none => some none
  | some value => (field? value).map some

/-- A field with a standard value. -/
def Record.standard? {Field : Type} (record : Record) (place : Nat)
    (name : String) (field? : Value → Option Field) (standard : Field) :
    Option Field :=
  return (← record.optional? place name field?).getD standard

/-- Reads a window from two adjacent fields. -/
def Record.window? (record : Record) (place : Nat) : Option WindowEntry := do
  return {
    offset := ← record.optional? place "offset" (listOf? word?)
    extent := ← record.optional? (place + 1) "extent" (listOf? word?) }

def device? (value : Value) : Option DeviceEntry := do
  let record ← record? ["memory", "latency_ms"] value
  return {
    memory := ← record.standard? 0 "memory" word? standardMemory
    latency := ← record.standard? 1 "latency_ms" word? 0 }

def buffer? (value : Value) : Option BufferEntry := do
  let record ← record? ["element_size", "range", "initial_device"] value
  return {
    elementSize := ← record.required? 0 "element_size" word?
    range := ← record.required? 1 "range" (listOf? word?)
    initialDevice := ← record.optional? 2 "initial_device" text? }

/-- Reads an access; one that states no mode reads and writes. -/
def access? (value : Value) : Option AccessEntry := do
  let record ← record? ["buffer", "mode", "offset", "extent"] value
  return {
    buffer := ← record.required? 0 "buffer" text?
    mode := ← record.standard? 1 "mode" text? "read_write"
    window := ← record.window? 2 }

def copy? (value : Value) : Option CopyEntry := do
  let record ← record? ["buffer", "from", "to", "offset", "extent"] value
  return {
    buffer := ← record.required? 0 "buffer" text?
    source := ← record.required? 1 "from" text?
    destination := ← record.required? 2 "to" text?
    window := ← record.window? 3 }

def node? (value : Value) : Option NodeEntry := do
  let record ←
    record?
      ["kernel", "copy", "device", "preferred_backend", "after", "access"] value
  return {
    kernel := ← record.optional? 0 "kernel" text?
    copy := ← record.optional? 1 "copy" copy?
    device := ← record.optional? 2 "device" text?
    preferredBackend := ← record.optional? 3 "preferred_backend" text?
    after := ← record.standard? 4 "after" (listOf? text?) []
    access := ← record.standard? 5 "access" (listOf? access?) [] }

/-- Reads the section with the settings of the scheduler. -/
def alignment? (value : Value) : Option Nat := do
  (← record? ["allocation_alignment"] value).standard? 0 "allocation_alignment"
    word? standardAlignment

/-- Reads a section whose fields are the names of its entries. -/
def section? {Entry : Type} (decode : Value → Option Entry) :
    Value → Option (Table String Entry)
  | .table _ entries => do
    return Table.ofList
      (← entries.mapM fun (name, value) => return (name, ← decode value))
  | _ => none

def ofDocument? (entries : Entries) : Option Scenario := do
  let record ← namedRecord? ["runtime", "device", "buffer", "node"] entries
  return {
    alignment := ← record.standard? 0 "runtime" alignment? standardAlignment
    devices := ← record.standard? 1 "device" (section? device?) .empty
    buffers := ← record.standard? 2 "buffer" (section? buffer?) .empty
    nodes := ← record.standard? 3 "node" (section? node?) .empty }

def parse (text : String) : Except Error Scenario :=
  match (Document.parse text).bind ofDocument? with
  | some scenario => .ok scenario
  | none => .error .document

/-- Reads a scenario from the bytes of a file. -/
def ofBytes (bytes : ByteArray) : Except Error Scenario :=
  match String.fromUTF8? bytes with
  | some text => parse text
  | none => .error (.file .notText)

end CoherentTasks.Scenario
