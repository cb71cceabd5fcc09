import CoherentTasks.Access
import CoherentTasks.Device
import CoherentTasks.Text.Blank
import CoherentTasks.Text.Lowercase
import CoherentTasks.Text.Numeral

/-!
# Spellings

Reading platforms, devices and access modes. Names are trimmed and lower-cased
first, and some platforms have more than one name; a device is written as
platform, colon, index.
-/

namespace CoherentTasks

/-- Why a text names nothing. -/
inductive SpellingError where
  | unknownPlatform (folded : String)
  | missingColon (text : String)
  | badIndex (text : String) (cause : Text.NumeralError)
  | unknownMode (folded : String)
  deriving DecidableEq, Repr

def SpellingError.message : SpellingError → String
  | .unknownPlatform folded =>
    "invalid backend: " ++ folded ++
      " (expected \"host\", \"cuda\", \"hip\" or \"level_zero\")"
  | .missingColon text =>
    "invalid device id: " ++ text ++ " (expected \"backend:index\")"
  | .badIndex text cause =>
    "invalid device index in " ++ text ++ ": " ++ cause.message
  | .unknownMode folded =>
    "invalid access mode: " ++ folded ++
      " (expected read, write, read_write, discard_write or discard_read_write)"

namespace Platform

/-- The platform that a folded name stands for. -/
def ofName? : String → Option Platform
  | "host" | "omp" | "cpu" => some .host
  | "cuda" => some .cuda
  | "hip" => some .hip
  | "level_zero" | "ze" => some .levelZero
  | _ => none

def parse (text : String) : Except SpellingError Platform :=
  let folded := Text.lowercase (Text.trim text)
  match ofName? folded with
  | some platform => .ok platform
  | none => .error (.unknownPlatform folded)

end Platform

namespace Device

def indexLimit : Nat := UInt32.size

/-- Reads a device: the first colon ends the platform, and the rest is the
index. -/
def parse (text : String) : Except SpellingError Device := do
  let characters := text.toList
  match characters.dropWhile (· ≠ ':') with
  | [] => throw (.missingColon text)
  | _ :: index =>
    let platform ←
      Platform.parse (String.ofList (characters.takeWhile (· ≠ ':')))
    match Text.readNumeral indexLimit (Text.trimCharacters index) with
    | .error cause => throw (.badIndex text cause)
    | .ok value => pure ⟨platform, UInt32.ofNat value⟩

end Device

namespace AccessMode

/-- The mode that a folded name stands for. -/
def ofName? : String → Option AccessMode
  | "read" => some .read
  | "write" => some .write
  | "read_write" => some .readWrite
  | "discard_write" => some .discardWrite
  | "discard_read_write" => some .discardReadWrite
  | _ => none

def parse (text : String) : Except SpellingError AccessMode :=
  let folded := Text.lowercase (Text.trim text)
  match ofName? folded with
  | some mode => .ok mode
  | none => .error (.unknownMode folded)

end AccessMode

end CoherentTasks
