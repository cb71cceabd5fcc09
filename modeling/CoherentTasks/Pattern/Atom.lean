import CoherentTasks.Pattern.Mode
import CoherentTasks.Text.Digits
import CoherentTasks.Text.Reader

/-!
# Atoms of patterns

The smallest terms: characters, and what stands for any character, for one of a
class, or for a place between characters. A backslash begins most of them.
-/

namespace CoherentTasks.Pattern

open CoherentTasks.Text (Reader hexValue? scalar?)

/-- A smallest term. -/
inductive Atom where
  /-- A character. It may be written as a byte, by two digits. -/
  | literal (character : Char) (byte : Bool)
  /-- Any character. -/
  | any
  /-- A digit, a blank, a character of words, or everything else. -/
  | shorthand (negated : Bool)
  /-- The beginning or the end of a line or of the text. -/
  | edge
  /-- A place at a word, or one that is at none. -/
  | wordEdge

/-- Whether a term is supported: it matches whole characters only, and needs no
Unicode property. -/
def Mode.allows (mode : Mode) : Atom → Bool
  | .literal character byte =>
    if mode.unicode then !mode.caseless else !byte || character.toNat < 128
  | .any => mode.unicode
  | .shorthand negated => !mode.unicode && !negated
  | .edge => true
  | .wordEdge => !mode.unicode

/-- Whether a term is supported as a member of a set. -/
def Mode.allowsMember (mode : Mode) : Atom → Bool
  | .literal character _ =>
    if mode.unicode then !mode.caseless else character.toNat < 128
  | .shorthand negated => !mode.unicode && !negated
  | _ => false

/-- Reads a number of hexadecimal digits onto the code point read so far. -/
def readCode (mode : Mode) : Nat → Nat → Reader Char
  | 0, code, characters => (scalar? code).map (·, characters)
  | length + 1, code, characters =>
    match mode.skip characters with
    | digit :: rest =>
      do readCode mode length (16 * code + (← hexValue? digit)) rest
    | [] => none

/-- Reads what follows a backslash. Every ASCII character that is no letter or
digit may stand for itself, apart from angle brackets. Named properties are not
supported. -/
def readEscape (mode : Mode) : Reader Atom
  | 'x' :: rest =>
    (readCode mode 2 0 rest).map
      fun (character, rest) => (.literal character true, rest)
  | 'u' :: rest =>
    (readCode mode 4 0 rest).map
      fun (character, rest) => (.literal character false, rest)
  | 'U' :: rest =>
    (readCode mode 8 0 rest).map
      fun (character, rest) => (.literal character false, rest)
  | 'a' :: rest => some (.literal '\x07' false, rest)
  | 'f' :: rest => some (.literal '\x0c' false, rest)
  | 't' :: rest => some (.literal '\t' false, rest)
  | 'n' :: rest => some (.literal '\n' false, rest)
  | 'r' :: rest => some (.literal '\r' false, rest)
  | 'v' :: rest => some (.literal '\x0b' false, rest)
  | 'd' :: rest | 's' :: rest | 'w' :: rest => some (.shorthand false, rest)
  | 'D' :: rest | 'S' :: rest | 'W' :: rest => some (.shorthand true, rest)
  | 'A' :: rest | 'z' :: rest => some (.edge, rest)
  | 'b' :: rest | 'B' :: rest | '<' :: rest | '>' :: rest =>
    some (.wordEdge, rest)
  | character :: rest =>
    if character.toNat < 128 && !character.isAlphanum
      then some (.literal character false, rest)
    else none
  | [] => none

end CoherentTasks.Pattern
