import CoherentTasks.Text.Blank

/-!
# Modes of patterns

Patterns are regular expressions for texts. Flags in a pattern change how the
characters behind them are understood. There are no tables of Unicode properties
here: what needs one is supported for ASCII characters only, in the mode without
Unicode.
-/

namespace CoherentTasks.Pattern

/-- How the characters of a pattern are understood. -/
structure Mode where
  /-- Characters are those of Unicode, and not bytes. -/
  unicode : Bool
  /-- Capital letters are the same as small ones. -/
  caseless : Bool
  /-- Blank characters and comments do not count. -/
  spaced : Bool

def Mode.initial : Mode := ⟨true, false, false⟩

/-- The letters of flags. Some of them change only what a pattern matches. -/
def flagLetters : List Char := ['i', 'm', 's', 'U', 'u', 'R', 'x']

/-- Whether flags are well formed. A hyphen stands in front of those that are
taken away; nothing occurs twice. -/
def areFlags (flags : List Char) : Bool :=
  (flags.all fun flag => flag == '-' || flagLetters.contains flag) &&
  decide flags.Nodup && flags.getLast? != some '-'

def Mode.change (flags : List Char) (mode : Mode) : Mode :=
  let given := flags.takeWhile (· ≠ '-')
  let taken := flags.dropWhile (· ≠ '-')
  let holds :=
    fun flag present => given.contains flag || (present && !taken.contains flag)
  ⟨holds 'u' mode.unicode, holds 'i' mode.caseless, holds 'x' mode.spaced⟩

/-- The text behind blank characters and comments. A comment reaches to the end
of its line. -/
def skipComments (inComment : Bool) : List Char → List Char
  | [] => []
  | character :: rest =>
    if inComment then skipComments (character ≠ '\n') rest
    else if Text.isBlank character then skipComments false rest
    else if character == '#' then skipComments true rest
    else character :: rest

/-- The text behind everything that does not count. -/
def Mode.skip (mode : Mode) (characters : List Char) : List Char :=
  if mode.spaced then skipComments false characters else characters

/-- The next character that counts, where a number sign begins no comment and is
left out. -/
def Mode.peek? (mode : Mode) (characters : List Char) : Option Char :=
  if mode.spaced then
    match characters.dropWhile Text.isBlank with
    | '#' :: rest => (rest.dropWhile Text.isBlank).head?
    | rest => rest.head?
  else characters.head?

end CoherentTasks.Pattern
