import CoherentTasks.Pattern.Basic
import CoherentTasks.Text.Alphanumeric
import CoherentTasks.Text.Blank
import CoherentTasks.Text.Digits
import CoherentTasks.Text.Numeral
import CoherentTasks.Word

/-!
# Log filters

The directives that say what is logged: a target, a span in brackets with a
field in braces, and a level behind an equals sign, each of which may be
missing. Only their form is looked at here.
-/

namespace CoherentTasks.CommandLine

/-- The names of levels; case does not matter. -/
def levelNames : List String :=
  ["off", "error", "warn", "info", "debug", "trace"]

/-- Whether a text is a level: a name, a number up to five, or nothing at
all. -/
def isLevel (characters : List Char) : Bool :=
  characters.isEmpty ||
    levelNames.contains (String.ofList (characters.map Char.toLower)) ||
    match Text.readNumeral Word.limit characters with
    | .ok number => number ≤ 5
    | .error _ => false

/-- The decimal digits at the front of a text, and the rest. -/
def splitDigits (characters : List Char) : List Char × List Char :=
  (characters.takeWhile Text.isDecimal, characters.dropWhile Text.isDecimal)

/-- What may follow a sign or the letter of an exponent: digits, and nothing
else. -/
def isWhole (characters : List Char) : Bool :=
  !characters.isEmpty && characters.all Text.isDecimal

def dropSign : List Char → List Char
  | '+' :: rest | '-' :: rest => rest
  | rest => rest

/-- Whether a text is a number: digits with a point among them or beside them
and an exponent, or a name for infinity or for no number, of either case. -/
def isNumber (characters : List Char) : Bool :=
  let body := dropSign characters
  let (whole, rest) := splitDigits body
  let (fraction, rest) :=
    match rest with
    | '.' :: digits => splitDigits digits
    | _ => ([], rest)
  ["inf", "infinity", "nan"].contains (String.ofList (body.map Char.toLower)) ||
    (!(whole.isEmpty && fraction.isEmpty) &&
      match rest with
      | [] => true
      | 'e' :: exponent | 'E' :: exponent => isWhole (dropSign exponent)
      | _ => false)

/-- Whether a text is a field: a name, and maybe an equals sign and a value,
which is a number or a pattern. Nothing behind a further equals sign is looked
at. -/
def isField (characters : List Char) : Bool :=
  !characters.isEmpty &&
    match characters.dropWhile (· ≠ '=') with
    | _ :: rest =>
      let value := rest.takeWhile (· ≠ '=')
      isNumber value || Pattern.isPattern value
    | [] => true

/-- A directive as it is written, and its body without the blanks around it. A
part of it is found in the body and then taken from the same place of what is
written, so blanks in front shift every part. -/
structure Directive where
  written : List Char
  body : List Char

def byteCount (characters : List Char) : Nat :=
  (characters.map Char.utf8Size).foldr (· + ·) 0

def dropBytes : Nat → List Char → List Char
  | 0, characters => characters
  | _ + 1, [] => []
  | count + 1, character :: rest =>
    dropBytes (count + 1 - character.utf8Size) rest

def takeBytes : Nat → List Char → List Char
  | 0, _ => []
  | _ + 1, [] => []
  | count + 1, character :: rest =>
    character :: takeBytes (count + 1 - character.utf8Size) rest

/-- What is written at the place of a part of the body, given what follows the
part. -/
def Directive.taken (directive : Directive) (part behind : List Char) :
    List Char :=
  takeBytes (byteCount part)
    (dropBytes (byteCount directive.body - byteCount part - byteCount behind)
      directive.written)

/-- What may follow a target or a span: nothing, or a level. With blanks around
the directive no level is found at its place. -/
def Directive.isLevelPart (directive : Directive) : List Char → Bool
  | [] => true
  | '=' :: level =>
    directive.body.length == directive.written.length && isLevel level
  | _ => false

/-- What may follow the opening bracket of a span: a name, and maybe a field in
braces. -/
def Directive.isSpanPart (directive : Directive) (characters : List Char) :
    Bool :=
  match characters.dropWhile fun character =>
      character ≠ ']' && character ≠ '\x7b' with
  | ']' :: rest => directive.isLevelPart rest
  | '\x7b' :: fields =>
    let behind := fields.dropWhile (· ≠ '\x7d')
    isField (directive.taken (fields.takeWhile (· ≠ '\x7d')) behind) &&
      match behind with
      | '\x7d' :: ']' :: rest => directive.isLevelPart rest
      | _ => false
  | _ => false

def beginsTarget (character : Char) : Bool :=
  character == '-' || character == ':' || character == '_' ||
  Text.isAlphanumeric character

def isDirective (characters : List Char) : Bool :=
  let directive : Directive := ⟨characters, Text.trimCharacters characters⟩
  match directive.body with
  | [] => false
  | '[' :: span => directive.isSpanPart span
  | first :: rest =>
    beginsTarget first &&
    match rest.dropWhile fun character =>
        character ≠ '=' && character ≠ '[' with
      | [] => true
      | '[' :: span => directive.isSpanPart span
      | level => directive.isLevelPart level

/-- Whether a text is a list of directives, separated by commas. A missing or
blank one stands for the standard level. -/
def isLogFilter (value : Option String) : Bool :=
  match value with
  | none => true
  | some text =>
    (((Text.trim text).splitOn ",").filter (· ≠ "")).all
      fun directive => isDirective directive.toList

end CoherentTasks.CommandLine
