import CoherentTasks.Document.Reader
import CoherentTasks.Document.Value
import CoherentTasks.Text.Digits

/-!
# Scalars

Numbers, truth values, dates and times. Underscores may group the digits of a
number; decimal numbers have no superfluous zeros in front. A number may be well
formed and yet unreadable.
-/

namespace CoherentTasks.Document

open CoherentTasks.Text (Reader hexValue? isDecimal number?)

/-- The characters of a number without the underscores that group them. Behind
every underscore is a digit, and in front of it a digit or, where `grouping`
says so, the sign of the number. -/
def ungroup (isDigit : Char → Bool) (grouping : Bool) :
    List Char → Option (List Char)
  | [] => some []
  | '_' :: next :: rest =>
    if grouping && isDigit next
      then (ungroup isDigit true rest).map (next :: ·) else none
  | character :: rest =>
    if character == '_' then none
    else (ungroup isDigit (isDigit character) rest).map (character :: ·)

/-- Whether a decimal number has a superfluous zero in front. -/
def hasSpareZero : List Char → Bool
  | '0' :: next :: _ => isDecimal next || next == '_'
  | _ => false

/-- The sign of a number, if it has one, and the text behind it. -/
def splitSign : List Char → Option Char × List Char
  | '+' :: rest => (some '+', rest)
  | '-' :: rest => (some '-', rest)
  | rest => (none, rest)

def withSign (sign : Option Char) (magnitude : Nat) : Int :=
  if sign = some '-' then -(magnitude : Int) else magnitude

def isExponentMark (character : Char) : Bool :=
  character == 'e' || character == 'E'

def isRealMark (character : Char) : Bool :=
  character == '.' || isExponentMark character

/-- The integer written by digits of a base. It is unreadable without digits,
with others, and when it needs more than 128 bits, signed or unsigned. -/
def writtenInteger (base : Nat) (sign : Option Char) (digits : List Char) :
    Value :=
  match number? base digits with
  | none => .unreadable
  | some magnitude =>
    let number := withSign sign magnitude
    if digits.isEmpty ∨ number < -Int.ofNat (Nat.pow 2 127) ∨
      Int.ofNat (Nat.pow 2 128) ≤ number then
      .unreadable
    else .integer number

def basedInteger? (base : Nat) (characters : List Char) : Option Value := do
  let digits ← ungroup (hexValue? · |>.isSome) false characters
  if digits.all fun digit => (hexValue? digit).any (· < base) then
    return writtenInteger base none digits
  else none

/-- Reads an integer. Behind its first underscore a decimal one is only looked
at around underscores. -/
def integer? : List Char → Option Value
  | '0' :: 'x' :: digits => basedInteger? 16 digits
  | '0' :: 'o' :: digits => basedInteger? 8 digits
  | '0' :: 'b' :: digits => basedInteger? 2 digits
  | characters =>
    let (sign, body) := splitSign characters
    if body.isEmpty || hasSpareZero body || body.any isRealMark then none
    else
      match body.dropWhile isDecimal with
      | [] | '_' :: _ =>
        (ungroup (hexValue? · |>.isSome) sign.isSome body).map
          (writtenInteger 10 sign)
      | _ => none

/-- Whether `mantissa * 10 ^ exponent` rounds to a finite number of double
precision. The number of digits settles it unless the value is near the greatest
finite one. -/
def isFiniteDouble (mantissa : Nat) (exponent : Int) : Bool :=
  let digits : Int := (Nat.toDigits 10 mantissa).length
  if mantissa = 0 ∨ digits + exponent < 300 then true
  else if 400 < digits + exponent then false
  else
    let bound := Nat.pow 2 1024 - Nat.pow 2 970
    if 0 ≤ exponent then mantissa * Nat.pow 10 exponent.toNat < bound
    else mantissa < bound * Nat.pow 10 (-exponent).toNat

def digits? (characters : List Char) : Option (List Char) :=
  if characters.isEmpty || !characters.all isDecimal then none
    else some characters

/-- Reads the exponent of a real number; without one it is zero. -/
def exponent? : List Char → Option Int
  | [] => some 0
  | _ :: characters => do
    let (sign, body) := splitSign characters
    return withSign sign (← number? 10 (← digits? body))

/-- Reads the digits of a number with a fraction or an exponent. One that rounds
to infinity is unreadable. -/
def decimal? (characters : List Char) : Option Value := do
  let decimal := characters.takeWhile (!isExponentMark ·)
  let whole ← digits? (decimal.takeWhile (· ≠ '.'))
  let fraction ←
    match decimal.dropWhile (· ≠ '.') with
    | [] => some []
    | _ :: digits => digits? digits
  let exponent ← exponent? (characters.dropWhile (!isExponentMark ·))
  let mantissa ← number? 10 (whole ++ fraction)
  return if isFiniteDouble mantissa (exponent - fraction.length) then .real
    else .unreadable

/-- Reads a real number; infinity and the lack of a number have names. -/
def real? (characters : List Char) : Option Value :=
  let (sign, body) := splitSign characters
  if body = "inf".toList ∨ body = "nan".toList then some .real
  else if hasSpareZero body || !body.any isRealMark then none
  else (ungroup isDecimal sign.isSome body).bind decimal?

def readFixed (length : Nat) : Reader Nat := fun characters => do
  let digits := characters.take length
  if digits.length = length ∧ digits.all isDecimal then
    return (← number? 10 digits, characters.drop length)
  else none

def readMark (mark : Char) : Reader Unit
  | character :: rest => if character == mark then some ((), rest) else none
  | [] => none

def daysOfMonth (year month : Nat) : Nat :=
  match month with
  | 2 => if year % 4 = 0 ∧ (year % 100 ≠ 0 ∨ year % 400 = 0) then 29 else 28
  | 4 | 6 | 9 | 11 => 30
  | _ => 31

def readDate : Reader Unit := fun characters => do
  let (year, rest) ← readFixed 4 characters
  let ((), rest) ← readMark '-' rest
  let (month, rest) ← readFixed 2 rest
  let ((), rest) ← readMark '-' rest
  let (day, rest) ← readFixed 2 rest
  if 1 ≤ month ∧ month ≤ 12 ∧ 1 ≤ day ∧ day ≤ daysOfMonth year month
    then return ((), rest)
  else none

/-- Reads the seconds of a time, maybe with a fraction; a minute may have an
additional second. -/
def readSeconds : Reader Unit := fun characters => do
  let (second, rest) ← readFixed 2 characters
  if second ≤ 60 then
    match rest with
    | '.' :: digits =>
      if (digits.takeWhile isDecimal).isEmpty then none
      else return ((), digits.dropWhile isDecimal)
    | _ => return ((), rest)
  else none

/-- Reads the time of a day; the seconds may be left out. -/
def readTime : Reader Unit := fun characters => do
  let (hour, rest) ← readFixed 2 characters
  let ((), rest) ← readMark ':' rest
  let (minute, rest) ← readFixed 2 rest
  if hour ≤ 23 ∧ minute ≤ 59 then
    match rest with
    | ':' :: seconds => readSeconds seconds
    | _ => return ((), rest)
  else none

/-- Whether a text is a distance from universal time. -/
def isZone : List Char → Bool
  | ['Z'] | ['z'] => true
  | sign :: rest =>
    (sign == '+' || sign == '-') &&
      match (do
        let (hour, rest) ← readFixed 2 rest
        let ((), rest) ← readMark ':' rest
        let (minute, rest) ← readFixed 2 rest
        return hour ≤ 23 && minute ≤ 59 && rest.isEmpty : Option Bool) with
      | some valid => valid
      | none => false
  | [] => false

/-- Reads a date, a time, or both with or without a zone. -/
def moment? (characters : List Char) : Option Value :=
  match readDate characters with
  | some ((), []) => some .moment
  | some ((), mark :: rest) =>
    if mark == 'T' || mark == 't' || mark == ' ' then do
      let ((), behind) ← readTime rest
      if behind.isEmpty || isZone behind then some .moment else none
    else none
  | none =>
    match readTime characters with
    | some ((), []) => some .moment
    | _ => none

/-- Whether a scalar may contain the character: it separates nothing. -/
def isScalarCharacter (character : Char) : Bool :=
  !"=,[]\x7b\x7d \t#\r\n".toList.contains character

/-- Takes the characters of a scalar off. One space between a date and a time
belongs to it. -/
def splitScalar (characters : List Char) : List Char × List Char :=
  let word := characters.takeWhile isScalarCharacter
  let rest := characters.dropWhile isScalarCharacter
  match rest with
  | ' ' :: later =>
    let time := later.takeWhile isScalarCharacter
    if (readDate word).any (·.2.isEmpty) && (time.head?.any isDecimal) then
      (word ++ ' ' :: time, later.dropWhile isScalarCharacter)
    else (word, rest)
  | _ => (word, rest)

def readScalar : Reader Value := fun characters =>
  let (word, rest) := splitScalar characters
  let value :=
    if word = "true".toList then some (.boolean true)
    else if word = "false".toList then some (.boolean false)
    else (integer? word).or ((real? word).or (moment? word))
  value.map (·, rest)

end CoherentTasks.Document
