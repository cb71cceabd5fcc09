import CoherentTasks.Pattern.Atom

/-!
# Sets of characters

A set stands between brackets: characters, ranges of them, named classes and
further sets, put together by set operations. Reading one gives the depth of its
nesting.
-/

namespace CoherentTasks.Pattern

open CoherentTasks.Text (Reader)

/-- The depth of terms one behind another, given the depth of each. A single one
counts for itself. -/
def joined : List Nat → Nat
  | [] => 0
  | [depth] => depth
  | depths => 1 + depths.foldr max 0

/-- A set whose closing bracket is still to come: the depth of the operands in
front of the last set operation, and the depths of the members behind it. -/
structure OpenSet where
  operands : Option Nat
  members : List Nat

def OpenSet.depth (set : OpenSet) : Nat :=
  match set.operands with
  | none => joined set.members
  | some depth => 1 + max depth (joined set.members)

def OpenSet.add (depth : Nat) (set : OpenSet) : OpenSet :=
  { set with members := depth :: set.members }

def OpenSet.operate (set : OpenSet) : OpenSet :=
  ⟨some set.depth, []⟩

def classNames : List String :=
  ["alnum", "alpha", "ascii", "blank", "cntrl", "digit", "graph", "lower",
    "print", "punct", "space", "upper", "word", "xdigit"]

/-- Reads a named class behind its first bracket, and whether it is negated. -/
def readClass? (characters : List Char) : Option (Bool × List Char) := do
  let body ← characters.tail?
  let negated := body.head? == some '^'
  let named := if negated then body.drop 1 else body
  match characters, named.dropWhile (· ≠ ':') with
  | ':' :: _, ':' :: ']' :: rest =>
    if classNames.contains (String.ofList (named.takeWhile (· ≠ ':')))
      then some (negated, rest)
    else none
  | _, _ => none

def Mode.allowsClass (mode : Mode) (negated : Bool) : Bool :=
  if mode.unicode then !mode.caseless else !negated

/-- Takes off hyphens, each of which is a member of depth zero. -/
def takeHyphens (mode : Mode) : Nat → List Char → List Nat × List Char
  | steps + 1, '-' :: rest =>
    let (members, rest) := takeHyphens mode steps (mode.skip rest)
    (0 :: members, rest)
  | _, rest => ([], rest)

/-- Reads the members right behind an opening bracket that stand for themselves:
hyphens, or else a closing bracket. Outside Unicode a negated set would match
bytes that are no characters. -/
def readOpening (mode : Mode) (characters : List Char) :
    Option (OpenSet × List Char) :=
  let body := mode.skip characters
  let negated := body.head? == some '^'
  let (hyphens, rest) :=
    takeHyphens mode characters.length
      (if negated then mode.skip (body.drop 1) else body)
  let (members, rest) :=
    match hyphens, rest with
    | [], ']' :: behind => ([0], behind)
    | _, _ => (hyphens, rest)
  if (negated && !mode.unicode) ||
    (!members.isEmpty && !mode.allowsMember (.literal '-' false)) then
    none
  else some (⟨none, members⟩, rest)

/-- Reads a member of a set that may be an end of a range. -/
def readMember (mode : Mode) : Reader Atom
  | '\\' :: rest => readEscape mode rest
  | character :: rest => some (.literal character false, rest)
  | [] => none

/-- The text behind a member or a range. A hyphen in front of a closing bracket
or of another hyphen makes no range. -/
def skipRange (mode : Mode) (characters : List Char) : Option (List Char) := do
  let (first, rest) ← readMember mode characters
  if !mode.allowsMember first then none
  else
    match mode.skip rest with
    | '-' :: behind =>
      if mode.peek? behind == some ']' || mode.peek? behind == some '-'
        then return '-' :: behind
      else
        match first, ← readMember mode (mode.skip behind) with
        | .literal low _, (.literal high byte, rest) =>
          if low ≤ high && mode.allowsMember (.literal high byte)
            then return rest else none
        | _, _ => none
    | rest => return rest

/-- Reads the rest of a set, given the sets around it, and returns its depth;
every step takes at least one character. -/
def readMembers (mode : Mode) : Nat → OpenSet → List OpenSet → Reader Nat
  | 0, _, _, _ => none
  | steps + 1, set, outer, characters =>
    match mode.skip characters with
    | [] => none
    | '[' :: rest =>
      match readClass? rest with
      | some (negated, rest) =>
        if mode.allowsClass negated
          then readMembers mode steps (set.add 0) outer rest else none
      | none => do
        let (inner, rest) ← readOpening mode rest
        readMembers mode steps inner (set :: outer) rest
    | ']' :: rest =>
      match outer with
      | [] => some (1 + set.depth, rest)
      | around :: outer =>
        readMembers mode steps (around.add (1 + set.depth)) outer rest
    | '&' :: '&' :: rest | '-' :: '-' :: rest | '~' :: '~' :: rest =>
      readMembers mode steps set.operate outer rest
    | rest =>
      do readMembers mode steps (set.add 0) outer (← skipRange mode rest)

/-- Reads a set behind its first bracket, and returns its depth. -/
def readSet (mode : Mode) : Reader Nat := fun characters => do
  let (set, rest) ← readOpening mode characters
  readMembers mode (rest.length + 1) set [] rest

end CoherentTasks.Pattern
