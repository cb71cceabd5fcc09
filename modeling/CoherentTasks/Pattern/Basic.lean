import CoherentTasks.Pattern.Set
import CoherentTasks.Text.Alphanumeric

/-!
# Patterns

A pattern consists of branches, separated by bars, and a branch of terms one
behind another. Terms may be repeated, and parentheses make a term of a pattern.
What is decided here is whether a text is a pattern that is supported.
-/

namespace CoherentTasks.Pattern

open CoherentTasks.Text (Reader)

/-- What an opening parenthesis begins. -/
inductive Opening where
  /-- Flags for the rest of the group around them. -/
  | flags (flags : List Char)
  /-- A group with flags of its own, and maybe with a name. -/
  | group (flags : List Char) (name : Option (List Char))

def isGroupName : List Char → Bool
  | [] => false
  | first :: rest =>
    (first == '_' || Text.isAlphabetic first) && rest.all fun character =>
      ['_', '.', '[', ']'].contains character || Text.isAlphanumeric character

def readGroupName : Reader Opening := fun characters =>
  let name := characters.takeWhile (· ≠ '>')
  match characters.dropWhile (· ≠ '>') with
  | '>' :: rest =>
    if isGroupName name then some (.group [] (some name), rest) else none
  | _ => none

/-- Reads flags, which may be those of a group. -/
def readFlags : Reader Opening := fun characters =>
  let flags :=
    characters.takeWhile fun character => character ≠ ':' && character ≠ ')'
  match characters.dropWhile fun character =>
      character ≠ ':' && character ≠ ')' with
  | ':' :: rest =>
    if areFlags flags then some (.group flags none, rest) else none
  | ')' :: rest =>
    if areFlags flags && !flags.isEmpty then some (.flags flags, rest) else none
  | _ => none

/-- Reads what follows an opening parenthesis. -/
def readGroupHead (mode : Mode) : Reader Opening := fun characters =>
  match mode.skip characters with
  | '?' :: 'P' :: '<' :: rest | '?' :: '<' :: rest => readGroupName rest
  | '?' :: rest => readFlags rest
  | rest => some (.group [] none, rest)

/-- A group whose closing parenthesis is still to come: the depths of its
complete branches, those of the terms of the last one, and whether the last term
may be repeated. -/
structure OpenGroup where
  branches : List Nat
  terms : List Nat
  repeatable : Bool

def OpenGroup.empty : OpenGroup := ⟨[], [], false⟩

/-- The depth of a group, without itself. -/
def OpenGroup.depth (group : OpenGroup) : Nat :=
  joined (joined group.terms :: group.branches)

def OpenGroup.add (depth : Nat) (group : OpenGroup) : OpenGroup :=
  { group with terms := depth :: group.terms, repeatable := true }

/-- Repeats the last term, if it may be. -/
def OpenGroup.repeat? (group : OpenGroup) : Option OpenGroup :=
  match group.repeatable, group.terms with
  | true, last :: terms => some { group with terms := (1 + last) :: terms }
  | _, _ => none

def OpenGroup.branch (group : OpenGroup) : OpenGroup :=
  ⟨joined group.terms :: group.branches, [], false⟩

/-- A pattern read up to some place: the mode there, the names of groups so far,
the innermost open group, and the ones around it with the modes to which they
return. -/
structure Progress where
  mode : Mode
  names : List (List Char)
  group : OpenGroup
  outer : List (Mode × OpenGroup)

def Progress.initial : Progress := ⟨.initial, [], .empty, []⟩

def Progress.add (depth : Nat) (progress : Progress) : Progress :=
  { progress with group := progress.group.add depth }

/-- Opens a group, or changes the mode. Flags count as a term, which cannot be
repeated. No two groups have the same name. -/
def Progress.open? (progress : Progress) : Opening → Option Progress
  | .flags flags =>
    some { progress with
      mode := progress.mode.change flags
      group := { progress.group.add 0 with repeatable := false } }
  | .group flags name =>
    if name.any progress.names.contains then none
    else some {
      mode := progress.mode.change flags
      names := name.toList ++ progress.names
      group := .empty
      outer := (progress.mode, progress.group) :: progress.outer }

def Progress.close? (progress : Progress) : Option Progress :=
  match progress.outer with
  | [] => none
  | (mode, around) :: outer =>
    some { progress with
      mode, group := around.add (1 + progress.group.depth), outer }

/-- The text behind a sign of repetition, which a question mark makes
reluctant. -/
def skipReluctance : List Char → List Char
  | '?' :: rest => rest
  | rest => rest

/-- Reads a term that is no group and no set. -/
def readAtom (mode : Mode) : Reader Atom
  | '\\' :: rest => readEscape mode rest
  | '.' :: rest => some (.any, rest)
  | '^' :: rest | '$' :: rest => some (.edge, rest)
  | character :: rest => some (.literal character false, rest)
  | [] => none

/-- Reads a pattern to its end; every step takes at least one character.
Repetitions by number, which are written between braces, are not supported. -/
def readTerms : Nat → Progress → List Char → Option Progress
  | 0, _, _ => none
  | steps + 1, progress, characters =>
    match progress.mode.skip characters with
    | [] => some progress
    | '(' :: rest => do
      let (opening, rest) ← readGroupHead progress.mode rest
      readTerms steps (← progress.open? opening) rest
    | ')' :: rest => do readTerms steps (← progress.close?) rest
    | '|' :: rest =>
      readTerms steps { progress with group := progress.group.branch } rest
    | '[' :: rest => do
      let (depth, rest) ← readSet progress.mode rest
      readTerms steps (progress.add depth) rest
    | '?' :: rest | '*' :: rest | '+' :: rest => do
      let group ← progress.group.repeat?
      readTerms steps { progress with group } (skipReluctance rest)
    | '\x7b' :: _ => none
    | rest => do
      let (atom, rest) ← readAtom progress.mode rest
      if progress.mode.allows atom
        then readTerms steps (progress.add 0) rest else none

def depthLimit : Nat := 250

/-- Whether a text is a supported pattern: all groups are closed, and nothing is
nested too deeply. -/
def isPattern (characters : List Char) : Bool :=
  match readTerms (characters.length + 1) .initial characters with
  | some progress => progress.outer.isEmpty && progress.group.depth ≤ depthLimit
  | none => false

end CoherentTasks.Pattern
