import ParamFile.Number.Decimal
import ParamFile.Pattern.Notation

/-!
# Reading regular expressions

A group is a list of branches, a branch a list of parts. Reading goes from left to right; what a
flag item switches holds up to the end of its group, the branches behind it included. Repetition
signs apply to the part before them, so there must be one, and it must not be a flag item.

Two limits bound what is accepted: how deeply parts may be nested, and how large an expression may
be when its repetitions are written out.
-/

namespace ParamFile.Pattern

open Text Number

/-! ## Parts -/

/-- A part of a branch. -/
structure Part where
  expr : Expr
  /-- How deeply parts are nested in it. -/
  height : Nat := 0
  repeatable : Bool := true

/-- Some parts one behind the other, the last one first in the list. -/
def Part.sequence (parts : List Part) : Part :=
  match parts with
  | [] => ⟨.empty, 0, true⟩
  | [p] => p
  | p :: before =>
    ⟨before.foldl (fun e q => .seq q.expr e) p.expr,
      parts.foldl (fun h q => max h q.height) 0 + 1, true⟩

/-- A choice between some parts, the last one first in the list. -/
def Part.choice (parts : List Part) : Part :=
  match parts with
  | [] => ⟨.empty, 0, true⟩
  | [p] => p
  | p :: before =>
    ⟨before.foldl (fun e q => .alt q.expr e) p.expr,
      parts.foldl (fun h q => max h q.height) 0 + 1, true⟩

/-- Where reading stands: the text that is left, the flags, and the group names used so far. -/
structure Place where
  rest : List Char
  flags : Flags
  names : List (List Char)

/-! ## Group openings -/

/-- A character that may begin a group name. -/
def beginsName (c : Char) : Bool := c == '_' || Property.isAlphabetic c

/-- A character that may stand in a group name behind its first. -/
def continuesName (c : Char) : Bool :=
  c == '_' || c == '.' || c == '[' || c == ']' || Property.isAlphanumeric c

/-- The name of a group, the text beginning behind its opening angle bracket. -/
def groupName (p : Place) (s : List Char) : Except Fault Place :=
  let name := s.takeWhile (· ≠ '>')
  match s.dropWhile (· ≠ '>'), name with
  | '>' :: rest, c :: others =>
    if !beginsName c || !others.all continuesName then .error .invalidGroupName
    else if p.names.contains name then .error .duplicateGroupName
    else .ok { p with rest, names := name :: p.names }
  | '>' :: _, [] => .error .invalidGroupName
  | _, _ => .error .invalidGroupName

/-- Flag letters up to a colon or a closing parenthesis. `seen` holds the letters and the dash read
so far, `on` whether they are being switched on. -/
def flagLetters (f : Flags) (on : Bool) (seen : List Char) :
    List Char → Except Fault (Flags × Char × List Char)
  | [] => .error .unexpectedEnd
  | c :: rest =>
    if c = ':' ∨ c = ')' then
      if seen.head? = some '-' then .error .invalidFlag
      else if seen.isEmpty ∧ c = ')' then .error .missingOperand
      else .ok (f, c, rest)
    else if seen.contains c then .error .invalidFlag
    else if c = '-' then flagLetters f false (c :: seen) rest
    else
      match f.switch c on with
      | some f => flagLetters f on (c :: seen) rest
      | none => .error .invalidFlag

/-- What stands behind an opening parenthesis. -/
inductive Opening where
  /-- A group with the flags that hold in it. -/
  | group (p : Place)
  /-- Flags for the rest of the surrounding group. -/
  | flags (p : Place)

def opening (p : Place) (s : List Char) : Except Fault Opening :=
  match p.flags.skip s with
  | '?' :: '=' :: _ | '?' :: '!' :: _ | '?' :: '<' :: '=' :: _ | '?' :: '<' :: '!' :: _ =>
    .error .unsupportedLookAround
  | '?' :: 'P' :: '<' :: rest | '?' :: '<' :: rest => (groupName p rest).map .group
  | '?' :: rest =>
    match flagLetters p.flags true [] rest with
    | .error e => .error e
    | .ok (flags, ')', rest) => .ok (.flags { p with rest, flags })
    | .ok (flags, _, rest) => .ok (.group { p with rest, flags })
  | rest => .ok (.group { p with rest })

/-! ## Repetition -/

def largestCount : Nat := 0xffffffff

/-- A repetition count, with white space around it; `none` when there are no digits. -/
def count (s : List Char) : Except Fault (Option Nat × List Char) :=
  let (digits, rest) := digitRun (s.dropWhile isBlank)
  let rest := rest.dropWhile isBlank
  if digits.isEmpty then .ok (none, rest)
  else if largestCount < natOfDigits digits then .error .invalidCount
  else .ok (some (natOfDigits digits), rest)

/-- The counts of a repetition, the text beginning behind the opening brace. -/
def counts (f : Flags) (s : List Char) : Except Fault (Nat × Option Nat × List Char) := do
  match f.skip s with
  | [] => .error .unclosedCount
  | s =>
    match ← count s with
    | (none, _) => .error .emptyCount
    | (some least, rest) =>
      match f.skip rest with
      | '}' :: rest => return (least, some least, rest)
      | ',' :: rest =>
        match f.skip rest with
        | [] => .error .unclosedCount
        | '}' :: rest => return (least, none, rest)
        | rest =>
          match ← count rest with
          | (none, _) => .error .emptyCount
          | (some most, rest) =>
            match f.skip rest with
            | '}' :: rest =>
              if least ≤ most then return (least, some most, rest) else .error .invalidCount
            | _ => .error .unclosedCount
      | _ => .error .unclosedCount

def repeatLast (items : List Part) (least : Nat) (most : Option Nat) : Except Fault (List Part) :=
  match items with
  | [] => .error .missingOperand
  | p :: before =>
    if p.repeatable then .ok (⟨p.expr.times least most, p.height + 1, true⟩ :: before)
    else .error .missingOperand

/-- The text behind a question mark that only asks for the shorter match. -/
def skipLazy (f : Flags) (s : List Char) : List Char :=
  match f.skip s with
  | '?' :: rest => rest
  | rest => rest

/-! ## Single parts -/

def periodSet (f : Flags) : CharSet := fun c =>
  f.dotAll || !(c == '\n' || (f.anyBreak && c == '\r'))

def caret (f : Flags) : Look :=
  if !f.multiline then .textStart else if f.anyBreak then .lineStartBreak else .lineStart

def dollar (f : Flags) : Look :=
  if !f.multiline then .textEnd else if f.anyBreak then .lineEndBreak else .lineEnd

def literal (f : Flags) (c : Char) : Expr := .set (CharSet.variants f (.single c))

/-- A part that is neither a group nor a repetition; the text begins with it. -/
def atom (f : Flags) (c : Char) (rest : List Char) : Except Fault (Part × List Char) := do
  match c with
  | '.' => if f.unicode then return (⟨.set (periodSet f), 0, true⟩, rest) else .error .invalidUtf8
  | '^' => return (⟨.look (caret f), 0, true⟩, rest)
  | '$' => return (⟨.look (dollar f), 0, true⟩, rest)
  | '[' =>
    let (set, height, rest) ← bracketed f rest
    return (⟨.set set, height, true⟩, rest)
  | '\\' =>
    match ← escape f rest with
    | (.char c byte, rest) =>
      if !f.unicode && byte && 128 ≤ c.toNat then .error .invalidUtf8
      else return (⟨literal f c, 0, true⟩, rest)
    | (.set set, rest) => return (⟨.set set, 0, true⟩, rest)
    | (.look look, rest) => return (⟨.look look, 0, true⟩, rest)
  | c =>
    if !f.unicode && f.ignoreCase && 128 ≤ c.toNat then .error .unicodeNotAllowed
    else return (⟨literal f c, 0, true⟩, rest)

/-! ## Groups -/

/-- Reads a group to its end, which is the end of the text for the outermost one. `items` are the
parts of the branch being read and `branches` the ones before it, the last one first. -/
def group : (fuel : Nat) → (nested : Bool) → Place → (items branches : List Part) →
    Except Fault (Part × Place)
  | 0, _, _, _, _ => .error .unexpectedEnd
  | fuel + 1, nested, p, items, branches =>
    let finish (p : Place) : Except Fault (Part × Place) :=
      .ok (.choice (.sequence items :: branches), p)
    let again (rest : List Char) (least : Nat) (most : Option Nat) : Except Fault (Part × Place) := do
      let items ← repeatLast items least most
      group fuel nested { p with rest := skipLazy p.flags rest } items branches
    match p.flags.skip p.rest with
    | [] => if nested then .error .unclosedGroup else finish { p with rest := [] }
    | '(' :: rest => do
      match ← opening p rest with
      | .flags p => group fuel nested p (⟨.empty, 0, false⟩ :: items) branches
      | .group inner =>
        let (part, outer) ← group fuel true inner [] []
        group fuel nested { outer with flags := p.flags }
          (⟨part.expr, part.height + 1, true⟩ :: items) branches
    | ')' :: rest => if nested then finish { p with rest } else .error .unopenedGroup
    | '|' :: rest => group fuel nested { p with rest } [] (.sequence items :: branches)
    | '?' :: rest => again rest 0 (some 1)
    | '*' :: rest => again rest 0 none
    | '+' :: rest => again rest 1 none
    | '{' :: rest =>
      match repeatLast items 1 (some 1) with
      | .error e => .error e
      | .ok _ => do
        let (least, most, rest) ← counts p.flags rest
        again rest least most
    | c :: rest => do
      let (part, rest) ← atom p.flags c rest
      group fuel nested { p with rest } (part :: items) branches

/-! ## Whole expressions -/

/-- How deeply parts may be nested. -/
def greatestHeight : Nat := 250

/-- How many steps an expression may have when its repetitions are written out. -/
def greatestSize : Nat := 327680

def ofText? (s : String) : Except Fault Expr := do
  let (part, _) ← group (s.toList.length + 1) false ⟨s.toList, {}, []⟩ [] []
  if greatestHeight < part.height then .error .tooDeep
  else if greatestSize < part.expr.size then .error .tooLarge
  else return part.expr

/-- Whether the pattern occurs in the text. -/
def occurs (pattern text : String) : Except Fault Bool :=
  (ofText? pattern).map (·.occursIn text.toList)

end ParamFile.Pattern
