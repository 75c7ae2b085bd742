/-!
# Arguments of a command line

The words of a command line are options, values of options, the name of a subcommand, and positional
values. Some options may stand before or behind the subcommand, the others belong to one subcommand.
An option takes no value, one value or two; a value does not begin with a hyphen, except for the hyphen
alone. Behind two hyphens every word is a positional value.

Words are read from left to right (`Scan.step`), and the first that does not fit ends it, as does a
question for help or for the version.
-/

namespace ParamFile.Command

/-! ## Grammar -/

/-- What an option takes. -/
inductive Arity where
  | flag
  /-- A flag that may be repeated. -/
  | count
  | value
  /-- The name of a file, which is not empty. -/
  | path
  /-- Two values each time it is given. -/
  | pair
  deriving DecidableEq, Repr, Inhabited

/-- An option. -/
structure OptionSpec where
  name : String
  short : Option Char := none
  arity : Arity := .flag
  deriving DecidableEq, Repr, Inhabited

/-- The words that a command takes. -/
structure Spec where
  options : List OptionSpec := []
  /-- The names of single positional values, and whether each is the name of a file. -/
  positionals : List (String × Bool) := []
  /-- Whether more values may follow, at least one, and whether they are names of files. -/
  more : Option Bool := none
  deriving DecidableEq, Repr, Inhabited

/-- The words of a whole command line. -/
structure Grammar where
  /-- The options that may stand anywhere. -/
  shared : List OptionSpec
  subcommands : List (String × Spec)
  deriving Repr, Inhabited

/-- Why reading ends before the last word. -/
inductive Stop where
  | help
  | version
  /-- The words do not fit. -/
  | usage
  deriving DecidableEq, Repr, Inhabited

/-! ## What has been read -/

/-- What was given on one side of the subcommand. -/
structure Given where
  /-- The options given with their values, the last one first. -/
  options : List (String × List String) := []
  /-- The positional values, the last one first. -/
  positionals : List String := []
  deriving DecidableEq, Repr, Inhabited

namespace Given

def has (g : Given) (name : String) : Bool := g.options.any (·.1 == name)

def value? (g : Given) (name : String) : Option String := (g.options.lookup name).bind List.head?

/-- The values of an option that takes two, in the order in which they were given. -/
def pairs (g : Given) (name : String) : List (String × String) :=
  g.options.reverse.filterMap fun
    | (n, [a, b]) => if n = name then some (a, b) else none
    | _ => none

def values (g : Given) : List String := g.positionals.reverse

/-- The options with one more; only some options may be given again. -/
def add (g : Given) (o : OptionSpec) (values : List String) : Except Stop Given :=
  if g.has o.name && o.arity != .count && o.arity != .pair then .error .usage
  else if o.arity == .path && values.contains "" then .error .usage
  else .ok { g with options := (o.name, values) :: g.options }

end Given

/-- Where reading stands. -/
structure Scan where
  /-- What was given before the subcommand. -/
  before : Given := {}
  /-- The subcommand with what was given behind it. -/
  command : Option (String × Spec × Given) := none
  /-- An option whose values are not complete, and those that it has, the last one first. -/
  pending : Option (OptionSpec × List String) := none
  /-- Every word is a positional value from here on. -/
  isTrailing : Bool := false
  deriving Repr, Inhabited

namespace Scan

def options (g : Grammar) (s : Scan) : List OptionSpec :=
  g.shared ++ s.command.elim [] (·.2.1.options)

def valueCount : Arity → Nat
  | .flag | .count => 0
  | .value | .path => 1
  | .pair => 2

/-- An option with its values added to what was given here. -/
def add (s : Scan) (o : OptionSpec) (values : List String) : Except Stop Scan :=
  match s.command with
  | none => (s.before.add o values).map fun before => { s with before }
  | some (name, spec, given) =>
    (given.add o values).map fun given => { s with command := some (name, spec, given) }

/-- An option given, with a value directly attached to it or not. -/
def giveOption (s : Scan) (o : OptionSpec) (attached : Option String) : Except Stop Scan :=
  match valueCount o.arity, attached with
  | 0, none => s.add o []
  | 0, some _ => .error .usage
  | 1, some v => s.add o [v]
  | _, some _ => .error .usage
  | _, none => .ok { s with pending := some (o, []) }

/-- A positional value, which must fit the subcommand. -/
def givePositional (s : Scan) (word : String) : Except Stop Scan :=
  match s.command with
  | none => .error .usage
  | some (name, spec, given) =>
    let isPath? : Option Bool :=
      match spec.positionals[given.positionals.length]? with
      | some (_, isPath) => some isPath
      | none => spec.more
    match isPath? with
    | none => .error .usage
    | some isPath =>
      if isPath && word.isEmpty then .error .usage
      else .ok { s with
        command := some (name, spec, { given with positionals := word :: given.positionals }) }

/-- One letter of a group behind a single hyphen, the rest of the group being `rest`. -/
def giveLetters (g : Grammar) : List Char → Scan → Except Stop Scan
  | [], s => .ok s
  | c :: rest, s =>
    if c = 'h' then .error .help
    else if c = 'V' ∧ s.command.isNone then .error .version
    else
      match (s.options g).find? (·.short == some c) with
      | none => .error .usage
      | some o =>
        if valueCount o.arity = 0 then
          match s.giveOption o none with
          | .error e => .error e
          | .ok s => giveLetters g rest s
        else
          match rest with
          | [] => s.giveOption o none
          | '=' :: value => s.giveOption o (some (.ofList value))
          | value => s.giveOption o (some (.ofList value))

/-- A word behind two hyphens: the name of an option, perhaps with a value behind an equals sign. -/
def giveLong (g : Grammar) (s : Scan) (word : List Char) : Except Stop Scan :=
  let name : String := .ofList (word.takeWhile (· ≠ '='))
  let attached : Option String := match word.dropWhile (· ≠ '=') with
    | [] => none
    | _ :: value => some (.ofList value)
  if name = "help" then if attached.isSome then .error .usage else .error .help
  else if name = "version" ∧ s.command.isNone then
    if attached.isSome then .error .usage else .error .version
  else
    match (s.options g).find? (·.name == name) with
    | none => .error .usage
    | some o => s.giveOption o attached

/-- A word that is no option: a value that an option waits for, the subcommand, or a positional value. -/
def giveWord (g : Grammar) (s : Scan) (word : String) : Except Stop Scan :=
  match s.pending with
  | some (o, values) =>
    let values := word :: values
    if values.length < valueCount o.arity then .ok { s with pending := some (o, values) }
    else { s with pending := none }.add o values.reverse
  | none =>
    match s.command with
    | some _ => s.givePositional word
    | none =>
      match g.subcommands.lookup word with
      | some spec => .ok { s with command := some (word, spec, {}) }
      | none => .error .usage

def step (g : Grammar) (s : Scan) (word : String) : Except Stop Scan :=
  if s.isTrailing then s.givePositional word
  else
    let option (give : Except Stop Scan) : Except Stop Scan :=
      if s.pending.isSome then .error .usage else give
    match word.toList with
    | ['-', '-'] => option (.ok { s with isTrailing := true })
    | '-' :: '-' :: rest => option (s.giveLong g rest)
    | '-' :: c :: rest => option (giveLetters g (c :: rest) s)
    | _ => s.giveWord g word

/-- Whether all positional values of the subcommand are there. -/
def isComplete (spec : Spec) (given : Given) : Bool :=
  spec.positionals.length + (if spec.more.isSome then 1 else 0) ≤ given.positionals.length

/-- What was given in all: before the subcommand, the subcommand, and behind it. -/
def finish (s : Scan) : Except Stop (Given × String × Given) :=
  match s.pending, s.command with
  | none, some (name, spec, given) =>
    if isComplete spec given then .ok (s.before, name, given) else .error .usage
  | _, _ => .error .usage

end Scan

/-- The word that asks for help on a subcommand. -/
def helpWord : String := "help"

def Grammar.read (g : Grammar) (words : List String) : Except Stop (Given × String × Given) := do
  let s ← go words {}
  s.finish
where
  /-- Reads the remaining words. -/
  go : List String → Scan → Except Stop Scan
    | [], s => .ok s
    | word :: rest, s =>
      if word = helpWord ∧ s.command.isNone ∧ s.pending.isNone ∧ !s.isTrailing then
        match rest with
        | [] => .error .help
        | [name] =>
          if name = helpWord ∨ (g.subcommands.lookup name).isSome then .error .help
          else .error .usage
        | _ => .error .usage
      else
        match s.step g word with
        | .error e => .error e
        | .ok s => go rest s

end ParamFile.Command
