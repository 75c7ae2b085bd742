import ParamFile.Client.Crypto
import ParamFile.Prompter

/-!
# Inputs

An input is a named value that comes from outside the documents. A secret input keeps what it was given
as ciphertext, unless it was typed in; it answers only to a reader who has a key, and keeps what had to
be decrypted for one.
-/

namespace ParamFile

/-- A named value from outside the documents. -/
structure Input where
  name : String
  kind : Kind := .string
  /-- What typed values must match. -/
  pattern : Option String := none
  description : Option String := none
  /-- What an empty answer means. -/
  default : Option String := none
  /-- A value given in the clear. -/
  plain : Option String := none
  /-- A value given as ciphertext. -/
  ciphertext : Option String := none
  /-- A secret value that was typed in, or decrypted for a reader. -/
  typed : Option String := none
  deriving DecidableEq, Repr, Inhabited

namespace Input

def isSet (i : Input) : Bool := i.plain.isSome || i.ciphertext.isSome || i.typed.isSome

/-! ## Giving a value -/

/-- The input with a value given to it. A secret input takes it as ciphertext, unless `encrypted` says
that it is none. -/
def setValue (i : Input) (value : String) (encrypted : Option Bool) : Input :=
  if i.kind.isSecure && encrypted != some false then
    { i with ciphertext := some value, typed := none }
  else { i with plain := some value }

def setTyped (i : Input) (value : String) : Input :=
  if i.kind.isSecure then { i with ciphertext := none, typed := some value }
  else { i with plain := some value }

/-- Whether a value matches the pattern of the input, if it has one. -/
def check (i : Input) (value : String) : Except Error Unit :=
  match i.pattern with
  | none => .ok ()
  | some pattern =>
    match Pattern.occurs pattern value with
    | .error fault => .error (.pattern fault)
    | .ok true => .ok ()
    | .ok false => .error (.invalidInput i.name pattern)

/-! ## Asking for a value -/

def promptText (i : Input) : String :=
  "Enter " ++ i.name ++ " [" ++ i.kind.text ++ "]" ++
    (i.description.elim "" fun d => " (" ++ d ++ ")") ++ ": "

/-- The message before the prompts for a list. -/
def listMessage (i : Input) : String :=
  "Enter StringList " ++ i.name ++ " values (blank line when done):"

def itemPrompt : String := "- "

def askItems (i : Input) (echo : Bool) : (fuel : Nat) → Action Prompter (List String)
  | 0 => return []
  | fuel + 1 => do
    let item ← Prompter.ask i.name itemPrompt echo
    if item.isEmpty then return [] else return item :: (← askItems i echo fuel)

def askText (i : Input) (echo : Bool) : Action Prompter String :=
  Prompter.ask i.name i.promptText echo

/-- Reads a list, as one answer with commas or as one answer for each item. -/
def askList (i : Input) (echo : Bool) : Action Prompter String := do
  Prompter.tell i.listMessage
  let first ← Prompter.ask i.name itemPrompt echo
  if first.isEmpty || first.toList.contains ',' then return first
  else
    let items ← askItems i echo ((← get).answers.length + 1)
    return ",".intercalate (first :: items)

/-- Reads a value: an empty answer means the default if there is one, any other must match the
pattern. -/
def askValue (i : Input) (echo : Option Bool) : Action Prompter String := do
  let echo := echo.getD (!i.kind.isSecure)
  let answer ← match i.kind with
    | .stringList => i.askList echo
    | _ => i.askText echo
  match answer.isEmpty, i.default with
  | true, some default => return default
  | _, _ =>
    Action.ofExcept (i.check answer)
    return answer

def ask (i : Input) (echo : Option Bool) : Action Prompter Input :=
  return i.setTyped (← i.askValue echo)

/-! ## Reading the value -/

/-- The value of an input for a reader who has a key, or none. -/
def value (i : Input) (keyId : Option String) : ClientM String :=
  match keyId with
  | none =>
    if i.kind.isSecure then throw (.secureInputWithoutKey i.name)
    else
      match i.plain with
      | some v => return v
      | none => throw (.inputMissing i.name)
  | some _ =>
    match i.typed, i.ciphertext, i.plain with
    | some v, _, _ => return v
    | none, some c, _ => Client.decrypt c
    | none, none, some v => return v
    | none, none, none => throw (.inputMissing i.name)

/-- The input behind a reader who got a value: it keeps the plaintext of its ciphertext. -/
def keeping (i : Input) (keyId : Option String) (value : String) : Input :=
  if keyId.isSome && i.typed.isNone && i.ciphertext.isSome then { i with typed := some value } else i

/-- Reads the value, and answers the input behind the reader, too. -/
def read (i : Input) (keyId : Option String) : ClientM (String × Input) := do
  let value ← i.value keyId
  return (value, i.keeping keyId value)

end Input

abbrev Inputs := NameMap Input

end ParamFile
