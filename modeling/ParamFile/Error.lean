import ParamFile.Failure
import ParamFile.Kind
import ParamFile.Toml.Table
import ParamFile.Yaml.Fault

/-!
# Errors

Everything that can be wrong with documents, inputs, parameters, the store behind the client or the
settings. Each error is a cause; `Error.message` is its text, which begins with a code, and `Error.fix?`
what to do about it.
-/

namespace ParamFile

/-! ## Causes -/

/-- Why a file cannot be read or written. -/
inductive FileFault where
  | notFound
  | notADirectory
  | isADirectory
  deriving DecidableEq, Repr, Inhabited

def FileFault.message : FileFault → String
  | .notFound => "No such file or directory (os error 2)"
  | .notADirectory => "Not a directory (os error 20)"
  | .isADirectory => "Is a directory (os error 21)"

/-- Why an answer could not be read. -/
inductive PromptFault where
  /-- The script has no answer left for a prompt. -/
  | noAnswer (prompt : String)
  | endOfInput
  deriving DecidableEq, Repr, Inhabited

def PromptFault.message : PromptFault → String
  | .noAnswer prompt => "no scripted answer for prompt '" ++ prompt ++ "'"
  | .endOfInput => "unexpected end of input"

/-- What is wrong with the shape of a document. -/
inductive ShapeFault where
  | topLevel
  | inputSection
  | commonSection
  | flushSection
  /-- The description of a key that is no text. -/
  | key (description : String)
  | inputName (description : String)
  | taggedEntry (name : String)
  | missingName
  | fileNotMapping (file : String)
  deriving DecidableEq, Repr, Inhabited

def ShapeFault.message : ShapeFault → String
  | .topLevel => "top level must be a mapping"
  | .inputSection => ".INPUT must be a mapping of input names"
  | .commonSection => ".COMMON must be a mapping"
  | .flushSection => ".FLUSH must be a path or a list of paths"
  | .key description => "key " ++ description ++ " is not a string"
  | .inputName description => "input name " ++ description ++ " is not a string"
  | .taggedEntry name => "entry " ++ name ++ " uses an unsupported YAML tag"
  | .missingName => "parameter without Name"
  | .fileNotMapping file => file ++ " is not a mapping"

/-- What a field must be. -/
inductive FieldShape where
  | scalar
  | boolean
  | scalarList
  | scalarOrList
  | kindOrMapping
  deriving DecidableEq, Repr, Inhabited

def FieldShape.text : FieldShape → String
  | .scalar => "a scalar"
  | .boolean => "a boolean"
  | .scalarList => "a list of scalars"
  | .scalarOrList => "a scalar or a list"
  | .kindOrMapping => "a type name or a mapping"

/-- Which options do not go together. -/
inductive OptionFault where
  | namesOnlyAndFull
  | missingValue
  deriving DecidableEq, Repr, Inhabited

def OptionFault.message : OptionFault → String
  | .namesOnlyAndFull => "names_only and full cannot be combined"
  | .missingValue => "provide a value for every path"

/-- What is wrong with the settings. -/
inductive SettingsFault where
  | unreadable (fault : FileFault)
  | malformed (fault : Toml.Fault)
  /-- A setting has a value of the wrong type. -/
  | mistyped (key : String)
  | backend (failure : Failure)
  deriving DecidableEq, Repr

def SettingsFault.message : SettingsFault → String
  | .unreadable fault => "Failed to read config file: " ++ fault.message
  | .malformed fault => "Failed to parse config file: " ++ fault.message
  | .mistyped key => "Failed to parse config file: invalid type for " ++ key
  | .backend failure => failure.message

/-! ## Errors -/

/-- An error. -/
inductive Error where
  | yaml (fault : Yaml.Fault)
  /-- A field of an input declaration that cannot be read. -/
  | inputField (field : String)
  | file (fault : FileFault)
  | pattern (fault : Pattern.Fault)
  | invalidInput (name pattern : String)
  | inputMissing (name : String)
  | secureInputWithoutKey (name : String)
  | promptFailed (name : String) (fault : PromptFault)
  | inputTypeConflict (name : String) (first second : Kind)
  | inputPatternConflict (name first second : String)
  | secureDefault (name : String)
  | unknownKind (text : String)
  | secureStringValue (name : String)
  /-- A secret parameter without a key id. -/
  | missingKeyId (name : String)
  /-- A key id on a parameter that is not secret. -/
  | unwantedKeyId (name : String)
  | missingValue (name : String)
  | invalidReference (text : String)
  | invalidDocument (fault : ShapeFault)
  | invalidField (name field : String) (expected : FieldShape)
  | invalidParameters (names : List String)
  /-- A call to the store failed; a write says for which parameter. -/
  | store (call : Call) (subject : Option String) (failure : Failure)
  | cipher (call : Call) (failure : Failure)
  | noReencryptionKey (name : String)
  | invalidOptions (fault : OptionFault)
  | unresolvedVariable (name : String)
  | settings (fault : SettingsFault)
  deriving DecidableEq, Repr

namespace Error

def ofFailure (call : Call) (subject : Option String) (failure : Failure) : Error :=
  if call.isCrypto then .cipher call failure else .store call subject failure

def code : Error → String
  | .yaml _ | .inputField _ => "SSM-001"
  | .file _ => "SSM-002"
  | .pattern _ => "SSM-003"
  | .invalidInput .. => "SSM-010"
  | .inputMissing _ => "SSM-011"
  | .secureInputWithoutKey _ => "SSM-012"
  | .promptFailed .. => "SSM-013"
  | .inputTypeConflict .. => "SSM-020"
  | .inputPatternConflict .. => "SSM-021"
  | .secureDefault _ => "SSM-022"
  | .unknownKind _ => "SSM-023"
  | .secureStringValue _ => "SSM-024"
  | .missingKeyId _ | .unwantedKeyId _ => "SSM-025"
  | .missingValue _ => "SSM-026"
  | .invalidReference _ => "SSM-027"
  | .invalidDocument _ => "SSM-028"
  | .invalidField .. => "SSM-029"
  | .invalidParameters _ => "SSM-040"
  | .store .. => "SSM-041"
  | .cipher .. | .noReencryptionKey _ => "SSM-042"
  | .invalidOptions _ => "SSM-043"
  | .unresolvedVariable _ => "SSM-050"
  | .settings _ => "SSM-060"

/-- The text of an error behind its code. -/
def detail : Error → String
  | .yaml fault => "YAML parse error: " ++ fault.message
  | .inputField field => "YAML parse error: invalid field " ++ field
  | .file fault => "IO error: " ++ fault.message
  | .pattern fault => "Invalid regular expression: " ++ fault.message
  | .invalidInput name wanted =>
    "Invalid input for " ++ name ++ ": value does not match pattern '" ++ wanted ++ "'"
  | .inputMissing name => "Input " ++ name ++ " not given"
  | .secureInputWithoutKey name =>
    "SecureString input " ++ name ++ " cannot be read without a key id"
  | .promptFailed name fault => "Failed to read input " ++ name ++ ": " ++ fault.message
  | .inputTypeConflict name first second =>
    "Conflicting input types for " ++ name ++ ": " ++ first.text ++ " vs " ++ second.text
  | .inputPatternConflict name first second =>
    "Conflicting input patterns for " ++ name ++ ": '" ++ first ++ "' vs '" ++ second ++ "'"
  | .secureDefault name => "Defaults are not allowed for SecureString input " ++ name
  | .unknownKind text => "Unknown parameter type '" ++ text ++ "'"
  | .secureStringValue name => "Value cannot be used with SecureString parameter " ++ name
  | .missingKeyId name =>
    "Mismatched secure inputs on parameter " ++ name ++ ": SecureString requires KeyId"
  | .unwantedKeyId name =>
    "Mismatched secure inputs on parameter " ++ name ++ ": KeyId is only allowed on SecureString"
  | .missingValue name => "Value missing for parameter " ++ name
  | .invalidReference text => "'" ++ text ++ "' is not a valid single reference"
  | .invalidDocument fault => "Invalid document: " ++ fault.message
  | .invalidField name field expected =>
    "Field '" ++ field ++ "' of " ++ name ++ " must be " ++ expected.text
  | .invalidParameters names => "Invalid parameter names " ++ ", ".intercalate names
  | .store call subject failure =>
    "Parameter store " ++ call.operation ++ " failed: " ++
      (subject.elim "" (· ++ ": ")) ++ failure.message
  | .cipher call failure => "Crypto " ++ call.operation ++ " failed: " ++ failure.message
  | .noReencryptionKey name => "Crypto Encrypt failed: no key id to re-encrypt " ++ name
  | .invalidOptions fault => "Invalid options: " ++ fault.message
  | .unresolvedVariable name => "Variable $(" ++ name ++ ") was read before it was resolved"
  | .settings fault => "Configuration error: " ++ fault.message

def message (e : Error) : String := "[" ++ e.code ++ "] " ++ e.detail

/-- What to do about an error. -/
def fix? : Error → Option String
  | .yaml _ | .inputField _ => some "Check YAML syntax: indentation and quoting"
  | .file _ => some "Check file path and permissions"
  | .pattern _ => some "Fix the Pattern/AllowedPattern regular expression"
  | .invalidInput .. => some "Re-run and enter a value matching the pattern"
  | .inputMissing _ =>
    some "Pass the value with --input NAME VALUE or allow prompting with --prompt"
  | .secureInputWithoutKey _ =>
    some "Reference SecureString inputs only from SecureString parameters with a KeyId"
  | .promptFailed .. => some "Run from an interactive terminal or pass --input"
  | .inputTypeConflict .. => some "Declare the input with the same Type in every file"
  | .inputPatternConflict .. =>
    some "Use the same Pattern for the input in every file, or declare it once"
  | .secureDefault _ => some "Remove Default from the SecureString input"
  | .unknownKind _ => some "Use one of: String, StringList, SecureString"
  | .secureStringValue _ =>
    some "Use EncryptedValue (see \x60ssm-ctl encrypt\x60) or Input for SecureString parameters"
  | .missingKeyId _ | .unwantedKeyId _ =>
    some "KeyId is required for SecureString and forbidden for other types"
  | .missingValue _ => some "Add a Value or set Disable: true"
  | .invalidReference _ => some "Use an input name or $(name)"
  | .invalidDocument _ => some "Top-level keys are parameter names or .INPUT/.COMMON/.FLUSH"
  | .invalidField .. => none
  | .invalidParameters _ => some "Check the parameter names exist"
  | .store .. => some "Check AWS credentials, region and permissions"
  | .cipher .. | .noReencryptionKey _ =>
    some "Check the KMS key id and your kms:Encrypt/kms:Decrypt access"
  | .invalidOptions _ => none
  | .unresolvedVariable _ => none
  | .settings _ => some "Check ~/.config/ssm-ctl/config.toml"

end Error

/-! ## Actions -/

/-- Something done on a state that can fail. The state stays as it was left when it failed. -/
abbrev Action (σ α : Type) := ExceptT Error (StateM σ) α

namespace Action

variable {σ α : Type}

/-- The result of an action and the state it leaves. -/
def runOn (a : Action σ α) (s : σ) : Except Error α × σ := Id.run (StateT.run (ExceptT.run a) s)

/-- A result that was there before. -/
def ofExcept (r : Except Error α) : Action σ α := ExceptT.mk (pure r)

/-- An action on a part of the state. -/
def onPart {τ : Type} (get : σ → τ) (set : τ → σ → σ) (a : Action τ α) : Action σ α :=
  ExceptT.mk fun s =>
    let (r, t) := a.runOn (get s)
    (r, set t s)

end Action

end ParamFile
