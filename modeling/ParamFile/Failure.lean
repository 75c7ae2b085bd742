import ParamFile.Pattern.Reader
import ParamFile.Text.Base64
import ParamFile.Text.Utf8

/-!
# Failures of a parameter store and its cipher

What can go wrong behind the client: in the store, in the cipher, or because a call was made to fail.
A failure has a message; the client says in which operation it came up.
-/

namespace ParamFile

open Text

/-- The calls that a client makes to its store and its cipher. -/
inductive Call where
  | put
  | get
  | path
  | history
  | delete
  | region
  | account
  | encrypt
  | decrypt
  deriving DecidableEq, Repr, Inhabited

namespace Call

def name : Call → String
  | .put => "put"
  | .get => "get"
  | .path => "path"
  | .history => "history"
  | .delete => "delete"
  | .region => "region"
  | .account => "account"
  | .encrypt => "encrypt"
  | .decrypt => "decrypt"

def all : List Call :=
  [.put, .get, .path, .history, .delete, .region, .account, .encrypt, .decrypt]

def operation : Call → String
  | .put => "PutParameter"
  | .get => "GetParameters"
  | .path => "GetParametersByPath"
  | .history => "GetParameterHistory"
  | .delete => "DeleteParameters"
  | .region => "GetRegion"
  | .account => "GetCallerIdentity"
  | .encrypt => "Encrypt"
  | .decrypt => "Decrypt"

def isCrypto : Call → Bool
  | .encrypt | .decrypt => true
  | _ => false

end Call

/-- Why a text is not a page token. -/
inductive TokenFault where
  | empty
  | invalidDigit
  | tooLarge
  deriving DecidableEq, Repr, Inhabited

def TokenFault.message : TokenFault → String
  | .empty => "cannot parse integer from empty string"
  | .invalidDigit => "invalid digit found in string"
  | .tooLarge => "number too large to fit in target type"

/-- A failure of a store or a cipher. -/
inductive Failure where
  /-- The call was made to fail. -/
  | injected (call : Call)
  /-- A value does not match the pattern that comes with it. -/
  | patternMismatch (name pattern : String)
  | invalidPattern (fault : Pattern.Fault)
  | alreadyExists (name : String)
  | tooManyNames (count : Nat)
  | invalidToken (token : String) (fault : TokenFault)
  | unsupportedKey (key : String)
  | unsupportedOption (option : String)
  | notBase64 (fault : Base64.Fault)
  | notUtf8 (fault : Utf8.Fault)
  /-- A ciphertext that does not name its key. -/
  | notSealed
  | awsUnavailable
  | unknownBackend (name : String)
  deriving DecidableEq, Repr

/-- How many names one call may list. -/
def greatestBatch : Nat := 10

theorem greatestBatch_pos : 0 < greatestBatch := by decide

def Failure.message : Failure → String
  | .injected call => "injected " ++ call.name ++ " failure"
  | .patternMismatch name pattern =>
    "ParameterPatternMismatch: value of " ++ name ++ " does not match '" ++ pattern ++ "'"
  | .invalidPattern fault => fault.message
  | .alreadyExists name => "ParameterAlreadyExists: " ++ name
  | .tooManyNames count =>
    "at most " ++ toString greatestBatch ++ " names per call, got " ++ toString count
  | .invalidToken token fault => "invalid next token '" ++ token ++ "': " ++ fault.message
  | .unsupportedKey key => "unsupported parameter filter key '" ++ key ++ "'"
  | .unsupportedOption option => "unsupported parameter filter option '" ++ option ++ "'"
  | .notBase64 fault => "ciphertext is not base64: " ++ fault.message
  | .notUtf8 fault => "ciphertext is not UTF-8: " ++ fault.message
  | .notSealed => "ciphertext was not produced by the local cipher"
  | .awsUnavailable => "backend 'aws' requires the \x60aws\x60 feature"
  | .unknownBackend name => "Unknown backend: " ++ name ++ ". Available: aws, memory"

end ParamFile
