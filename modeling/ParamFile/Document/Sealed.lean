import ParamFile.Client.Crypto
import ParamFile.Document.Basic

/-!
# Sealed entries of a document

Secret values are put into a document as ciphertext, next to the key that they are encrypted with. An
entry that is a mapping keeps its other fields, and any other is replaced; entries that are not there
yet come last.
-/

namespace ParamFile.Document

open Yaml

def ciphertextField : String := "EncryptedValue"

def keyField : String := "KeyId"

/-- An entry with ciphertext put into it. A mapping below a tag stays as it is. -/
def sealEntry (ciphertext keyId : String) (entry : Value) : Value :=
  let put (m : Mapping) : Value :=
    .map ((m.insert ciphertextField (.string ciphertext)).insert keyField (.string keyId))
  match entry with
  | .map m => put m
  | v => if v.isMapping then v else put []

/-- A document with ciphertext put into the entry of a name. -/
def sealName (m : Mapping) (name ciphertext keyId : String) : Mapping :=
  m.insert name (sealEntry ciphertext keyId ((m.get? name).getD .null))

/-- A document with some values, each put into the entry of its name as ciphertext. -/
def sealAll (keyId : String) : List (String × String) → Mapping → ClientM Mapping
  | [], m => return m
  | (name, plaintext) :: rest, m => do
    let ciphertext ← Client.encrypt plaintext keyId
    sealAll keyId rest (sealName m name ciphertext keyId)

def ciphertextOf? : Value → Option String
  | .map fields => (Mapping.get? fields ciphertextField).bind Value.asString?
  | _ => none

/-- The names of the entries that hold ciphertext, with it, in document order. -/
def ciphertexts (m : Mapping) : List (String × String) :=
  m.filterMap fun (k, v) => do return (← k.asString?, ← ciphertextOf? v)

end ParamFile.Document
