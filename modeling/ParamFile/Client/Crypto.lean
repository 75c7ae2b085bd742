import ParamFile.Client.Basic

/-!
# The client: identity, keys and encryption

What a client answers once it answers again without asking the backend; a failed call leaves no trace
but in the log. A key id that is not in full form is completed with region and account.

Rules decide which key a secret value is encrypted with when it is read: of those whose prefix the name
begins with the first counts, otherwise the one without a prefix, otherwise the value keeps its own key.
-/

namespace ParamFile.Client

/-! ## Identity -/

def askRegion : ClientM String := do
  match (← get).region with
  | some r => return r
  | none =>
    let r ← query .region fun s => .ok s.region
    modify fun c => { c with region := some r }
    return r

def askAccount : ClientM String := do
  match (← get).account with
  | some a => return a
  | none =>
    let a ← query .account fun s => .ok s.account
    modify fun c => { c with account := some a }
    return a

/-! ## Keys -/

/-- The full form of a key id. -/
def fullKeyId (region account keyId : String) : String :=
  "arn:aws:kms:" ++ region ++ ":" ++ account ++ ":" ++ keyId

def isFullKeyId (keyId : String) : Bool := "arn".toList.isPrefixOf keyId.toList

/-- The full form of a key id; one that has it already stays as it is. -/
def formatKeyId (keyId : String) : ClientM String := do
  if isFullKeyId keyId then return keyId
  else
    match (← get).keyIds.lookup keyId with
    | some full => return full
    | none =>
      let region ← askRegion
      let account ← askAccount
      let full := fullKeyId region account keyId
      modify fun c => { c with keyIds := (keyId, full) :: c.keyIds }
      return full

/-! ## Encryption -/

def remember (ciphertext plaintext : String) : ClientM Unit :=
  modify fun c => { c with plaintexts := (ciphertext, plaintext) :: c.plaintexts }

def encrypt (plaintext keyId : String) : ClientM String := do
  let ciphertext ← query .encrypt fun _ => .ok (Cipher.sealed plaintext keyId)
  remember ciphertext plaintext
  return ciphertext

/-- Decrypts a ciphertext, which names its key itself. -/
def decrypt (ciphertext : String) : ClientM String := do
  match (← get).plaintexts.lookup ciphertext with
  | some plaintext => return plaintext
  | none =>
    let plaintext ← query .decrypt fun _ => (Cipher.opened ciphertext).map (·.2)
    remember ciphertext plaintext
    return plaintext

/-! ## Rules -/

/-- The rules after one more setting. Without a prefix the setting replaces all others, and without a
key it leaves none; with a prefix a key comes last, while keeping the own key comes first. -/
def addRule (rules : List Rule) (keyId namePrefix : Option String) : List Rule :=
  match namePrefix, keyId with
  | none, none => []
  | none, some key => [⟨none, some key⟩]
  | some p, some key => rules ++ [⟨some p, some key⟩]
  | some p, none => ⟨some p, none⟩ :: rules

/-- Sets which key secret values are encrypted with when they are read. -/
def setReencryptKey (c : Client) (keyId namePrefix : Option String) : Client :=
  { c with rules := addRule c.rules keyId namePrefix }

/-- The rule is for names that begin in a certain way, and for this one. -/
def Rule.isFor (name : String) (r : Rule) : Bool :=
  r.namePrefix.any fun p => p.toList.isPrefixOf name.toList

/-- The key that the rules choose for a parameter whose own key is `own`. -/
def chosenKey (rules : List Rule) (name : String) (own : Option String) : Option String :=
  let rule := (rules.find? (Rule.isFor name)).orElse fun _ => rules.find? (·.namePrefix.isNone)
  (rule.bind (·.keyId)).orElse fun _ => own

end ParamFile.Client
