/-!
# Kinds of parameters

A parameter is a text, a list of texts, or a secret text. `Kind.ofText?_text` says that the name of a
kind denotes it, and `Kind.text_of_ofText?` that no other text does.
-/

namespace ParamFile

/-- The kind of a parameter or input. -/
inductive Kind where
  | string
  | stringList
  | secureString
  deriving DecidableEq, Repr, Inhabited

namespace Kind

def text : Kind → String
  | .string => "String"
  | .stringList => "StringList"
  | .secureString => "SecureString"

def ofText? (s : String) : Option Kind :=
  if s = "String" then some .string
  else if s = "StringList" then some .stringList
  else if s = "SecureString" then some .secureString
  else none

/-- Values of a secret kind are stored encrypted. -/
def isSecure : Kind → Bool
  | .secureString => true
  | _ => false

@[simp] theorem ofText?_text (k : Kind) : ofText? k.text = some k := by cases k <;> rfl

/-- Only the name of a kind denotes it. -/
theorem text_of_ofText? {s : String} {k : Kind} (h : ofText? s = some k) : k.text = s := by
  unfold ofText? at h
  split at h
  · cases h; simp [text, *]
  · split at h
    · cases h; simp [text, *]
    · split at h
      · cases h; simp [text, *]
      · cases h

@[simp] theorem isSecure_iff (k : Kind) : k.isSecure = true ↔ k = .secureString := by
  cases k <;> simp [isSecure]

end Kind

end ParamFile
