import ParamFile.Failure
import ParamFile.Text.Blank

/-!
# The local cipher

A reversible stand-in for encryption: a ciphertext is the base64 form of a key id, a NUL character and
the plaintext. White space around a ciphertext does not count.
-/

namespace ParamFile.Cipher

open Text

/-- The character between key id and plaintext. -/
def separator : Char := '\x00'

/-- The text of some bytes that all stand for one character. -/
def asciiText (bytes : List UInt8) : String := .ofList (bytes.map fun b => Char.ofNat b.toNat)

/-- The ciphertext of a text under a key. -/
def sealed (plaintext keyId : String) : String :=
  asciiText (Base64.encode (Utf8.encode (keyId ++ .singleton separator ++ plaintext)))

/-- The two sides of the first separator in a text. -/
def splitAtSeparator? : List Char → Option (List Char × List Char)
  | [] => none
  | c :: rest =>
    if c = separator then some ([], rest)
    else (splitAtSeparator? rest).map fun (before, behind) => (c :: before, behind)

/-- The key id and the plaintext of a ciphertext. -/
def opened (ciphertext : String) : Except Failure (String × String) := do
  let bytes ← match Base64.decode (Utf8.encode (.ofList (trim ciphertext.toList))) with
    | .ok bytes => .ok bytes
    | .error fault => .error (.notBase64 fault)
  let text ← match Utf8.decode bytes with
    | .ok text => .ok text
    | .error fault => .error (.notUtf8 fault)
  match splitAtSeparator? text.toList with
  | some (keyId, plaintext) => return (.ofList keyId, .ofList plaintext)
  | none => .error .notSealed

/-- The separator parts a text without it from what stands behind. -/
theorem splitAtSeparator?_append {before behind : List Char} (h : separator ∉ before) :
    splitAtSeparator? (before ++ separator :: behind) = some (before, behind) := by
  induction before with
  | nil => simp [splitAtSeparator?]
  | cons c rest ih =>
    have ne : c ≠ separator := fun e => h (by simp [e])
    have tail : separator ∉ rest := fun m => h (List.mem_cons_of_mem _ m)
    simp [splitAtSeparator?, ne, ih tail]

/-- The sides of a separator make up the text, and the first holds no separator. -/
theorem eq_of_splitAtSeparator? {s before behind : List Char}
    (h : splitAtSeparator? s = some (before, behind)) :
    s = before ++ separator :: behind ∧ separator ∉ before := by
  induction s generalizing before with
  | nil => cases h
  | cons c rest ih =>
    rw [splitAtSeparator?] at h
    split at h
    · rename_i e
      cases h
      simp [e]
    · rename_i ne
      obtain ⟨⟨b, r⟩, hb, eq⟩ := Option.map_eq_some_iff.1 h
      cases eq
      obtain ⟨rfl, free⟩ := ih hb
      refine ⟨rfl, fun m => ?_⟩
      rcases List.mem_cons.1 m with e | m
      · exact ne e.symm
      · exact free m

end ParamFile.Cipher
