import ParamFile.NameMap
import ParamFile.Text.Word

/-!
# Templates

A template is a text in which `$(name)` stands for the value of a variable; a name is a run of word
characters. A text is cut at its references from left to right (`cut`), and the cut loses nothing
(`render_cut`). A literal template has no references whatever its text says.

A template that feeds a secret value carries another one, which gives the key to read its variables
with. Templates are told apart by their text alone.
-/

namespace ParamFile

open Text

/-! ## References in a text -/

/-- A reference at the head of a text: its name, and the text behind it. -/
def reference? : List Char → Option (List Char × List Char)
  | '$' :: '(' :: rest =>
    match rest.takeWhile isWord, rest.dropWhile isWord with
    | c :: name, ')' :: behind => some (c :: name, behind)
    | _, _ => none
  | _ => none

/-- What a reference to a name looks like. -/
def referenceText (name : List Char) : List Char := '$' :: '(' :: name ++ [')']

/-- A reference at the head of a text is followed by the rest of the text. -/
theorem eq_of_reference? {s name behind : List Char} (h : reference? s = some (name, behind)) :
    s = referenceText name ++ behind := by
  unfold reference? at h
  split at h
  · rename_i rest
    split at h
    · rename_i c n b hc hb
      cases h
      have := List.takeWhile_append_dropWhile (p := isWord) (l := rest)
      rw [hc, hb] at this
      simp [referenceText, ← this]
    · cases h
  · cases h

/-- The name of a reference is a run of word characters. -/
theorem word_of_reference? {s name behind : List Char} (h : reference? s = some (name, behind)) :
    name ≠ [] ∧ ∀ c ∈ name, isWord c = true := by
  unfold reference? at h
  split at h
  · split at h
    · rename_i c n b hc hb
      cases h
      refine ⟨by simp, fun x hx => ?_⟩
      rw [← hc] at hx
      exact List.all_eq_true.1 List.all_takeWhile x hx
    · cases h
  · cases h

theorem length_of_reference? {s name behind : List Char} (h : reference? s = some (name, behind)) :
    behind.length < s.length := by
  rw [eq_of_reference? h]
  simp [referenceText]
  omega

/-- A run of word characters between the delimiters is a reference. -/
theorem reference?_referenceText {name : List Char} (ne : name ≠ [])
    (word : ∀ c ∈ name, isWord c = true) (behind : List Char) :
    reference? (referenceText name ++ behind) = some (name, behind) := by
  obtain ⟨c, rest, rfl⟩ := List.exists_cons_of_ne_nil ne
  have take : ((c :: rest) ++ ')' :: behind).takeWhile isWord = c :: rest := by
    rw [List.takeWhile_append_of_pos word]; simp
  have drop : ((c :: rest) ++ ')' :: behind).dropWhile isWord = ')' :: behind := by
    rw [List.dropWhile_append_of_pos word]; simp
  simp only [referenceText, List.cons_append, List.append_assoc, List.nil_append] at take drop ⊢
  simp only [reference?, take, drop]

/-! ## Cutting -/

/-- A text cut at its references: what stands before the first of them, and each name with the text
up to the next. -/
structure Cut where
  lead : List Char
  links : List (List Char × List Char)
  deriving DecidableEq, Repr

namespace Cut

def push (c : Char) (k : Cut) : Cut := { k with lead := c :: k.lead }

/-- The cut with a reference put in front. -/
def link (name : List Char) (k : Cut) : Cut := ⟨[], (name, k.lead) :: k.links⟩

def render (k : Cut) : List Char :=
  k.lead ++ k.links.flatMap fun (name, behind) => referenceText name ++ behind

def names (k : Cut) : List String := k.links.map fun link => .ofList link.1

@[simp] theorem render_push (c : Char) (k : Cut) : (k.push c).render = c :: k.render := rfl

@[simp] theorem render_link (name : List Char) (k : Cut) :
    (k.link name).render = referenceText name ++ k.render := by
  simp [link, render]

end Cut

def cut : List Char → Cut
  | [] => ⟨[], []⟩
  | c :: rest =>
    match _h : reference? (c :: rest) with
    | some (name, behind) => (cut behind).link name
    | none => (cut rest).push c
termination_by s => s.length
decreasing_by
  · exact length_of_reference? _h
  · simp

/-- Nothing is lost when a text is cut. -/
@[simp] theorem render_cut (s : List Char) : (cut s).render = s := by
  fun_induction cut s with
  | case1 => rfl
  | case2 c rest name behind h ih => rw [Cut.render_link, ih, ← eq_of_reference? h]
  | case3 c rest h ih => rw [Cut.render_push, ih]

/-! ## Templates -/

/-- A text with references to variables. -/
structure Template where
  text : String
  /-- The text stands for itself, whatever it looks like. -/
  isLiteral : Bool := false
  /-- The key to read its variables with. -/
  keyId : Option Template := none
  deriving Repr, Inhabited

namespace Template

def literal (text : String) : Template := { text, isLiteral := true }

/-- The text cut at the references of the template. -/
def pieces (t : Template) : Cut := if t.isLiteral then ⟨t.text.toList, []⟩ else cut t.text.toList

/-- The names of the variables in the order of their references. -/
def references (t : Template) : List String := t.pieces.names

def hasReferences (t : Template) : Bool := !t.references.isEmpty

/-- Templates are told apart by their text. -/
def same (t u : Template) : Bool := t.text == u.text

/-- The names of all variables that are read: its own and those of its key. -/
def variableNames : Template → List String
  | ⟨text, isLiteral, keyId⟩ =>
    references ⟨text, isLiteral, none⟩ ++
      match keyId with
      | some key => key.variableNames
      | none => []

@[simp] theorem variableNames_literal (text : String) : (literal text).variableNames = [] := by
  simp [literal, variableNames, references, pieces, Cut.names]

end Template

/-! ## Single references -/

/-- Where the first reference of a text begins, and where it ends. -/
def firstReference? : List Char → Option (Nat × Nat)
  | [] => none
  | c :: rest =>
    match reference? (c :: rest) with
    | some (name, _) => some (0, (referenceText name).length)
    | none => (firstReference? rest).map fun (start, stop) => (start + 1, stop + 1)

/-- The reference that a text means as a whole: the text itself if its first reference begins and ends
where the text does, the reference to it if it is a name. -/
def singleReference? (s : String) : Option String :=
  if firstReference? s.toList = some (0, s.toList.length) then some s
  else if s.toList ≠ [] ∧ s.toList.all isWord then some (.ofList (referenceText s.toList))
  else none

end ParamFile
