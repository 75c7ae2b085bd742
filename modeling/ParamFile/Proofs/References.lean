import ParamFile.Binding.Basic

/-!
# Texts without references

A text is plain if it holds no reference (`IsPlain`). A cut finds a reference wherever there is one
(`links_cut_eq_nil`), so a template of a plain text has no variables and stands for its text
(`IsPlain.variableNames`, `IsPlain.resolve`).
-/

namespace ParamFile

open Text

/-- No reference stands anywhere in the text. -/
def IsPlain (s : List Char) : Prop :=
  ∀ before name behind, name ≠ [] → (∀ c ∈ name, isWord c = true) →
    s ≠ before ++ (referenceText name ++ behind)

theorem IsPlain.tail {c : Char} {s : List Char} (h : IsPlain (c :: s)) : IsPlain s :=
  fun before name behind ne word eq => h (c :: before) name behind ne word (by rw [eq]; rfl)

theorem IsPlain.reference? {s : List Char} (h : IsPlain s) : reference? s = none := by
  cases hr : ParamFile.reference? s with
  | none => rfl
  | some found =>
    obtain ⟨name, behind⟩ := found
    obtain ⟨ne, word⟩ := word_of_reference? hr
    exact absurd (eq_of_reference? hr) (h [] name behind ne word)

theorem isPlain_of_notMem {s : List Char} (h : '$' ∉ s) : IsPlain s := by
  rintro before name behind - - rfl
  simp [referenceText] at h

/-- Nothing comes into being around a character that no reference holds. -/
theorem IsPlain.append {s t : List Char} (hs : IsPlain s) (ht : IsPlain t) {c : Char}
    (apart : c ∉ ['$', '(', ')']) (notWord : isWord c = false) : IsPlain (s ++ c :: t) := by
  intro before name behind ne word eq
  have outside : c ∉ referenceText name := by
    simp only [List.mem_cons, List.not_mem_nil, or_false, not_or] at apart
    have other : c ∉ name := fun there => by
      rw [word c there] at notWord
      cases notWord
    simp [referenceText, apart, other]
  rcases List.append_eq_append_iff.1 eq with ⟨u, -, rest⟩ | ⟨u, left, rest⟩
  · cases u with
    | nil =>
      rw [List.nil_append] at rest
      refine outside ?_
      cases rest
      exact List.mem_cons_self
    | cons d u =>
      obtain ⟨-, rfl⟩ := List.cons.inj rest
      exact ht u name behind ne word rfl
  · rcases List.append_eq_append_iff.1 rest with ⟨w, longer, -⟩ | ⟨w, shorter, tail⟩
    · exact hs before name w ne word (by rw [left, longer])
    · cases w with
      | nil => exact hs before name [] ne word (by rw [left, shorter]; simp)
      | cons d w =>
        obtain ⟨rfl, -⟩ := List.cons.inj tail
        exact outside (by rw [shorter]; simp)

/-- Behind any text a reference is found, or another one in front of it. -/
theorem links_cut_append (before : List Char) {name : List Char} (ne : name ≠ [])
    (word : ∀ c ∈ name, isWord c = true) (behind : List Char) :
    (cut (before ++ (referenceText name ++ behind))).links ≠ [] := by
  induction before with
  | nil =>
    have found := reference?_referenceText ne word behind
    simp only [referenceText, List.cons_append, List.nil_append] at found ⊢
    rw [cut]
    split
    · simp [Cut.link]
    · rename_i none
      rw [found] at none
      cases none
  | cons c rest ih =>
    rw [List.cons_append, cut]
    split
    · simp [Cut.link]
    · exact ih

/-- The plain texts are those in which a cut finds no reference. -/
theorem links_cut_eq_nil {s : List Char} : (cut s).links = [] ↔ IsPlain s := by
  constructor
  · rintro h before name behind ne word rfl
    exact links_cut_append before ne word behind h
  · intro h
    fun_induction cut s with
    | case1 => rfl
    | case2 c rest name behind found ih =>
      rw [h.reference?] at found
      cases found
    | case3 c rest none ih => exact ih h.tail

instance (s : List Char) : Decidable (IsPlain s) := decidable_of_iff _ links_cut_eq_nil

section
variable {text : String} (h : IsPlain text.toList)
include h

/-- A template of a plain text has no variables. -/
theorem IsPlain.variableNames : Template.variableNames { text } = [] := by
  simp [Template.variableNames, Template.references, Template.pieces, Cut.names,
    links_cut_eq_nil.2 h]

theorem IsPlain.resolve (b : Bindings) : Template.resolve b { text } = pure text := by
  simp [Template.resolve, Template.pieces, links_cut_eq_nil.2 h]

end

end ParamFile
