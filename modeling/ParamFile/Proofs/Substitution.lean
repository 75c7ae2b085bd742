import ParamFile.Proofs.References
import ParamFile.Proofs.Sequence

/-!
# Templates as texts around references

A text is taken apart at its references in one way only (`exists_unique_isProper`): what stands between
them holds none, however many broken ones there are. Two facts carry this.

* `reference?_append`: nothing that begins with a dollar sign completes a reference in front of it, for
  there is no other dollar sign in a reference.
* `isProper_cut`, `cut_render`: a cut leaves no reference over, and putting pieces together and cutting
  the text gives the pieces back.

A template then stands for its texts with a value in place of each reference, all put in at once and
none of them looked at again (`yields_substitute`, `resolve_decomposed`). The first reference of a text
is the first link of its cut (`firstReference?_eq`). So a text that is a name, or one reference, means
that reference (`singleReference?_eq_some`), which has no text beside it.
-/

namespace ParamFile

open Text ParamFile.Action

/-! ## Names -/

/-- A run of word characters, which may stand in a reference. -/
def IsName (name : List Char) : Prop := name ≠ [] ∧ ∀ c ∈ name, isWord c = true

instance (name : List Char) : Decidable (IsName name) :=
  decidable_of_iff (name ≠ [] ∧ name.all isWord = true) (and_congr_right' List.all_eq_true)

theorem IsName.not_dollar {name : List Char} (h : IsName name) : '$' ∉ name := by
  intro dollar
  have word := h.2 _ dollar
  rw [isWord_dollar] at word
  cases word

/-- Behind its first character a reference has no dollar sign. -/
theorem IsName.not_dollar_tail {name : List Char} (h : IsName name) :
    '$' ∉ (referenceText name).tail := by
  simp [referenceText, h.not_dollar]

/-! ## What stands between references -/

theorem isPlain_nil : IsPlain [] := links_cut_eq_nil.1 (by rw [cut])

/-- The text ends here, or a reference may begin. -/
def Begins (s : List Char) : Prop := ∀ c ∈ s.head?, c = '$'

theorem begins_links (links : List (List Char × List Char)) :
    Begins (links.flatMap fun (name, behind) => referenceText name ++ behind) := by
  cases links with
  | nil => exact fun _ hc => nomatch hc
  | cons _ _ => exact fun _ hc => (Option.some.inj hc).symm

/-- No reference comes into being when a dollar sign follows. -/
theorem reference?_append {s t : List Char} (ne : s ≠ []) (broken : reference? s = none)
    (begins : Begins t) : reference? (s ++ t) = none := by
  rw [Option.eq_none_iff_forall_ne_some]
  rintro ⟨name, behind⟩ found
  have word : IsName name := word_of_reference? found
  rcases List.append_eq_append_iff.1 (eq_of_reference? found) with ⟨u, ref, rest⟩ | ⟨u, ref, rest⟩
  · cases u with
    | nil =>
      -- the reference ends where the text does
      rw [List.append_nil] at ref
      have whole := reference?_referenceText word.1 word.2 []
      rw [List.append_nil, ref, broken] at whole
      cases whole
    | cons c u =>
      -- the dollar sign would stand in the middle of the reference
      obtain rfl : c = '$' := begins c (by rw [rest]; rfl)
      obtain ⟨x, s, rfl⟩ := List.exists_cons_of_ne_nil ne
      refine word.not_dollar_tail ?_
      rw [ref, List.cons_append, List.tail_cons]
      exact List.mem_append_right _ List.mem_cons_self
  · have inside := reference?_referenceText word.1 word.2 u
    rw [← ref, broken] at inside
    cases inside

/-- A cut runs over a plain text up to the next reference. -/
theorem cut_plain_append {s t : List Char} (plain : IsPlain s) (begins : Begins t) :
    cut (s ++ t) = { cut t with lead := s ++ (cut t).lead } := by
  induction s with
  | nil => rfl
  | cons c s ih =>
    have none := reference?_append (List.cons_ne_nil c s) plain.reference? begins
    rw [List.cons_append] at none ⊢
    rw [cut]
    split
    · rename_i found
      rw [none] at found
      cases found
    · rw [ih plain.tail]
      rfl

theorem cut_referenceText {name : List Char} (word : IsName name) (behind : List Char) :
    cut (referenceText name ++ behind) = (cut behind).link name := by
  have found := reference?_referenceText word.1 word.2 behind
  simp only [referenceText, List.cons_append] at found ⊢
  rw [cut]
  split
  · rename_i found'
    rw [found] at found'
    cases found'
    rfl
  · rename_i none
    rw [found] at none
    cases none

/-! ## Pieces -/

namespace Cut

/-- The texts between the references hold none, and each reference has a name. -/
structure IsProper (k : Cut) : Prop where
  lead : IsPlain k.lead
  links : ∀ link ∈ k.links, IsName link.1 ∧ IsPlain link.2

instance (k : Cut) : Decidable k.IsProper :=
  decidable_of_iff (IsPlain k.lead ∧ ∀ link ∈ k.links, IsName link.1 ∧ IsPlain link.2)
    ⟨fun h => ⟨h.1, h.2⟩, fun h => ⟨h.1, h.2⟩⟩

/-- The texts with a value in place of each reference. -/
def fill (k : Cut) (values : String → String) : List Char :=
  k.lead ++ k.links.flatMap fun (name, behind) => (values (.ofList name)).toList ++ behind

theorem cut_links {links : List (List Char × List Char)}
    (h : ∀ link ∈ links, IsName link.1 ∧ IsPlain link.2) :
    cut (links.flatMap fun (name, behind) => referenceText name ++ behind) = ⟨[], links⟩ := by
  induction links with
  | nil => rw [List.flatMap_nil, cut]
  | cons link rest ih =>
    obtain ⟨name, behind⟩ := link
    obtain ⟨word, plain⟩ := h _ List.mem_cons_self
    have later := ih fun link hl => h link (List.mem_cons_of_mem _ hl)
    rw [List.flatMap_cons, List.append_assoc, cut_referenceText word,
      cut_plain_append plain (begins_links rest), later, List.append_nil]
    rfl

/-- The text of proper pieces is cut into them again. -/
theorem cut_render {k : Cut} (h : k.IsProper) : cut k.render = k := by
  rw [render, cut_plain_append h.lead (begins_links k.links), cut_links h.links, List.append_nil]

/-- No reference is left over when a text is cut. -/
theorem isProper_cut (s : List Char) : (cut s).IsProper := by
  fun_induction cut s with
  | case1 => exact ⟨isPlain_nil, List.forall_mem_nil _⟩
  | case2 c rest name behind found ih =>
    refine ⟨isPlain_nil, List.forall_mem_cons.2 ⟨?_, ih.links⟩⟩
    exact ⟨word_of_reference? found, ih.lead⟩
  | case3 c rest none ih =>
    refine ⟨fun before name behind ne word eq => ?_, ih.links⟩
    cases before with
    | nil =>
      -- the whole text would begin with the reference as well
      have lost : c :: rest = referenceText name ++ (behind ++
          (cut rest).links.flatMap fun (name, behind) => referenceText name ++ behind) := by
        rw [← List.append_assoc, ← List.nil_append (referenceText name ++ behind), ← eq]
        exact congrArg (c :: ·) (ParamFile.render_cut rest).symm
      rw [lost, reference?_referenceText ne word] at none
      cases none
    | cons x before =>
      exact ih.lead before name behind ne word (List.cons.inj eq).2

/-- A text is taken apart in exactly one way. -/
theorem exists_unique_isProper (s : List Char) : ∃! k : Cut, k.IsProper ∧ k.render = s := by
  refine ⟨cut s, ⟨isProper_cut s, render_cut s⟩, ?_⟩
  rintro k ⟨proper, rfl⟩
  exact (cut_render proper).symm

/-! ## Values -/

/-- References that stand for themselves leave the text as it is. -/
theorem fill_of_references {k : Cut} {values : String → String}
    (h : ∀ name ∈ k.names, values name = .ofList (referenceText name.toList)) :
    k.fill values = k.render := by
  refine congrArg (k.lead ++ ·) (List.flatMap_congr fun link hl => ?_)
  have self := h _ (List.mem_map_of_mem hl)
  rw [String.toList_ofList] at self
  simp only [self, String.toList_ofList]

section
variable {σ : Type} {W : σ → Prop} {read : String → Action σ String} {values : String → String}

theorem yields_go {links : List (List Char × List Char)}
    (h : ∀ link ∈ links, Yields W (read (.ofList link.1)) (.ok (values (.ofList link.1))))
    (done : List Char) :
    Yields W (substitute.go read done links)
      (.ok (done ++ links.flatMap fun (name, behind) => (values (.ofList name)).toList ++ behind)) := by
  induction links generalizing done with
  | nil =>
    rw [List.flatMap_nil, List.append_nil]
    exact .pure done
  | cons link rest ih =>
    refine (h link List.mem_cons_self).bind ?_
    rw [List.flatMap_cons, ← List.append_assoc, ← List.append_assoc]
    exact ih (fun link hl => h link (List.mem_cons_of_mem _ hl)) _

/-- All values are put in as they are read. -/
theorem yields_substitute {k : Cut}
    (h : ∀ name ∈ k.names, Yields W (read name) (.ok (values name))) :
    Yields W (k.substitute read) (.ok (k.fill values)) :=
  yields_go (fun _ hl => h _ (List.mem_map_of_mem hl)) k.lead

end

end Cut

namespace Template

/-- A client that can read the key and each variable resolves the template, whatever reading one of
them makes it remember. -/
theorem resolve_of_readable {t : Template} (refers : t.pieces.links ≠ []) {b : Bindings} {c : Client}
    {key : Option String} (keyed : ((Parameter.resolveOption b t.keyId).runOn c).1 = .ok key)
    {values : String → String}
    (readable : ∀ name ∈ t.references, ((b.read name key).runOn c).1 = .ok (values name)) :
    ((t.resolve b).runOn c).1 = .ok (.ofList (t.pieces.fill values)) := by
  have hJ : Judgement (Steady fun d => Client.standing d = Client.standing c) :=
    Client.steady_standing
  have keys := (hJ.resolveOption (b := b) (t := t.keyId)
    (Client.steady_standing_answers _)).yields rfl
  rw [keyed] at keys
  have reads : ∀ name ∈ t.references,
      Yields (fun d => Client.standing d = Client.standing c) (b.read name key)
        (.ok (values name)) := by
    intro name hn
    have answer := (Client.steady_standing_answers [name] name List.mem_cons_self key
      (v := Client.standing c) (b := b)).yields rfl
    rwa [readable name hn] at answer
  rw [resolve_eq, if_neg (by simpa using refers)]
  exact ((keys.bind (.map _ (Cut.yields_substitute reads))) c rfl).1

/-- Take texts without references and a name between each two of them. The template they make has just
these references. No other such texts and names make the same template, and every text is made by some.
Without names the template stands for its text, whatever is bound. With names, and if all of them can be
read, it stands for the texts with the values in between, letter by letter; so it stands for itself if each
name is bound to a reference to it. -/
theorem resolve_decomposed {k : Cut} (proper : k.IsProper) (keyId : Option Template) :
    let t : Template := { text := .ofList k.render, keyId }
    t.references = k.names ∧
    (∀ s : String, ∃! k' : Cut, k'.IsProper ∧ .ofList k'.render = s) ∧
    (k.links = [] → ∀ b, t.resolve b = pure (.ofList k.lead)) ∧
    (k.links ≠ [] → ∀ (b : Bindings) (c : Client) (key : Option String) (values : String → String),
      ((Parameter.resolveOption b keyId).runOn c).1 = .ok key →
      (∀ name ∈ k.names, ((b.read name key).runOn c).1 = .ok (values name)) →
      ((t.resolve b).runOn c).1 = .ok (.ofList (k.fill values))) ∧
    ∀ (b : Bindings) (c : Client) (key : Option String),
      ((Parameter.resolveOption b keyId).runOn c).1 = .ok key →
      (∀ name ∈ k.names,
        ((b.read name key).runOn c).1 = .ok (.ofList (referenceText name.toList))) →
      ((t.resolve b).runOn c).1 = .ok t.text := by
  intro t
  have pieces : t.pieces = k := by
    show cut (String.ofList k.render).toList = k
    rw [String.toList_ofList, Cut.cut_render proper]
  have names : t.references = k.names := congrArg Cut.names pieces
  have bare : k.links = [] → ∀ b, t.resolve b = pure t.text := by
    intro none b
    rw [resolve_eq, pieces, none]
    rfl
  have filled : k.links ≠ [] → ∀ (b : Bindings) (c : Client) (key : Option String)
      (values : String → String), ((Parameter.resolveOption b keyId).runOn c).1 = .ok key →
      (∀ name ∈ k.names, ((b.read name key).runOn c).1 = .ok (values name)) →
      ((t.resolve b).runOn c).1 = .ok (.ofList (k.fill values)) := by
    intro refers b c key values keyed readable
    rw [← pieces] at refers ⊢
    exact resolve_of_readable refers keyed (names ▸ readable)
  refine ⟨names, fun s => ?_, fun none b => ?_, filled, fun b c key keyed readable => ?_⟩
  · obtain ⟨k', ⟨proper', render⟩, unique⟩ := Cut.exists_unique_isProper s.toList
    refine ⟨k', ⟨proper', by rw [render, String.ofList_toList]⟩, fun other h => ?_⟩
    exact unique other ⟨h.1, by rw [← h.2, String.toList_ofList]⟩
  · have text : k.render = k.lead := by
      rw [Cut.render, none, List.flatMap_nil, List.append_nil]
    rw [bare none b, ← text]
  · by_cases none : k.links = []
    · rw [bare none b]
      rfl
    · rw [filled none b c key _ keyed readable, Cut.fill_of_references fun _ _ => rfl]

/-- References with broken ones around them. -/
def amidBroken : Cut where
  lead := ['$', '(']
  links := [(['a'], ['$', '(', 'a']), (['b'], ")$()$(c".toList), (['a'], [])]

/-- Values that look like a reference, and that make one with what stands beside them. -/
def deceptive : Bindings := .ofList [
  ("a", .input { name := "a", plain := some "$(b)" }), ("b", .input { name := "b", plain := some ")" })]

/-- Neither of them is looked at again. -/
theorem resolve_decomposed_deceptive :
    let t : Template := { text := "$($(a)$(a$(b))$()$(c$(a)" }
    amidBroken.IsProper ∧ t.text = .ofList amidBroken.render ∧ t.references = ["a", "b", "a"] ∧
    ((t.resolve deceptive).runOn {}).1 = .ok "$($(b)$(a))$()$(c$(b)" := by
  have proper : amidBroken.IsProper := by decide +kernel
  have text : "$($(a)$(a$(b))$()$(c$(a)" = String.ofList amidBroken.render := by decide +kernel
  obtain ⟨names, -, -, filled, -⟩ := resolve_decomposed proper none
  let values (name : String) : String := if name = "a" then "$(b)" else ")"
  have readable : ∀ name ∈ amidBroken.names,
      ((deceptive.read name none).runOn {}).1 = .ok (values name) := by decide +kernel
  have resolved := filled (by decide) deceptive {} none values rfl readable
  refine ⟨proper, text, ?_, ?_⟩
  · rw [text, names]
    rfl
  · rw [text, resolved]
    decide +kernel

end Template

/-! ## Single references -/

theorem IsName.isPlain {name : List Char} (h : IsName name) : IsPlain name := by
  rintro before inner behind - - rfl
  exact h.not_dollar (by simp [referenceText])

/-- A text is cut into one reference and nothing else exactly if it is that reference. -/
theorem cut_eq_single {s name : List Char} :
    cut s = ⟨[], [(name, [])]⟩ ↔ IsName name ∧ s = referenceText name := by
  constructor
  · intro h
    have proper := Cut.isProper_cut s
    have text := render_cut s
    rw [h] at proper text
    refine ⟨(proper.links _ List.mem_cons_self).1, text.symm.trans ?_⟩
    simp [Cut.render]
  · rintro ⟨word, rfl⟩
    have whole := cut_referenceText word []
    rw [List.append_nil, cut] at whole
    exact whole

/-- The first reference of a text is the first link of its cut, which stands behind the lead. -/
theorem firstReference?_eq (s : List Char) :
    firstReference? s = (cut s).links.head?.map fun link =>
      ((cut s).lead.length, (cut s).lead.length + (referenceText link.1).length) := by
  fun_induction cut s with
  | case1 => rfl
  | case2 c rest name behind found ih =>
    rw [firstReference?, found]
    simp [Cut.link]
  | case3 c rest none ih =>
    rw [firstReference?, none]
    show (firstReference? rest).map _ = _
    rw [ih]
    cases h : (cut rest).links.head? with
    | none => simp [Cut.push, h]
    | some link =>
      simp [Cut.push, h]
      omega

/-- The first reference of a text is all of it exactly if the text is a reference. -/
theorem firstReference?_whole {s : List Char} :
    firstReference? s = some (0, s.length) ↔ ∃ name, IsName name ∧ s = referenceText name := by
  rw [firstReference?_eq]
  constructor
  · intro h
    obtain ⟨⟨name, behind⟩, first, ends⟩ := Option.map_eq_some_iff.1 h
    simp only [Prod.mk.injEq] at ends
    have text := congrArg List.length (render_cut s)
    -- nothing stands before the first link, and the text ends where the link does
    rcases hc : cut s with ⟨lead, links⟩
    rw [hc] at first ends text
    cases links with
    | nil => cases first
    | cons link links =>
      cases first
      simp only [Cut.render, List.flatMap_cons, List.length_append] at text
      obtain rfl : lead = [] := List.eq_nil_of_length_eq_zero ends.1
      obtain rfl : behind = [] := List.eq_nil_of_length_eq_zero (by omega)
      cases links with
      | nil => exact ⟨name, cut_eq_single.1 hc⟩
      | cons next links =>
        simp only [List.flatMap_cons, List.length_append, referenceText, List.length_cons] at text ends
        omega
  · rintro ⟨name, word⟩
    rw [cut_eq_single.2 word, word.2]
    simp

theorem singleReference?_name {name : List Char} (word : IsName name) :
    singleReference? (.ofList name) = some (.ofList (referenceText name)) := by
  have broken : firstReference? name ≠ some (0, name.length) := by
    rw [firstReference?_eq, links_cut_eq_nil.2 word.isPlain]
    exact nofun
  unfold singleReference?
  rw [String.toList_ofList, if_neg broken]
  exact if_pos ⟨word.1, List.all_eq_true.2 word.2⟩

theorem singleReference?_referenceText {name : List Char} (word : IsName name) :
    singleReference? (.ofList (referenceText name)) = some (.ofList (referenceText name)) := by
  unfold singleReference?
  rw [String.toList_ofList]
  exact if_pos (firstReference?_whole.2 ⟨name, word, rfl⟩)

/-- The names and the references are all that means a reference. -/
theorem singleReference?_eq_some {s r : String} :
    singleReference? s = some r ↔
      ∃ name, IsName name ∧ (s = .ofList name ∨ s = .ofList (referenceText name)) ∧
        r = .ofList (referenceText name) := by
  constructor
  · intro h
    unfold singleReference? at h
    split at h
    · rename_i single
      cases h
      obtain ⟨name, word, text⟩ := firstReference?_whole.1 single
      have whole : s = .ofList (referenceText name) := by rw [← text, String.ofList_toList]
      exact ⟨name, word, .inr whole, whole⟩
    · split at h
      · rename_i word
        cases h
        refine ⟨s.toList, ⟨word.1, List.all_eq_true.1 word.2⟩, .inl ?_, rfl⟩
        rw [String.ofList_toList]
      · cases h
  · rintro ⟨name, word, rfl | rfl, rfl⟩
    · exact singleReference?_name word
    · exact singleReference?_referenceText word

/-- The value of a single reference is all there is to it. -/
theorem Cut.substitute_single {σ : Type} (read : String → Action σ String) (name : List Char) :
    String.ofList <$> (⟨[], [(name, [])]⟩ : Cut).substitute read = read (.ofList name) := by
  simp [substitute, substitute.go]

namespace Template

/-- A text means a reference exactly if it is a name, which is a run of word characters, or a reference to
one. What it means is the reference to that name, which means itself. As a template this is cut into the
reference without any text beside it, and to resolve it is to read the name, with the key of the template
if there is one: it stands for what is bound to the name, letter by letter. -/
theorem reference_classified (s : String) :
    (∀ r, singleReference? s = some r ↔
      ∃ name, IsName name ∧ (s = .ofList name ∨ s = .ofList (referenceText name)) ∧
        r = .ofList (referenceText name)) ∧
    ∀ r, singleReference? s = some r →
      singleReference? r = some r ∧
      ∃ name, r = .ofList (referenceText name) ∧ ∀ keyId : Option Template,
        let t : Template := { text := r, keyId }
        t.pieces = ⟨[], [(name, [])]⟩ ∧ t.references = [.ofList name] ∧
        ∀ b, t.resolve b =
          Parameter.resolveOption b keyId >>= fun key => b.read (.ofList name) key := by
  refine ⟨fun r => singleReference?_eq_some, fun r means => ?_⟩
  obtain ⟨name, word, -, rfl⟩ := singleReference?_eq_some.1 means
  refine ⟨singleReference?_referenceText word, name, rfl, fun keyId => ?_⟩
  intro t
  have pieces : t.pieces = ⟨[], [(name, [])]⟩ := by
    show cut (String.ofList (referenceText name)).toList = _
    rw [String.toList_ofList, cut_eq_single.2 ⟨word, rfl⟩]
  refine ⟨pieces, congrArg Cut.names pieces, fun b => ?_⟩
  rw [resolve_eq, pieces]
  refine bind_congr fun key => ?_
  rw [Cut.substitute_single]

/-- A name, and the reference that it means. -/
theorem reference_classified_bare :
    singleReference? "Env_1" = some "$(Env_1)" ∧
    singleReference? "$(Env_1)" = some "$(Env_1)" := by
  have word : IsName "Env_1".toList := by decide +kernel
  obtain ⟨means, again⟩ := reference_classified "Env_1"
  have bare := (means "$(Env_1)").2 ⟨_, word, .inl rfl, rfl⟩
  exact ⟨bare, (again _ bare).1⟩

end Template

end ParamFile
