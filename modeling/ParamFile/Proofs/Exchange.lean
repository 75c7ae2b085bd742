import ParamFile.Proofs.Grouping

/-!
# Merging inputs in either order

Two declarations of an input accord if no field that both give differs (`Input.Accords`). Merging inputs
whose declarations accord works in either order, and both orders say the same of every input but for its
default (`Input.joint_comm`): that is the one of the first declaration, whatever the second says. So the
order matters exactly if a default differs, and a default is lost exactly if the second declaration gives
one and the first does not (`Input.merged_accords`, `Input.merged_default_lost`).
-/

namespace ParamFile

theorem or_comm_of_agree {α : Type} {x y : Option α} (h : ∀ p ∈ x, ∀ q ∈ y, p = q) :
    x.or y = y.or x := by
  cases x with
  | none => cases y <;> rfl
  | some p =>
    cases y with
    | none => rfl
    | some q => rw [h p rfl q rfl]

theorem or_eq_of_agree {α : Type} {x y : Option α} (h : ∀ p ∈ x, ∀ q ∈ y, p = q) {q : α}
    (given : x = some q ∨ y = some q) : x.or y = some q := by
  rcases given with rfl | rfl
  · rfl
  · rw [or_comm_of_agree h]
    rfl

namespace Input

/-! ## Declared inputs -/

/-- An input as documents declare it: under its name and without a value. -/
structure IsBare (name : String) (i : Input) : Prop where
  name : i.name = name
  plain : i.plain = none
  ciphertext : i.ciphertext = none
  typed : i.typed = none

theorem isBare_ofDeclaration {name : String} {d : Declaration} {i : Input}
    (h : ofDeclaration name d = .ok i) : i.IsBare name := by
  simp only [ofDeclaration, bind, Except.bind, pure, Except.pure] at h
  repeat' split at h
  all_goals
    cases h
    try exact ⟨rfl, rfl, rfl, rfl⟩

theorem isBare_ofEntry {name : String} {v : Yaml.Value} {i : Input} (h : ofEntry name v = .ok i) :
    i.IsBare name := by
  unfold ofEntry at h
  split at h
  · exact isBare_ofDeclaration h
  · exact isBare_ofDeclaration h
  · obtain ⟨d, -, h⟩ := ok_of_bind h
    exact isBare_ofDeclaration h
  · cases h

theorem IsBare.together {name : String} {l : List Input} (h : ∀ i ∈ l, i.IsBare name) {c : Input}
    (hc : together l = some c) : c.IsBare name := by
  cases l with
  | nil => cases hc
  | cons a rest =>
    obtain ⟨named, plain, ciphertext, typed⟩ := h a List.mem_cons_self
    cases hc
    exact ⟨named, plain, ciphertext, typed⟩

/-- Inputs that come from documents: from the section of one, or merged from those of several. -/
inductive Declared : Inputs → Prop
  | ofSection {v : Yaml.Value} {m : Inputs} (h : ofSection v = .ok m) : Declared m
  | merged {a b m : Inputs} (ha : Declared a) (hb : Declared b) (h : merged a b = .ok m) : Declared m

theorem Declared.bare {m : Inputs} (h : Declared m) : m.Each fun name i => i.IsBare name := by
  induction h with
  | ofSection h => exact Inputs.each_ofSection (fun _ _ _ => isBare_ofEntry) h
  | merged _ _ h iha ihb =>
    intro name c hc
    rw [(merged_ok h).2] at hc
    refine IsBare.together (fun i hi => ?_) hc
    rcases List.mem_append.1 hi with hi | hi
    · exact iha name i (Option.mem_toList.1 hi)
    · exact ihb name i (Option.mem_toList.1 hi)

/-! ## Declarations that accord -/

/-- Two declarations agree on the kind, and on each other field that both of them give. -/
structure Accords (a b : Input) : Prop where
  kind : a.kind = b.kind
  pattern : ∀ p ∈ a.pattern, ∀ q ∈ b.pattern, p = q
  description : ∀ p ∈ a.description, ∀ q ∈ b.description, p = q
  default : ∀ p ∈ a.default, ∀ q ∈ b.default, p = q

instance (a b : Input) : Decidable (a.Accords b) :=
  decidable_of_iff (a.kind = b.kind ∧ (∀ p ∈ a.pattern, ∀ q ∈ b.pattern, p = q) ∧
      (∀ p ∈ a.description, ∀ q ∈ b.description, p = q) ∧ ∀ p ∈ a.default, ∀ q ∈ b.default, p = q)
    ⟨fun h => ⟨h.1, h.2.1, h.2.2.1, h.2.2.2⟩, fun h => ⟨h.1, h.2, h.3, h.4⟩⟩

theorem Accords.fits {a b : Input} (h : a.Accords b) : a.Fits b := ⟨h.kind, h.pattern⟩

theorem Accords.symm {a b : Input} (h : a.Accords b) : b.Accords a where
  kind := h.kind.symm
  pattern q hq p hp := (h.pattern p hp q hq).symm
  description q hq p hp := (h.description p hp q hq).symm
  default q hq p hp := (h.default p hp q hq).symm

/-- The first declaration with what the second one fills in. -/
def joint (a b : Input) : Input := { a with
  pattern := a.pattern.or b.pattern
  description := a.description.or b.description }

theorem together_pair (a b : Input) : together [a, b] = some (a.joint b) := by
  simp only [together, joint, findSome?_pair]

/-- In the other order only the default can be another one. -/
theorem joint_comm {name : String} {a b : Input} (h : a.Accords b) (ha : a.IsBare name)
    (hb : b.IsBare name) : b.joint a = { a.joint b with default := b.default } := by
  obtain ⟨na, pa, ca, ta⟩ := ha
  obtain ⟨nb, pb, cb, tb⟩ := hb
  rw [joint, joint, or_comm_of_agree h.symm.pattern, or_comm_of_agree h.symm.description]
  simp only [na, nb, pa, pb, ca, cb, ta, tb, h.kind]

/-- An input has what a declaration gives, its default apart. -/
structure Includes (c i : Input) : Prop where
  kind : c.kind = i.kind
  pattern : ∀ p ∈ i.pattern, c.pattern = some p
  description : ∀ d ∈ i.description, c.description = some d

theorem Includes.refl (i : Input) : i.Includes i := ⟨rfl, fun _ h => h, fun _ h => h⟩

theorem Accords.includes {a b i : Input} (h : a.Accords b) (given : i = a ∨ i = b) :
    (a.joint b).Includes i where
  kind := by
    rcases given with rfl | rfl
    · rfl
    · exact h.kind
  pattern p hp := by
    refine or_eq_of_agree h.pattern ?_
    rcases given with rfl | rfl
    · exact .inl hp
    · exact .inr hp
  description d hd := by
    refine or_eq_of_agree h.description ?_
    rcases given with rfl | rfl
    · exact .inl hd
    · exact .inr hd

/-- The declarations of each input accord. -/
def AllAccord (m n : Inputs) : Prop := ∀ name, ∀ a ∈ m.get? name, ∀ b ∈ n.get? name, a.Accords b

theorem AllAccord.symm {m n : Inputs} (h : AllAccord m n) : AllAccord n m :=
  fun name b hb a ha => (h name a ha b hb).symm

/-! ## Merging -/

theorem get?_merged {m n s : Inputs} (h : merged m n = .ok s) (name : String) :
    s.get? name = match m.get? name, n.get? name with
      | some a, some b => some (a.joint b)
      | some a, none => some a
      | none, b => b := by
  rw [(merged_ok h).2]
  cases m.get? name with
  | none => cases n.get? name <;> simp [together]
  | some a =>
    cases n.get? name with
    | none => simp
    | some b => exact together_pair a b

theorem default_merged {m n s : Inputs} (h : merged m n = .ok s) {name : String} {c : Input}
    (hc : s.get? name = some c) :
    c.default = ((m.get? name).or (n.get? name)).bind (·.default) := by
  rw [get?_merged h] at hc
  cases ha : m.get? name with
  | none =>
    rw [ha] at hc
    rw [Option.none_or]
    rw [show n.get? name = some c from hc]
    rfl
  | some a =>
    rw [ha] at hc
    cases hb : n.get? name with
    | none => rw [hb] at hc; cases hc; rfl
    | some b => rw [hb] at hc; cases hc; rfl

/-- Merging in the other order leaves the same inputs with the defaults of the other side. -/
theorem get?_merged_comm {m n s t : Inputs} (hm : Declared m) (hn : Declared n)
    (accord : AllAccord m n) (hs : merged m n = .ok s) (ht : merged n m = .ok t) (name : String) :
    t.get? name = (s.get? name).map fun c =>
      { c with default := ((n.get? name).or (m.get? name)).bind (·.default) } := by
  rw [get?_merged hs, get?_merged ht]
  cases ha : m.get? name with
  | none => cases n.get? name <;> rfl
  | some a =>
    cases hb : n.get? name with
    | none => rfl
    | some b =>
      exact congrArg some
        (joint_comm (accord name a ha b hb) (hm.bare name a ha) (hn.bare name b hb))

section
variable {m n s t : Inputs} (accord : AllAccord m n) (hs : merged m n = .ok s)
include accord hs

/-- Every declared input is there with what its declarations give. -/
theorem exists_merged_includes {name : String} {i : Input}
    (given : m.get? name = some i ∨ n.get? name = some i) :
    ∃ c, s.get? name = some c ∧ c.Includes i := by
  rw [get?_merged hs]
  cases ha : m.get? name with
  | none =>
    rw [ha] at given
    exact ⟨i, given.resolve_left (fun no => nomatch no), .refl i⟩
  | some a =>
    rw [ha] at given
    cases hb : n.get? name with
    | none =>
      rw [hb] at given
      obtain rfl := Option.some.inj (given.resolve_right fun no => nomatch no)
      exact ⟨a, rfl, .refl a⟩
    | some b =>
      rw [hb] at given
      refine ⟨_, rfl, (accord name a ha b hb).includes ?_⟩
      exact given.imp (fun h => (Option.some.inj h).symm) fun h => (Option.some.inj h).symm

/-- The order makes no difference exactly if no two declarations of an input differ in the default. -/
theorem merged_eq_iff (hm : Declared m) (hn : Declared n) (ht : merged n m = .ok t) :
    s = t ↔ ∀ name, ∀ a ∈ m.get? name, ∀ b ∈ n.get? name, a.default = b.default := by
  constructor
  · rintro rfl name a ha b hb
    obtain ⟨c, hc, -⟩ := exists_merged_includes accord hs (.inl ha)
    have here := default_merged hs hc
    have there := default_merged ht hc
    rw [here, ha, hb] at there
    exact there
  · intro same
    refine NameMap.ext_get? fun name => ?_
    rw [get?_merged_comm hm hn accord hs ht name]
    cases hc : s.get? name with
    | none => rfl
    | some c =>
      have either : ((m.get? name).or (n.get? name)).bind (·.default) =
          ((n.get? name).or (m.get? name)).bind (·.default) := by
        cases ha : m.get? name with
        | none => rw [Option.none_or, Option.or_none]
        | some a =>
          cases hb : n.get? name with
          | none => rfl
          | some b => exact same name a ha b hb
      rw [Option.map_some, ← either, ← default_merged hs hc]

/-- Every default is kept exactly if no declaration gives one that the first of its input does not. -/
theorem defaults_kept_iff :
    (∀ name i, m.get? name = some i ∨ n.get? name = some i → ∀ d ∈ i.default,
        ∃ c, s.get? name = some c ∧ c.default = some d) ↔
      ∀ name, ∀ a ∈ m.get? name, ∀ b ∈ n.get? name, b.default.isSome → a.default.isSome := by
  constructor
  · intro kept name a ha b hb given
    obtain ⟨d, hd⟩ := Option.isSome_iff_exists.1 given
    obtain ⟨c, hc, default⟩ := kept name b (.inr hb) d hd
    rw [default_merged hs hc, ha] at default
    exact Option.isSome_iff_exists.2 ⟨d, default⟩
  · intro covered name i given d hd
    obtain ⟨c, hc, -⟩ := exists_merged_includes accord hs given
    refine ⟨c, hc, (default_merged hs hc).trans ?_⟩
    rcases given with ha | hb
    · rw [ha]
      exact hd
    · cases ha : m.get? name with
      | none =>
        rw [hb]
        exact hd
      | some a =>
        -- the first declaration has a default, too, and it is the same one
        obtain ⟨e, he⟩ := Option.isSome_iff_exists.1
          (covered name a ha i hb (Option.isSome_iff_exists.2 ⟨d, hd⟩))
        obtain rfl := (accord name a ha i hb).default e he d hd
        exact he

end

/-- Merging inputs from documents whose declarations accord works in both orders. Both give the same
inputs but for defaults, with every pattern and description that either side gives. The default is the one
of the first declaration; so the orders give the same exactly if no two declarations of an input differ in
it, and a default is lost exactly if only the second of two declarations gives one. -/
theorem merged_accords {m n : Inputs} (hm : Declared m) (hn : Declared n) (accord : AllAccord m n) :
    ∃ s t, merged m n = .ok s ∧ merged n m = .ok t ∧
      (∀ name, t.get? name = (s.get? name).map fun c =>
        { c with default := ((n.get? name).or (m.get? name)).bind (·.default) }) ∧
      (∀ name i, m.get? name = some i ∨ n.get? name = some i →
        ∃ c, s.get? name = some c ∧ c.Includes i ∧
          c.default = ((m.get? name).or (n.get? name)).bind (·.default)) ∧
      (s = t ↔ ∀ name, ∀ a ∈ m.get? name, ∀ b ∈ n.get? name, a.default = b.default) ∧
      ((∀ name i, m.get? name = some i ∨ n.get? name = some i → ∀ d ∈ i.default,
          ∃ c, s.get? name = some c ∧ c.default = some d) ↔
        ∀ name, ∀ a ∈ m.get? name, ∀ b ∈ n.get? name, b.default.isSome → a.default.isSome) := by
  obtain ⟨s, hs⟩ := merged_of_fit fun name a ha b hb => (accord name a ha b hb).fits
  obtain ⟨t, ht⟩ := merged_of_fit fun name a ha b hb => (accord.symm name a ha b hb).fits
  refine ⟨s, t, hs, ht, get?_merged_comm hm hn accord hs ht, fun name i given => ?_,
    merged_eq_iff accord hs hm hn ht, defaults_kept_iff accord hs⟩
  obtain ⟨c, hc, includes⟩ := exists_merged_includes accord hs given
  exact ⟨c, hc, includes, default_merged hs hc⟩

/-- Two sections that complete each other. -/
def patternSection : Yaml.Value := .map [
  (.string "Foo", .map [(.string "Pattern", .string "^[a-z]+$"), (.string "Default", .string "dev")]),
  (.string "Hosts", .string "StringList")]

def descriptionSection : Yaml.Value := .map [
  (.string "Bar", .map [(.string "Default", .string "x")]),
  (.string "Foo", .map [(.string "Description", .string "lower case"),
    (.string "Default", .string "dev")])]

/-- Both orders give the same, with all fields. -/
theorem merged_accords_completing :
    ∃ m n s, ofSection patternSection = .ok m ∧ ofSection descriptionSection = .ok n ∧
      AllAccord m n ∧ merged m n = .ok s ∧ merged n m = .ok s ∧ s.names = ["Bar", "Foo", "Hosts"] ∧
      s.get? "Foo" = some {
        name := "Foo", pattern := some "^[a-z]+$"
        description := some "lower case", default := some "dev" } := by
  obtain ⟨m, n, s, hm, hn, accord, same, hs, names, foo⟩ : ∃ m n s,
      ofSection patternSection = .ok m ∧ ofSection descriptionSection = .ok n ∧
      (∀ e ∈ m.entries, ∀ b ∈ n.get? e.1, e.2.Accords b) ∧
      (∀ e ∈ m.entries, ∀ b ∈ n.get? e.1, e.2.default = b.default) ∧
      merged m n = .ok s ∧ s.names = ["Bar", "Foo", "Hosts"] ∧
      s.get? "Foo" = some {
        name := "Foo", pattern := some "^[a-z]+$"
        description := some "lower case", default := some "dev" } :=
    ⟨_, _, _, rfl, rfl, by decide +kernel, by decide +kernel, rfl, by decide +kernel,
      by decide +kernel⟩
  have all : AllAccord m n := fun name a ha => accord (name, a) (NameMap.mem_entries.2 ha)
  obtain ⟨s', t, hs', ht, -, -, eq, -⟩ := merged_accords (.ofSection hm) (.ofSection hn) all
  obtain rfl : s' = s := Except.ok.inj (hs'.symm.trans hs)
  obtain rfl := eq.2 fun name a ha => same (name, a) (NameMap.mem_entries.2 ha)
  exact ⟨m, n, s', hm, hn, all, hs, ht, names, foo⟩

/-- Only the second section gives a default: it is lost, and it is not in the other order. -/
theorem merged_default_lost :
    ∃ m n s t, ofSection (.map [(.string "Foo", .string "String")]) = .ok m ∧
      ofSection (.map [(.string "Foo", .map [(.string "Default", .string "second")])]) = .ok n ∧
      AllAccord m n ∧ merged m n = .ok s ∧ merged n m = .ok t ∧
      (s.get? "Foo").map (·.default) = some none ∧
      (t.get? "Foo").map (·.default) = some (some "second") := by
  obtain ⟨m, n, s, t, hm, hn, accord, rest⟩ : ∃ m n s t,
      ofSection (.map [(.string "Foo", .string "String")]) = .ok m ∧
      ofSection (.map [(.string "Foo", .map [(.string "Default", .string "second")])]) = .ok n ∧
      (∀ e ∈ m.entries, ∀ b ∈ n.get? e.1, e.2.Accords b) ∧
      merged m n = .ok s ∧ merged n m = .ok t ∧
      (s.get? "Foo").map (·.default) = some none ∧
      (t.get? "Foo").map (·.default) = some (some "second") :=
    ⟨_, _, _, _, rfl, rfl, by decide +kernel, rfl, rfl, by decide +kernel, by decide +kernel⟩
  exact ⟨m, n, s, t, hm, hn, fun name a ha => accord (name, a) (NameMap.mem_entries.2 ha), rest⟩

end Input

end ParamFile
