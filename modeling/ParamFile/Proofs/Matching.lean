import ParamFile.Proofs.Finding

/-!
# Which names match

A record passes a filter (`Filter.Holds`) if one of the filter's values is its field, or begins it. A
name of a store matches a path and some filters (`Store.Matches`) if it lies below the path
(`Store.Below`) and its latest version passes all of them. What a listing selects is just that:

* `passes_iff`, `passesAll_iff`: what the checks decide.
* `Filter.Supported.passes`: a supported filter decides about every record.
* `not_holds_of_passesAll`: a filter that fails for one record lets none pass.
* `Store.names_of_selected`, `Store.not_matches_of_selected`: the names that are selected; none match if
  selecting fails.
-/

namespace ParamFile

/-! ## Filters -/

/-- The text that a record has in a field. -/
inductive Record.Field (r : Record) : String → String → Prop
  | kind : Field r "Type" r.kind.text
  | name : Field r "Name" r.name
  | keyId {key : String} (h : r.keyId = some key) : Field r "KeyId" key

/-- A record passes a filter: one of the values is its field, or the beginning of it. -/
def Filter.Holds (f : Filter) (r : Record) : Prop :=
  ∃ text, r.Field f.key text ∧
    ((f.option = none ∨ f.option = some "Equals") ∧ text ∈ f.values ∨
      f.option = some "BeginsWith" ∧ ∃ v ∈ f.values, v.toList <+: text.toList)

/-- The filters that a store knows. -/
structure Filter.Supported (f : Filter) : Prop where
  key : f.key ∈ ["Type", "KeyId", "Name"]
  option : f.option ∈ [none, some "Equals", some "BeginsWith"]

namespace Store

variable {f : Filter} {filters : List Filter} {r : Record}

theorem field_iff {key text : String} : field key r = .ok (some text) ↔ r.Field key text := by
  unfold field
  constructor
  · intro h
    split_ifs at h with type keyId name
    · cases h
      exact type ▸ .kind
    · exact keyId ▸ .keyId (Except.ok.inj h)
    · cases h
      exact name ▸ .name
  · rintro (_ | _ | h)
    · rfl
    · rfl
    · exact congrArg Except.ok h

theorem passes_of_field {text : String} (h : field f.key r = .ok (some text)) :
    passes f r = match f.option with
      | none => .ok (f.values.contains text)
      | some "Equals" => .ok (f.values.contains text)
      | some "BeginsWith" => .ok (f.values.any fun v => v.toList.isPrefixOf text.toList)
      | some option => .error (.unsupportedOption option) := by
  unfold passes
  rw [h]
  rfl

theorem passes_iff : passes f r = .ok true ↔ f.Holds r := by
  unfold Filter.Holds
  simp only [← field_iff]
  cases h : field f.key r with
  | error e =>
    have failed : passes f r = .error e := by
      unfold passes
      rw [h]
      rfl
    simp [failed]
  | ok text =>
    cases text with
    | none =>
      have missing : passes f r = .ok false := by
        unfold passes
        rw [h]
        rfl
      simp [missing]
    | some text =>
      rw [passes_of_field h]
      split <;> simp_all

end Store

theorem Filter.Holds.supported {f : Filter} {r : Record} (h : f.Holds r) : f.Supported := by
  obtain ⟨text, has, how⟩ := h
  constructor
  · generalize f.key = key at has
    cases has <;> simp
  · rcases how with ⟨equal | equal, -⟩ | ⟨begins, -⟩ <;> simp [*]

theorem Filter.Supported.passes {f : Filter} (h : f.Supported) (r : Record) :
    ∃ b, Store.passes f r = .ok b := by
  obtain ⟨key, option⟩ := h
  simp only [List.mem_cons, List.not_mem_nil, or_false] at key option
  have known : ∃ text, Store.field f.key r = .ok text := by
    rcases key with key | key | key <;> exact ⟨_, by rw [key]; rfl⟩
  obtain ⟨text, known⟩ := known
  cases text with
  | none =>
    refine ⟨false, ?_⟩
    unfold Store.passes
    rw [known]
    rfl
  | some text =>
    rw [Store.passes_of_field known]
    rcases option with option | option | option <;> rw [option] <;> exact ⟨_, rfl⟩

namespace Store

variable {f : Filter} {filters : List Filter} {r : Record}

theorem passesAll_cons :
    passesAll (f :: filters) r =
      passes f r >>= fun b => passesAll filters r >>= fun b' => .ok (b && b') := by
  unfold passesAll
  rw [List.mapM_cons]
  cases passes f r with
  | error e => rfl
  | ok b => cases filters.mapM fun f => passes f r <;> rfl

theorem passesAll_iff : passesAll filters r = .ok true ↔ ∀ f ∈ filters, f.Holds r := by
  induction filters with
  | nil => exact iff_of_true rfl fun f mem => by cases mem
  | cons f filters ih =>
    rw [passesAll_cons, List.forall_mem_cons, ← passes_iff, ← ih]
    cases passes f r with
    | error e => simp [bind, Except.bind]
    | ok b => cases passesAll filters r <;> simp [bind, Except.bind]

theorem exists_passesAll (h : ∀ f ∈ filters, f.Supported) (r : Record) :
    ∃ b, passesAll filters r = .ok b := by
  induction filters with
  | nil => exact ⟨true, rfl⟩
  | cons f filters ih =>
    obtain ⟨b, here⟩ := (h f List.mem_cons_self).passes r
    obtain ⟨b', later⟩ := ih fun g hg => h g (List.mem_cons_of_mem _ hg)
    exact ⟨b && b', by rw [passesAll_cons, here, later]; rfl⟩

theorem not_holds_of_passesAll {e : Failure} (failed : passesAll filters r = .error e) (q : Record) :
    ¬ ∀ f ∈ filters, f.Holds q := by
  intro all
  obtain ⟨b, ok⟩ := exists_passesAll (fun f mem => (all f mem).supported) r
  rw [failed] at ok
  cases ok

/-! ## Paths -/

/-- The name lies below a path: behind the path and a slash comes a name, and with no further slash in it
unless deeper levels count. -/
def Below (path : String) (recursive : Bool) (name : String) : Prop :=
  ∃ rest, name.toList = pathStart path ++ rest ∧ (recursive = true ∨ '/' ∉ rest)

theorem isUnder_iff {path : String} {recursive : Bool} {name : String} :
    isUnder path recursive name = true ↔ Below path recursive name := by
  unfold isUnder Below
  simp only [Bool.and_eq_true, List.isPrefixOf_iff_prefix, Bool.or_eq_true, Bool.not_eq_true',
    List.contains_eq_mem, decide_eq_false_iff_not]
  constructor
  · rintro ⟨⟨rest, eq⟩, deep⟩
    rw [← eq, List.drop_left] at deep
    exact ⟨rest, eq.symm, deep⟩
  · rintro ⟨rest, eq, deep⟩
    rw [eq, List.drop_left]
    exact ⟨⟨rest, rfl⟩, deep⟩

/-- The name lies below the path, and is stored with a latest version that passes the filters. -/
def Matches (s : Store) (path : String) (recursive : Bool) (filters : List Filter) (name : String) :
    Prop :=
  Below path recursive name ∧ ∃ r, s.latest? name = some r ∧ ∀ f ∈ filters, f.Holds r

/-! ## Listings -/

section
variable {Q : PutRequest → Prop} {s : Store} {path : String} {recursive : Bool}
  {records : List Record}

/-- The names that are selected are those that match, in ascending order. -/
theorem names_of_selected (kept : Kept Q s)
    (found : s.selected path recursive filters = .ok records) :
    (records.map (·.name)).Pairwise (· < ·) ∧
      ∀ name, name ∈ records.map (·.name) ↔ s.Matches path recursive filters name := by
  constructor
  · have sub : (records.map (·.name)).Sublist s.names := by
      refine ((filterM_sublist found).map _).trans ?_
      rw [names_under kept]
      exact List.filter_sublist
    exact s.history.names_sorted.sublist sub
  · intro name
    rw [List.mem_map]
    constructor
    · rintro ⟨r, mem, rfl⟩
      obtain ⟨listed, pass⟩ := (mem_of_filterM found r).1 mem
      obtain ⟨below, latest⟩ := (mem_under kept).1 listed
      exact ⟨isUnder_iff.1 below, r, latest, passesAll_iff.1 pass⟩
    · rintro ⟨below, r, latest, pass⟩
      obtain rfl := kept.latest_name latest
      have listed : r ∈ s.under path recursive :=
        (mem_under kept).2 ⟨isUnder_iff.2 below, latest⟩
      exact ⟨r, (mem_of_filterM found r).2 ⟨listed, passesAll_iff.2 pass⟩, rfl⟩

theorem not_matches_of_selected {e : Failure}
    (failed : s.selected path recursive filters = .error e) (name : String) :
    ¬ s.Matches path recursive filters name := by
  rintro ⟨-, r, -, pass⟩
  obtain ⟨q, -, eq⟩ := error_of_filterM failed
  exact not_holds_of_passesAll eq r pass

theorem exists_selected (s : Store) (path : String) (recursive : Bool)
    (supported : ∀ f ∈ filters, f.Supported) :
    ∃ records, s.selected path recursive filters = .ok records := by
  cases selected : s.selected path recursive filters with
  | ok records => exact ⟨records, rfl⟩
  | error e =>
    obtain ⟨r, -, failed⟩ := error_of_filterM selected
    obtain ⟨b, ok⟩ := exists_passesAll supported r
    rw [failed] at ok
    cases ok

end

end Store

end ParamFile
