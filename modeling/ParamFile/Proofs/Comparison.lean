import Mathlib.Data.List.Induction
import ParamFile.Client.Diff
import ParamFile.Proofs.Listing

/-!
# Comparing names with the store

What a comparison says of a name depends on where the store lists it (`Store.Lists`). One more path adds
to a comparison what the store lists under it (`Diff.Compares.step`), so a comparison with some paths is
known name by name (`yields_diffPaths`).

Its names to overwrite and to remove are those that the store lists under some path. Its names to add are
those that some path holds without listing them, and those that no path lists. A path holds its own name
and does not count its trailing slashes, but does not list what they hide: so a name may be added and
overwritten at once (`diffPaths_classifies`, `diffPaths_nested`).
-/

namespace ParamFile

open ParamFile.Action

/-! ## Paths -/

theorem Text.exists_dropEnd (p : Char → Bool) (s : List Char) :
    ∃ tail, s = dropEnd p s ++ tail ∧ ∀ c ∈ tail, p c = true := by
  refine ⟨(s.reverse.takeWhile p).reverse, ?_, fun c hc => ?_⟩
  · rw [dropEnd, ← List.reverse_append, List.takeWhile_append_dropWhile, List.reverse_reverse]
  · exact List.all_eq_true.1 List.all_takeWhile c (List.mem_reverse.1 hc)

/-- What the names under a path begin with is the path without its trailing slashes, then a slash. -/
theorem Store.exists_pathStart (path : String) :
    ∃ rest, pathStart path = Text.dropEnd (· == '/') path.toList ++ '/' :: rest := by
  unfold pathStart
  rcases List.eq_nil_or_concat path.toList with empty | ⟨front, last, eq⟩
  · rw [empty]
    exact ⟨[], rfl⟩
  · rw [eq, List.concat_eq_append]
    dsimp only
    by_cases slash : last = '/'
    · subst slash
      have dropped : Text.dropEnd (· == '/') (front ++ ['/']) = Text.dropEnd (· == '/') front := by
        simp [Text.dropEnd]
      obtain ⟨tail, parts, slashes⟩ := Text.exists_dropEnd (· == '/') front
      rw [if_pos List.getLast?_concat, dropped]
      -- the slash is the last one, or the first one of those that `front` ends in
      cases tail with
      | nil =>
        rw [List.append_nil] at parts
        exact ⟨[], by rw [← parts]⟩
      | cons c rest =>
        obtain rfl : c = '/' := by simpa using slashes c List.mem_cons_self
        refine ⟨rest ++ ['/'], ?_⟩
        conv_lhs => rw [parts]
        rw [List.append_assoc, List.cons_append]
    · have kept : Text.dropEnd (· == '/') (front ++ [last]) = front ++ [last] :=
        Text.dropEnd_append_singleton _ front last (by simpa using slash)
      rw [if_neg (by simpa using slash), kept]
      exact ⟨[], rfl⟩

namespace Diff

theorem isWithin_of_isUnder {path name : String} (h : Store.isUnder path true name = true) :
    isWithin path name = true := by
  obtain ⟨rest, start⟩ := Store.exists_pathStart path
  have below : (Store.pathStart path).isPrefixOf name.toList = true := by
    simpa [Store.isUnder] using h
  obtain ⟨tail, eq⟩ := List.isPrefixOf_iff_prefix.1 below
  rw [start, List.append_assoc, List.cons_append] at eq
  simp [isWithin, ← eq]

/-! ## Sets of names -/

theorem mem_addTo {s : NameSet} {names : List String} {name : String} :
    name ∈ (addTo s names).names ↔ name ∈ names ∨ name ∈ s.names := NameSet.mem_names_foldl_add

theorem contains_iff {s : NameSet} {name : String} : s.contains name = true ↔ name ∈ s.names :=
  NameMap.mem_names.symm

end Diff

/-- The store lists a name under one of the paths. -/
def Store.Lists (s : Store) (paths : List String) (name : String) : Prop :=
  name ∈ s.names ∧ ∃ path ∈ paths, isUnder path true name = true

theorem Store.lists_singleton {s : Store} {path name : String} :
    s.Lists [path] name ↔ name ∈ s.names.filter (isUnder path true) := by
  simp [Lists, List.mem_filter]

theorem Store.lists_concat {s : Store} {paths : List String} {path name : String} :
    s.Lists (paths ++ [path]) name ↔ s.Lists paths name ∨ s.Lists [path] name := by
  simp only [Lists, List.mem_append, List.mem_singleton, or_and_right, exists_or, exists_eq_left,
    and_or_left]

/-- One of the paths holds a name that the store does not list under it. -/
def Store.Misses (s : Store) (paths : List String) (name : String) : Prop :=
  ∃ path ∈ paths, Diff.isWithin path name = true ∧ ¬s.Lists [path] name

theorem Store.misses_concat {s : Store} {paths : List String} {path name : String} :
    s.Misses (paths ++ [path]) name ↔
      s.Misses paths name ∨ Diff.isWithin path name = true ∧ ¬s.Lists [path] name := by
  simp only [Misses, List.mem_append, List.mem_singleton, or_and_right, exists_or, exists_eq_left]

/-! ## Comparisons -/

namespace Diff

/-- What a comparison says of the names that a store lists under some paths. -/
structure Finds (s : Store) (names : NameSet) (paths : List String) (d : Diff) : Prop where
  overwrite : ∀ name, name ∈ d.overwrite.names ↔ name ∈ names.names ∧ s.Lists paths name
  remove : ∀ name, name ∈ d.remove.names ↔ name ∉ names.names ∧ s.Lists paths name

/-- A comparison that has seen some paths. -/
structure Compares (s : Store) (names : NameSet) (paths : List String) (d : Diff) : Prop extends
    Finds s names paths d where
  add : ∀ name, name ∈ d.add.names ↔ name ∈ names.names ∧ s.Misses paths name

/-- A comparison that has seen all paths: the names that none of them lists are added, too. -/
structure Completes (s : Store) (names : NameSet) (paths : List String) (d : Diff) : Prop extends
    Finds s names paths d where
  add : ∀ name, name ∈ d.add.names ↔
    name ∈ names.names ∧ (s.Misses paths name ∨ ¬s.Lists paths name)

def Predicts (d : Diff) (s : Store) (name : String) : Prop :=
  (name ∈ s.names ∧ name ∉ d.remove.names) ∨ name ∈ d.add.names ∨ name ∈ d.overwrite.names

variable {s : Store} {names : NameSet}

theorem Compares.start : Compares s names [] {} := by
  refine ⟨⟨fun name => ?_, fun name => ?_⟩, fun name => ?_⟩ <;>
    simp [Store.Lists, Store.Misses, NameMap.names, NameMap.empty]

/-- One more path adds what the store lists under it. -/
theorem Compares.step {paths : List String} {d : Diff} (h : Compares s names paths d)
    (path : String) :
    Compares s names (paths ++ [path])
      (d.compare names path (s.names.filter (Store.isUnder path true))) := by
  have stored : ∀ name, name ∈ (NameSet.ofList (s.names.filter (Store.isUnder path true))).names ↔
      s.Lists [path] name := fun name => NameSet.mem_names_ofList.trans Store.lists_singleton.symm
  have within : ∀ name, s.Lists [path] name → isWithin path name = true := by
    rintro name ⟨-, path', hp, below⟩
    exact isWithin_of_isUnder (List.mem_singleton.1 hp ▸ below)
  unfold Diff.compare
  refine ⟨⟨fun name => ?_, fun name => ?_⟩, fun name => ?_⟩
  · have below := within name
    simp only [mem_addTo, List.mem_filter, contains_iff, stored, h.overwrite, Store.lists_concat]
    tauto
  · have below := within name
    simp only [mem_addTo, List.mem_filter, Bool.not_eq_true', ← Bool.not_eq_true, stored,
      List.contains_iff_mem, h.remove, Store.lists_concat]
    tauto
  · simp only [mem_addTo, List.mem_filter, Bool.not_eq_true', ← Bool.not_eq_true, contains_iff,
      stored, h.add, Store.misses_concat]
    tauto

theorem Compares.run (paths : List String) :
    Compares s names paths (paths.foldl
      (fun d path => d.compare names path (s.names.filter (Store.isUnder path true))) {}) := by
  induction paths using List.reverseRecOn with
  | nil => exact .start
  | append_singleton paths path ih =>
    rw [List.foldl_concat]
    exact ih.step path

variable {paths : List String} {d : Diff}

theorem Compares.complete (h : Compares s names paths d) :
    Completes s names paths (d.complete names) := by
  refine ⟨⟨h.overwrite, h.remove⟩, fun name => ?_⟩
  unfold Diff.complete
  simp only [mem_addTo, List.mem_filter, Bool.and_eq_true, Bool.not_eq_true', ← Bool.not_eq_true,
    contains_iff, h.overwrite, h.remove, h.add]
  tauto

theorem Completes.mem_names (h : Completes s names paths d) {name : String} :
    name ∈ d.add.names ∨ name ∈ d.overwrite.names ↔ name ∈ names.names := by
  rw [h.add, h.overwrite]
  tauto

/-- The names that no path lists are those that are neither overwritten nor removed. -/
theorem Completes.not_lists (h : Completes s names paths d) {name : String} :
    ¬s.Lists paths name ↔ name ∉ d.overwrite.names ∧ name ∉ d.remove.names := by
  rw [h.overwrite, h.remove]
  tauto

/-- What is predicted are the names of the document and those that no path lists. -/
theorem Completes.predicts (h : Completes s names paths d) {name : String} :
    d.Predicts s name ↔ name ∈ names.names ∨ name ∈ s.names ∧ ¬s.Lists paths name := by
  rw [Predicts, h.mem_names, h.remove]
  tauto

end Diff

/-! ## The client -/

namespace Client

section
variable {s : Store} {Q : PutRequest → Prop} (kept : Store.Kept Q s)
include kept

theorem yields_namesUnder {rules : List Rule} (path : String) :
    Yields (Reading s rules) (namesUnder path)
      (.ok (s.names.filter (Store.isUnder path true))) :=
  (yields_getPath_names kept path).map Listing.toNames

/-- The client compares names with what the store lists. -/
theorem yields_diffPaths (rules : List Rule) (paths names : List String) :
    ∃ d, Yields (Reading s rules) (diffPaths paths names) (.ok d) ∧
      d.Completes s (.ofList names) paths := by
  have compared : Yields (Reading s rules)
      (paths.foldlM (fun d path => do
        return Diff.compare (.ofList names) d path (← namesUnder path)) {}) (.ok _) :=
    .foldlM fun path _ d => (yields_namesUnder kept path).bind (.pure _)
  exact ⟨_, compared.bind (.pure _), (Diff.Compares.run paths).complete⟩

end

/-- Take a store that was empty once and was changed by puts and deletions, and any paths and names of a
document. The names to overwrite are those of the document that the store lists under a path, those to
remove are listed and not of the document, and those of the document are added or overwritten. A name is
both if one path lists it and another one holds it without listing it. -/
theorem diffPaths_classifies {s₀ : Store} (empty : s₀.history = .empty)
    (changes : List Store.Change) (paths names : List String) {c : Client}
    (working : c.backend.failing = []) (store : c.backend.store = s₀.changed changes) :
    ∃ d t, (diffPaths paths names).runOn c = (.ok d, t) ∧
      (∀ name, name ∈ d.overwrite.names ↔
        name ∈ names ∧ (s₀.changed changes).Lists paths name) ∧
      (∀ name, name ∈ d.remove.names ↔
        name ∉ names ∧ (s₀.changed changes).Lists paths name) ∧
      (∀ name, name ∈ d.add.names ∨ name ∈ d.overwrite.names ↔ name ∈ names) ∧
      (∀ name, name ∈ d.add.names ∧ name ∈ d.overwrite.names ↔
        name ∈ names ∧ (s₀.changed changes).Lists paths name ∧
          (s₀.changed changes).Misses paths name) ∧
      d.add.names.Pairwise (· < ·) ∧ d.overwrite.names.Pairwise (· < ·) ∧
      d.remove.names.Pairwise (· < ·) := by
  have kept : Store.Kept (fun _ => True) (s₀.changed changes) :=
    Store.kept_changed empty fun _ _ => trivial
  obtain ⟨d, yields, completes⟩ := yields_diffPaths kept c.rules paths names
  obtain ⟨t, run, -⟩ := yields.runOn ⟨working, store, rfl⟩
  have overwrite := completes.overwrite
  have remove := completes.remove
  have add := completes.add
  have all : ∀ name, name ∈ d.add.names ∨ name ∈ d.overwrite.names ↔
      name ∈ (NameSet.ofList names).names := fun _ => completes.mem_names
  simp only [NameSet.mem_names_ofList] at overwrite remove add all
  refine ⟨d, t, run, overwrite, remove, all, fun name => ?_, d.add.names_sorted,
    d.overwrite.names_sorted, d.remove.names_sorted⟩
  rw [add, overwrite]
  tauto

/-- Two values, one of them written twice. -/
def twoChanges : List Store.Change := [
  .put { name := "/app/db", kind := .string, value := "x" },
  .put { name := "/app/db/host", kind := .string, value := "y" },
  .put { name := "/app/db", kind := .string, value := "z", overwrite := true }]

/-- They are compared under two paths that overlap. -/
theorem diffPaths_classifies_overlapping :
    ∃ d t, (diffPaths ["/app", "/app/db/"] ["/app/db/host", "/new"]).runOn (holding twoChanges) =
        (.ok d, t) ∧
      ∀ name, name ∈ d.add.names ∨ name ∈ d.overwrite.names ↔ name ∈ ["/app/db/host", "/new"] := by
  have empty : ({} : Store).history = .empty := rfl
  obtain ⟨d, t, run, -, -, all, -⟩ := diffPaths_classifies empty twoChanges
    ["/app", "/app/db/"] ["/app/db/host", "/new"] (c := holding twoChanges) rfl rfl
  exact ⟨d, t, run, all⟩

/-- A name that is one of the paths and lies under another one is added and overwritten. -/
theorem diffPaths_nested :
    ((diffPaths ["/app", "/app/db"] ["/app/db"]).runOn (holding twoChanges)).1.map
      (fun d => (d.add.names, d.overwrite.names, d.remove.names)) =
        .ok (["/app/db"], ["/app/db"], ["/app/db/host"]) := by
  decide +kernel

end Client

end ParamFile
