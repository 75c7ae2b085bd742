import ParamFile.Proofs.EntryFields
import ParamFile.Proofs.Grouping

/-!
# Names of parameters

A parameter stands under the key of its entry, and its name is what the fields of the entry say
(`saidName`): the entry's own `Name`, else the shared one, else the key. In some documents that are merged
a key stands once, where it came up first, and its parameter is the one of the last entry for it
(`parameters_of_entries`); where no entry says another name than its key, the keys are the names.
-/

namespace ParamFile.Document

open Yaml

variable {o : LoadOptions}

/-! ## The name that an entry says -/

/-- The name that the fields of an entry say: their own, else the shared one, else its key. -/
def saidName (key : String) (common own : Mapping) : Option String :=
  ((Mapping.get? own.reverse "Name").or (Mapping.get? common.reverse "Name")).elim (some key)
    Value.scalarText?

theorem saidName_of_get? {key : String} {common own : Mapping}
    (shared : common.get? "Name" = none) (ownName : own.get? "Name" = none) :
    saidName key common own = some key := by
  rw [saidName, get?_reverse_eq_none shared, get?_reverse_eq_none ownName]
  rfl

theorem name_of_fragment {key : String} {common own : Mapping} {p : Parameter}
    (loaded : Parameter.ofFields o (fragment key common own) = .ok p) :
    ∃ text, saidName key common own = some text ∧ p.name = { text } := by
  obtain ⟨text, described⟩ := Parameter.ofFields_ok.1 loaded
  refine ⟨text, ?_, described.name_eq⟩
  have named := described.named
  rw [Parameter.textField, get?_fragment, if_pos rfl, ← Option.or_assoc] at named
  rw [saidName]
  cases said : (Mapping.get? own.reverse "Name").or (Mapping.get? common.reverse "Name") with
  | none =>
    rw [said] at named
    cases named
    rfl
  | some v =>
    rw [said] at named
    cases v <;> cases named <;> rfl

/-! ## Entries of a tree -/

/-- The key of an entry that describes a parameter. -/
def entryKey? (e : Value × Value) : Option String := e.1.scalarText?.filter (!isReserved ·)

/-- The keys of a tree that stand for parameters. -/
def entryKeys : Value → List String
  | .map root => root.filterMap entryKey?
  | _ => []

/-- The fields that a tree gives last under a key, and those that its entries share. -/
def Gives (tree : Value) (key : String) (common own : Mapping) : Prop :=
  ∃ root v, tree = .map root ∧ commonFields root = .ok common ∧ lastEntry root key = some v ∧
    entryFields key v = .ok own

theorem keys_addEntries {common entries : Mapping} {ps n : OrderedMap Parameter}
    (h : addEntries o common entries ps = .ok n) :
    n.keys = (ps.keys ++ entries.filterMap entryKey?).eraseDups := by
  induction entries generalizing ps with
  | nil =>
    cases h
    rw [List.filterMap_nil, List.append_nil]
    exact (OrderedMap.eraseDups_of_nodup n.nodup).symm
  | cons e rest ih =>
    obtain ⟨k, v⟩ := e
    rw [addEntries_cons] at h
    split at h
    · cases h
    · rename_i key named
      split at h
      · rename_i reserved
        have skipped : entryKey? (k, v) = none := by simp [entryKey?, named, reserved]
        rw [List.filterMap_cons_none skipped]
        exact ih h
      · rename_i notReserved
        obtain ⟨p, -, h⟩ := ok_of_bind h
        have there : entryKey? (k, v) = some key := by
          simp [entryKey?, named, notReserved]
        have nodup : ps.keys.Nodup := ps.nodup
        have inserted : (ps.insert key p).keys = (ps.keys ++ [key]).eraseDups := by
          rw [OrderedMap.keys_insert, OrderedMap.eraseDups_concat, OrderedMap.eraseDups_of_nodup nodup]
        rw [ih h, inserted, OrderedMap.eraseDups_append_left, List.filterMap_cons_some there,
          List.append_assoc, List.singleton_append]

theorem mem_entryKeys {tree : Value} {key : String} (h : key ∈ entryKeys tree) :
    isReserved key = false := by
  cases tree with
  | map root =>
    obtain ⟨e, -, eq⟩ := List.mem_filterMap.1 h
    simpa using (Option.filter_eq_some_iff.1 eq).2
  | _ => cases h

theorem keys_ofTree {tree : Value} {d : Document} (loaded : ofTree o tree = .ok d) :
    d.parameters.keys = (entryKeys tree).eraseDups := by
  cases tree with
  | map root =>
    obtain ⟨-, ⟨common, -, entries⟩, -⟩ := ofMapping_ok loaded
    exact keys_addEntries entries
  | null => cases loaded; rfl
  | _ => cases loaded

/-- A parameter is the one that the fields under its key describe. -/
theorem gives_of_get? {tree : Value} {d : Document} (loaded : ofTree o tree = .ok d) {key : String}
    {p : Parameter} (there : d.parameters.get? key = some p) :
    key ∈ entryKeys tree ∧ ∃ common own, Gives tree key common own ∧
      Parameter.ofFields o (fragment key common own) = .ok p := by
  have listed : key ∈ entryKeys tree := by
    rw [← List.mem_eraseDups, ← keys_ofTree loaded, OrderedMap.mem_keys]
    exact ⟨p, there⟩
  cases tree with
  | map root =>
    obtain ⟨-, ⟨common, shared, entries⟩, -⟩ := ofMapping_ok loaded
    obtain ⟨last, absent⟩ := get?_addEntries entries (mem_entryKeys listed)
    cases said : lastEntry root key with
    | none =>
      rw [absent said] at there
      cases there
    | some v =>
      obtain ⟨q, hq, eq⟩ := last v said
      cases there.symm.trans eq
      obtain ⟨own, fields, described⟩ := ok_of_bind hq
      exact ⟨listed, common, own, ⟨root, v, rfl, shared, said, fields⟩, described⟩
  | _ => cases listed

/-! ## Merged documents -/

section
variable {trees : List Value} {ds : List Document}
  (read : List.Forall₂ (fun tree d => ofTree o tree = .ok d) trees ds) {key : String}
include read

theorem keys_of_read :
    (ds.flatMap (·.parameters.keys)).eraseDups = (trees.flatMap entryKeys).eraseDups := by
  induction read with
  | nil => rfl
  | cons loaded _ ih =>
    rw [List.flatMap_cons, List.flatMap_cons, keys_ofTree loaded, OrderedMap.eraseDups_append_left,
      ← OrderedMap.eraseDups_append_eraseDups, ih, OrderedMap.eraseDups_append_eraseDups]

theorem notMem_entryKeys_of_absent (absent : ds.filterMap (·.parameters.get? key) = []) :
    ∀ tree ∈ trees, key ∉ entryKeys tree := by
  induction read with
  | nil => exact List.forall_mem_nil _
  | @cons tree d trees ds loaded _ ih =>
    rw [List.filterMap_eq_nil_iff, List.forall_mem_cons] at absent
    refine List.forall_mem_cons.2 ⟨fun listed => ?_, ih (List.filterMap_eq_nil_iff.2 absent.2)⟩
    rw [← List.mem_eraseDups, ← keys_ofTree loaded, OrderedMap.mem_keys] at listed
    obtain ⟨p, there⟩ := listed
    rw [absent.1] at there
    cases there

/-- The last definition among some documents is the one of the last tree that gives one. -/
theorem exists_last {p : Parameter}
    (last : (ds.filterMap (·.parameters.get? key)).getLast? = some p) :
    ∃ front tree rest d, trees = front ++ tree :: rest ∧ ofTree o tree = .ok d ∧
      d.parameters.get? key = some p ∧ ∀ later ∈ rest, key ∉ entryKeys later := by
  induction read with
  | nil => cases last
  | @cons tree d trees ds loaded read ih =>
    rw [List.filterMap_cons] at last
    cases behind : (ds.filterMap (·.parameters.get? key)).getLast? with
    | some q =>
      have same : q = p := by
        cases here : d.parameters.get? key <;> simp_all [List.getLast?_cons]
      obtain ⟨front, tree', rest, d', eq, found⟩ := ih (same ▸ behind)
      exact ⟨tree :: front, tree', rest, d', by rw [eq]; rfl, found⟩
    | none =>
      -- no document behind this one gives a definition
      have absent := List.getLast?_eq_none_iff.1 behind
      cases here : d.parameters.get? key with
      | none =>
        rw [here, absent] at last
        cases last
      | some _ =>
        rw [here, absent] at last
        cases last
        exact ⟨[], tree, trees, d, rfl, loaded, here, notMem_entryKeys_of_absent read absent⟩

end

/-- The parameter is the one that the last entry for its key describes, in the last tree that has one, and
has the name that this entry says. -/
def DescribedLast (o : LoadOptions) (trees : List Value) (key : String) (p : Parameter) : Prop :=
  ∃ front tree rest common own text, trees = front ++ tree :: rest ∧ key ∈ entryKeys tree ∧
    (∀ later ∈ rest, key ∉ entryKeys later) ∧ Gives tree key common own ∧
    Parameter.ofFields o (fragment key common own) = .ok p ∧
    saidName key common own = some text ∧ p.name = { text }

/-- In documents that are merged, the parameters stand under the keys of the entries, each once and where
it came up first, and each as it is described last. If every entry says its key as the name, the names are
the keys, and no two parameters share one. -/
theorem parameters_of_entries {trees : List Value} {g : Grouping}
    (read : trees.mapM (ofTree o) = .ok g.documents) {d : Document} (merged : g.merged = .ok d) :
    d.parameters.keys = (trees.flatMap entryKeys).eraseDups ∧
    (∀ key p, d.parameters.get? key = some p → DescribedLast o trees key p) ∧
    ((∀ tree ∈ trees, ∀ key ∈ entryKeys tree, ∀ common own, Gives tree key common own →
        saidName key common own = some key) →
      (∀ key p, d.parameters.get? key = some p → p.name = { text := key }) ∧
      d.parameters.values.map (·.name.text) = d.parameters.keys ∧
      (d.parameters.values.map (·.name.text)).Nodup) := by
  have read := mapM_ok.1 read
  obtain ⟨-, names, definitions, -⟩ := (g.unites_of_merged merged).1
  have described : ∀ key p, d.parameters.get? key = some p → DescribedLast o trees key p := by
    intro key p there
    rw [definitions] at there
    obtain ⟨front, tree, rest, e, eq, loaded, here, later⟩ := exists_last read there
    obtain ⟨listed, common, own, given, describes⟩ := gives_of_get? loaded here
    obtain ⟨text, said, name⟩ := name_of_fragment describes
    exact ⟨front, tree, rest, common, own, text, eq, listed, later, given, describes, said, name⟩
  refine ⟨names.trans (keys_of_read read), described, fun unnamed => ?_⟩
  have named : ∀ key p, d.parameters.get? key = some p → p.name = { text := key } := by
    intro key p there
    obtain ⟨front, tree, rest, common, own, text, rfl, listed, -, given, -, said, name⟩ :=
      described key p there
    rw [unnamed tree (by simp) key listed common own given] at said
    cases said
    exact name
  have texts : d.parameters.values.map (·.name.text) = d.parameters.keys := by
    rw [OrderedMap.values, OrderedMap.keys, List.map_map]
    refine List.map_congr_left fun e mem => ?_
    rw [Function.comp_apply, named e.1 e.2 (OrderedMap.mem_entries.1 mem)]
  exact ⟨named, texts, texts ▸ d.parameters.nodup⟩

/-- The second tree gives one key again, and shares a field that is no name. -/
def redefining : List Value := [
  .map [(.string "/a", .string "x"), (.string "/b", .string "y")],
  .map [(.string ".COMMON", .map [(.string "Description", .string "shared")]),
    (.string "/c", .string "z"), (.string "/a", .seq [.string "u", .string "v"])]]

/-- The key given again stays in its place, with the later definition. -/
theorem parameters_of_redefining :
    ∃ a b d p, redefining.mapM (ofTree {}) = .ok [a, b] ∧ a.merge b = .ok d ∧
      d.parameters.keys = ["/a", "/b", "/c"] ∧
      d.parameters.values.map (·.name.text) = ["/a", "/b", "/c"] ∧
      d.parameters.get? "/a" = some p ∧ p.name = { text := "/a" } ∧ p.kind = .stringList := by
  obtain ⟨a, b, d, p, read, merged, there, kind⟩ : ∃ a b d p,
      redefining.mapM (ofTree {}) = .ok [a, b] ∧ a.merge b = .ok d ∧
      d.parameters.get? "/a" = some p ∧ p.kind = .stringList :=
    ⟨_, _, _, _, rfl, rfl, rfl, rfl⟩
  obtain ⟨keys, -, named⟩ :=
    parameters_of_entries (g := .both (.one a) (.one b)) read merged
  have unnamed : ∀ tree ∈ redefining, ∀ key ∈ entryKeys tree, ∀ common own,
      Gives tree key common own → saidName key common own = some key := by
    refine List.forall_mem_cons.2 ⟨?_, List.forall_mem_cons.2 ⟨?_, List.forall_mem_nil _⟩⟩
    · intro key listed common own ⟨root, v, tree, shared, last, fields⟩
      cases tree
      cases shared
      obtain _ | ⟨_, _ | ⟨_, ⟨⟩⟩⟩ : key ∈ ["/a", "/b"] := listed
      all_goals
        cases last
        cases fields
        exact saidName_of_get? rfl rfl
    · intro key listed common own ⟨root, v, tree, shared, last, fields⟩
      cases tree
      cases shared
      obtain _ | ⟨_, _ | ⟨_, ⟨⟩⟩⟩ : key ∈ ["/c", "/a"] := listed
      all_goals
        cases last
        cases fields
        exact saidName_of_get? rfl rfl
  obtain ⟨name, names, -⟩ := named unnamed
  have keys : d.parameters.keys = ["/a", "/b", "/c"] := keys.trans (by decide +kernel)
  exact ⟨a, b, d, p, read, merged, keys, names.trans keys, there, name _ _ there, kind⟩

/-- A field of the entry says another name, which then is that of two parameters. -/
theorem renamed_entry :
    ∃ d p q, ofTree {} (.map [
        (.string "/a", .map [(.string "Name", .string "/b"), (.string "Value", .string "x")]),
        (.string "/b", .string "y")]) = .ok d ∧
      d.parameters.get? "/a" = some p ∧ d.parameters.get? "/b" = some q ∧
      p.name = { text := "/b" } ∧ q.name = { text := "/b" } :=
  ⟨_, _, _, rfl, rfl, rfl, rfl, rfl⟩

end ParamFile.Document
