import ParamFile.Proofs.Entries
import ParamFile.Proofs.Grouping

/-!
# What is compiled

Compiling goes through the parameters in document order. Each of them is skipped or emits its name with
the fields of its dump (`Emits`), and what was emitted is written behind the paths to flush
(`compileEntries_ok`). Names are known only now, and a name that was there before is written over.

`emitted_of_compile` says what is in the document then: the paths first, and every name that was emitted
once, with the fields that came last. It lists exactly what was emitted if no two names are the same and
none is the key of the paths.
-/

namespace ParamFile

open Yaml ParamFile.Action

/-! ## Dumps -/

theorem Parameter.dump_split {p : Parameter} {b : Bindings} {c c' : Client} {m : Mapping} :
    (p.dump b).runOn c = (.ok m, c') ↔
      ∃ name fields c₁, (p.readName b).runOn c = (.ok name, c₁) ∧
        (p.dumpFields b).runOn c₁ = (.ok fields, c') ∧
        m = (.string "Name", .string name) :: fields := by
  constructor
  · intro h
    obtain ⟨name, c₁, named, h⟩ := runOn_bind_ok h
    obtain ⟨fields, c₂, dumped, h⟩ := runOn_bind_ok h
    cases h
    exact ⟨name, fields, c₁, named, dumped, rfl⟩
  · rintro ⟨name, fields, c₁, named, dumped, rfl⟩
    rw [dump, runOn_bind_of_ok named, runOn_bind_of_ok dumped]
    rfl

namespace Document

variable {b : Bindings} {ignoreDisabled : Bool}

/-! ## Emitting -/

/-- What some parameters emit, each behind the calls that those before it made: a name with the fields of
a dump, or nothing for a parameter that is left out. -/
inductive Emits (b : Bindings) (ignoreDisabled : Bool) :
    List Parameter → Client → List (String × Mapping) → Client → Prop
  | done (c : Client) : Emits b ignoreDisabled [] c [] c
  | skipped {p : Parameter} {rest : List Parameter} {c d c' : Client}
      {entries : List (String × Mapping)}
      (left : (skips b ignoreDisabled p).runOn c = (.ok true, d))
      (later : Emits b ignoreDisabled rest d entries c') :
      Emits b ignoreDisabled (p :: rest) c entries c'
  | emitted {p : Parameter} {rest : List Parameter} {c d e c' : Client} {name : String}
      {fields : Mapping} {entries : List (String × Mapping)}
      (kept : (skips b ignoreDisabled p).runOn c = (.ok false, d))
      (dumped : (p.dump b).runOn d = (.ok ((.string "Name", .string name) :: fields), e))
      (later : Emits b ignoreDisabled rest e entries c') :
      Emits b ignoreDisabled (p :: rest) c ((name, fields) :: entries) c'

theorem Emits.unique {ps : List Parameter} {c c' c'' : Client}
    {entries entries' : List (String × Mapping)} (h : Emits b ignoreDisabled ps c entries c')
    (h' : Emits b ignoreDisabled ps c entries' c'') : entries = entries' := by
  induction h generalizing entries' c'' with
  | done => cases h'; rfl
  | skipped left _ ih =>
    cases h' with
    | skipped left' later' =>
      cases left.symm.trans left'
      exact ih later'
    | emitted kept' => cases left.symm.trans kept'
  | emitted kept dumped _ ih =>
    cases h' with
    | skipped left' => cases kept.symm.trans left'
    | emitted kept' dumped' later' =>
      cases kept.symm.trans kept'
      cases dumped.symm.trans dumped'
      rw [ih later']

/-- Parameters are compiled exactly if they can be emitted, and what they emit is written. -/
theorem compileEntries_ok {ps : List Parameter} {m D : Mapping} {c c' : Client} :
    (compileEntries b ignoreDisabled ps m).runOn c = (.ok D, c') ↔
      ∃ entries, Emits b ignoreDisabled ps c entries c' ∧ D = withEntries m entries := by
  induction ps generalizing m c with
  | nil =>
    constructor
    · intro h
      cases h
      exact ⟨[], .done _, rfl⟩
    · rintro ⟨entries, emits, rfl⟩
      cases emits
      rfl
  | cons p rest ih =>
    rw [compileEntries_cons]
    constructor
    · intro h
      obtain ⟨skipped, c₁, read, h⟩ := runOn_bind_ok h
      cases skipped with
      | true =>
        obtain ⟨entries, emits, eq⟩ := ih.1 h
        exact ⟨entries, .skipped read emits, eq⟩
      | false =>
        obtain ⟨name, c₂, named, h⟩ := runOn_bind_ok h
        obtain ⟨fields, c₃, dumped, h⟩ := runOn_bind_ok h
        obtain ⟨entries, emits, eq⟩ := ih.1 h
        have dump := Parameter.dump_split.2 ⟨name, fields, c₂, named, dumped, rfl⟩
        exact ⟨(name, fields) :: entries, .emitted read dump emits, eq⟩
    · rintro ⟨entries, emits, rfl⟩
      cases emits with
      | skipped left later =>
        rw [runOn_bind_of_ok left]
        exact ih.2 ⟨entries, later, rfl⟩
      | emitted kept dumped later =>
        obtain ⟨name, fields, c₂, named, dumped, eq⟩ := Parameter.dump_split.1 dumped
        cases eq
        rw [runOn_bind_of_ok kept]
        simp only [Bool.false_eq_true, if_false]
        rw [runOn_bind_of_ok named, runOn_bind_of_ok dumped]
        exact ih.2 ⟨_, later, rfl⟩

/-! ## What was emitted as a document -/

def listed (entries : List (String × Mapping)) : Mapping :=
  entries.map fun e => (.string e.1, .map e.2)

def flushNames (paths : List String) : List String := if paths.isEmpty then [] else [flushKey]

theorem nodup_flushNames (paths : List String) : (flushNames paths).Nodup := by
  unfold flushNames
  split <;> simp

theorem keys_flushEntry (paths : List String) :
    (flushEntry paths).map (·.1) = (flushNames paths).map .string := by
  rcases paths with _ | ⟨path, _ | ⟨other, rest⟩⟩ <;> rfl

theorem mem_map_string {name : String} {names : List String} :
    Value.string name ∈ names.map .string ↔ name ∈ names :=
  List.mem_map_of_injective fun _ _ => Value.string.inj

theorem keys_listed (entries : List (String × Mapping)) :
    (listed entries).map (·.1) = (entries.map (·.1)).map .string := by
  rw [listed, List.map_map, List.map_map]
  rfl

theorem keys_insert (m : Mapping) (name : String) (v : Value) :
    (m.insert name v).map (·.1) =
      if (m.get? name).isSome then m.map (·.1) else m.map (·.1) ++ [.string name] := by
  fun_induction Mapping.insert m name v with
  | case1 => rfl
  | case2 => simp [Mapping.get?]
  | case3 k w rest ne ih =>
    rw [List.map_cons, ih, Mapping.get?, if_neg ne]
    split <;> rfl
  | case4 e rest notString ih =>
    rw [List.map_cons, ih, Mapping.get?]
    · split <;> rfl
    · exact notString

theorem get?_withEntries (m : Mapping) (entries : List (String × Mapping)) (name : String) :
    (withEntries m entries).get? name =
      (Mapping.get? (listed entries).reverse name).or (m.get? name) := by
  have put : withEntries m entries = override m (listed entries) := by
    rw [withEntries, override, listed, List.foldl_map]
  rw [put, get?_override_last]

theorem keys_withEntries {m : Mapping} {names : List String} (keys : m.map (·.1) = names.map .string)
    (nodup : names.Nodup) (entries : List (String × Mapping)) :
    (withEntries m entries).map (·.1) =
      (names ++ entries.map (·.1)).eraseDups.map .string := by
  induction entries using List.reverseRecOn with
  | nil => rw [List.map_nil, List.append_nil, OrderedMap.eraseDups_of_nodup nodup]; exact keys
  | append_singleton entries e ih =>
    rw [withEntries_concat, keys_insert, ih, List.map_append, ← List.append_assoc, List.map_singleton,
      OrderedMap.eraseDups_concat]
    have known : ((withEntries m entries).get? e.1).isSome = true ↔
        e.1 ∈ names ++ entries.map (·.1) := by
      rw [isSome_get?, ih, mem_map_string, List.mem_eraseDups]
    by_cases there : e.1 ∈ names ++ entries.map (·.1)
    · rw [if_pos (known.2 there), if_pos there]
    · rw [if_neg (mt known.1 there), if_neg there, List.map_append, List.map_singleton]

theorem flushSection_flushEntry (paths : List String) :
    flushSection (flushEntry paths) = .ok paths := by
  have alone : flushSection (written paths []) = .ok paths :=
    flushSection_written (List.forall_mem_nil _) paths
  rwa [written, List.map_nil, List.append_nil] at alone

/-- Whatever is written behind the paths does not touch them unless it has their key. -/
theorem flushSection_withEntries (paths : List String) {entries : List (String × Mapping)}
    (other : flushKey ∉ entries.map (·.1)) :
    flushSection (withEntries (flushEntry paths) entries) = .ok paths := by
  have absent : Mapping.get? (listed entries).reverse flushKey = none := by
    refine get?_eq_none_of_notMem ?_
    rw [List.map_reverse, List.mem_reverse, keys_listed, mem_map_string]
    exact other
  rw [← flushSection_flushEntry paths, flushSection, flushSection, get?_withEntries, absent]
  rfl

/-- The document lists exactly what was emitted if all its names are different, and only then. -/
theorem withEntries_eq_listed (paths : List String) (entries : List (String × Mapping)) :
    withEntries (flushEntry paths) entries = flushEntry paths ++ listed entries ↔
      (flushNames paths ++ entries.map (·.1)).Nodup := by
  constructor
  · intro eq
    have keys := keys_withEntries (keys_flushEntry paths) (nodup_flushNames paths) entries
    rw [eq, List.map_append, keys_flushEntry, keys_listed, ← List.map_append] at keys
    rw [List.map_injective_iff.2 (fun _ _ => Value.string.inj) keys]
    exact OrderedMap.nodup_eraseDups _
  · intro nodup
    obtain ⟨-, names, apart⟩ := List.nodup_append.1 nodup
    refine withEntries_of_nodup names fun e he => get?_eq_none_of_notMem ?_
    rw [keys_flushEntry, mem_map_string]
    exact fun flush => apart _ flush _ (List.mem_map_of_mem he) rfl

/-- What a document that was compiled holds. The paths to flush that were read stand first; the names that
the parameters emitted stand behind them in document order, each with what was emitted for it last. So it
lists the paths and one entry for each parameter that is not left out exactly if no two of them have one
name, and none has the key of the paths. -/
theorem emitted_of_compile {r : Resolved} {includeFlush : Bool} {c c' : Client} {D : Mapping}
    (compiled : (r.compile includeFlush ignoreDisabled).runOn c = (.ok D, c')) :
    ∃ paths c₁ entries, (r.readListed includeFlush).runOn c = (.ok paths, c₁) ∧
      Emits r.bindings ignoreDisabled r.list c₁ entries c' ∧
      D.map (·.1) = (flushNames paths ++ entries.map (·.1)).eraseDups.map .string ∧
      (∀ name, D.get? name =
        (Mapping.get? (listed entries).reverse name).or ((flushEntry paths).get? name)) ∧
      (D = flushEntry paths ++ listed entries ↔ (flushNames paths ++ entries.map (·.1)).Nodup) ∧
      (flushKey ∉ entries.map (·.1) → flushSection D = .ok paths) := by
  rw [Resolved.compile_eq] at compiled
  obtain ⟨paths, c₁, read, compiled⟩ := runOn_bind_ok compiled
  obtain ⟨entries, emits, rfl⟩ := compileEntries_ok.1 compiled
  exact ⟨paths, c₁, entries, read, emits,
    keys_withEntries (keys_flushEntry paths) (nodup_flushNames paths) entries,
    get?_withEntries _ entries, withEntries_eq_listed paths entries, flushSection_withEntries paths⟩

/-- A path to flush, a disabled parameter, and one whose name refers to a variable. -/
def regional : Resolved where
  parameters := ((OrderedMap.empty.insert "/app/a"
      { name := { text := "/app/a" }, content := some (.single { text := "x" }) }).insert "/app/old"
      { name := { text := "/app/old" }, disable := some (.flag true) }).insert "/app/$(Region)"
      { name := { text := "/app/$(Region)" }, kind := .stringList,
        content := some (.list [{ text := "u" }, { text := "v" }]) }
  flushPaths := ["/app"]
  bindings := NameMap.empty.insert "Region" (.builtIn .region)

/-- The names are different, so every parameter that is not disabled has its entry. -/
theorem emitted_of_compile_regional :
    ∃ D t, (regional.compile true true).runOn {} = (.ok D, t) ∧
      D = flushEntry ["/app"] ++ listed [
        ("/app/a", [(.string "Type", .string "String"), (.string "Value", .string "x")]),
        ("/app/us-east-1",
          [(.string "Type", .string "StringList"), (.string "Value", .string "u,v")])] ∧
      flushSection D = .ok ["/app"] := by
  have paths : (regional.readListed true).runOn {} = (.ok ["/app"], {}) := by with_unfolding_all rfl
  have emits : ∃ t, Emits regional.bindings true regional.list {} [
      ("/app/a", [(.string "Type", .string "String"), (.string "Value", .string "x")]),
      ("/app/us-east-1",
        [(.string "Type", .string "StringList"), (.string "Value", .string "u,v")])] t := by
    refine ⟨_, .emitted (d := {}) (e := {}) rfl (by with_unfolding_all rfl) (.skipped (d := {}) rfl
      (.emitted (d := {}) (e := { region := some "us-east-1", backend := { log := [.region] } }) rfl
        (by with_unfolding_all rfl) (.done _)))⟩
  obtain ⟨t', emits⟩ := emits
  have done : ((regional.compile true true).runOn {}).1.isOk = true := by decide +kernel
  obtain ⟨D, t, run⟩ := exists_of_isOk done
  obtain ⟨paths', c₁, entries, read, emits', -, -, lists, flushed⟩ := emitted_of_compile run
  cases paths.symm.trans read
  cases emits.unique emits'
  exact ⟨D, t, run, lists.2 (by decide), flushed (by decide)⟩

def colliding : Resolved where
  parameters := (OrderedMap.empty.insert "/us-east-1"
      { name := { text := "/us-east-1" }, content := some (.single { text := "x" }) }).insert "/$(Region)"
      { name := { text := "/$(Region)" }, content := some (.single { text := "y" }) }
  flushPaths := []
  bindings := NameMap.empty.insert "Region" (.builtIn .region)

/-- Neither parameter is left out, and one entry is written. -/
theorem emitted_names_collide :
    colliding.list.length = 2 ∧
      ∃ D t, (colliding.compile true false).runOn {} = (.ok D, t) ∧
        D = [(.string "/us-east-1",
          .map [(.string "Type", .string "String"), (.string "Value", .string "y")])] :=
  ⟨rfl, _, _, by with_unfolding_all rfl, rfl⟩

end Document

end ParamFile
