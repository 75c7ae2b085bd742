/-!
# Maps from names in lexicographic order

A map whose entries are sorted by name, without duplicates. Its view is `get?`: `get?_insert` and
`get?_erase` say what the operations do to it, and `ext_get?` that it determines the map.
-/

namespace ParamFile

/-- A map from names, its entries in the order of the names. -/
structure NameMap (α : Type) where
  entries : List (String × α) := []
  /-- The names are in ascending order, so none occurs twice. -/
  sorted : (entries.map (·.1)).Pairwise (· < ·) := by simp

namespace NameMap

variable {α : Type}

instance : Inhabited (NameMap α) := ⟨{}⟩

def empty : NameMap α := {}

def names (m : NameMap α) : List String := m.entries.map (·.1)

def values (m : NameMap α) : List α := m.entries.map (·.2)

def size (m : NameMap α) : Nat := m.entries.length

/-! ## Lists of entries -/

def find? (name : String) : List (String × α) → Option α
  | [] => none
  | (k, v) :: rest => if k = name then some v else find? name rest

/-- Puts an entry in its place. -/
def place (name : String) (value : α) : List (String × α) → List (String × α)
  | [] => [(name, value)]
  | (k, v) :: rest =>
    if name < k then (name, value) :: (k, v) :: rest
    else if k = name then (name, value) :: rest
    else (k, v) :: place name value rest

theorem mem_names_place {name k : String} {value : α} {l : List (String × α)} :
    k ∈ (place name value l).map (·.1) ↔ k = name ∨ k ∈ l.map (·.1) := by
  fun_induction place name value l with
  | case1 => simp
  | case2 => simp
  | case3 v rest _ => simp
  | case4 k' v rest _ _ ih => simp [ih, or_left_comm]

theorem place_sorted (name : String) (value : α) {l : List (String × α)}
    (h : (l.map (·.1)).Pairwise (· < ·)) : ((place name value l).map (·.1)).Pairwise (· < ·) := by
  fun_induction place name value l with
  | case1 => simp
  | case2 k v rest lt =>
    simp only [List.map_cons, List.pairwise_cons] at h ⊢
    refine ⟨fun x hx => ?_, h⟩
    rcases List.mem_cons.1 hx with rfl | hx
    · exact lt
    · exact String.lt_trans lt (h.1 x hx)
  | case3 v rest => simpa using h
  | case4 k v rest lt ne ih =>
    simp only [List.map_cons, List.pairwise_cons] at h ⊢
    refine ⟨fun x hx => ?_, ih h.2⟩
    rcases mem_names_place.1 hx with rfl | hx
    · exact Decidable.byContradiction fun nlt =>
        ne (String.le_antisymm (String.not_lt.1 lt) (String.not_lt.1 nlt))
    · exact h.1 x hx

theorem find?_eq_none {name : String} {l : List (String × α)} :
    find? name l = none ↔ name ∉ l.map (·.1) := by
  fun_induction find? name l with
  | case1 => simp
  | case2 v rest => simp
  | case3 k v rest ne ih => simp [ih, Ne.symm ne]

theorem find?_place (name other : String) (value : α) (l : List (String × α)) :
    find? other (place name value l) = if other = name then some value else find? other l := by
  fun_induction place name value l with
  | case1 => simp [find?, eq_comm]
  | case2 k v rest lt => simp only [find?, eq_comm (a := name)]
  | case3 v rest =>
    by_cases h : name = other
    · subst h; simp [find?]
    · simp [find?, h, Ne.symm h]
  | case4 k v rest lt ne ih =>
    by_cases h : k = other
    · subst h; simp [find?, ne]
    · simp [find?, h, ih]

theorem find?_filter_ne (name other : String) (l : List (String × α)) :
    find? other (l.filter (·.1 ≠ name)) = if other = name then none else find? other l := by
  induction l with
  | nil => simp [find?]
  | cons e rest ih =>
    obtain ⟨k, v⟩ := e
    by_cases h : k = name
    · subst h
      by_cases h' : other = k
      · simp_all
      · simp_all [find?, Ne.symm h']
    · by_cases h' : k = other
      · subst h'; simp [find?, h]
      · simp_all [find?]

/-! ## Operations -/

def get? (m : NameMap α) (name : String) : Option α := find? name m.entries

def contains (m : NameMap α) (name : String) : Bool := (m.get? name).isSome

def insert (m : NameMap α) (name : String) (value : α) : NameMap α :=
  ⟨place name value m.entries, place_sorted name value m.sorted⟩

def erase (m : NameMap α) (name : String) : NameMap α :=
  ⟨m.entries.filter (·.1 ≠ name), m.sorted.sublist (List.filter_sublist.map _)⟩

/-- The map of some entries, of which later ones replace earlier ones. -/
def ofList (l : List (String × α)) : NameMap α := l.foldl (fun m e => m.insert e.1 e.2) empty

@[simp] theorem get?_empty (name : String) : (empty : NameMap α).get? name = none := rfl

@[grind =] theorem get?_insert (m : NameMap α) (name other : String) (value : α) :
    (m.insert name value).get? other = if other = name then some value else m.get? other :=
  find?_place name other value m.entries

@[simp] theorem get?_insert_self (m : NameMap α) (name : String) (value : α) :
    (m.insert name value).get? name = some value := by simp [get?_insert]

/-- An erased name has no value, and all others keep theirs. -/
@[grind =] theorem get?_erase (m : NameMap α) (name other : String) :
    (m.erase name).get? other = if other = name then none else m.get? other :=
  find?_filter_ne name other m.entries

theorem mem_names {m : NameMap α} {name : String} : name ∈ m.names ↔ (m.get? name).isSome := by
  rw [← Decidable.not_iff_not, Option.not_isSome_iff_eq_none]
  exact find?_eq_none.symm

theorem mem_names_insert {m : NameMap α} {name k : String} {value : α} :
    k ∈ (m.insert name value).names ↔ k = name ∨ k ∈ m.names := mem_names_place

theorem names_sorted (m : NameMap α) : m.names.Pairwise (· < ·) := m.sorted

theorem mem_entries_iff {name : String} {v : α} {l : List (String × α)}
    (h : (l.map (·.1)).Pairwise (· < ·)) : (name, v) ∈ l ↔ find? name l = some v := by
  fun_induction find? name l with
  | case1 => simp
  | case2 w rest =>
    simp only [List.map_cons, List.pairwise_cons] at h
    constructor
    · intro hm
      rcases List.mem_cons.1 hm with eq | hm
      · cases eq; rfl
      · exact absurd (h.1 name (List.mem_map.2 ⟨_, hm, rfl⟩)) (String.lt_irrefl name)
    · rintro ⟨⟩; simp
  | case3 k w rest ne ih =>
    simp only [List.map_cons, List.pairwise_cons] at h
    simp [← ih h.2, Ne.symm ne]

/-- An entry is listed exactly if its name has its value. -/
theorem mem_entries {m : NameMap α} {name : String} {v : α} :
    (name, v) ∈ m.entries ↔ m.get? name = some v := mem_entries_iff m.sorted

theorem entries_ext {l l' : List (String × α)} (h : (l.map (·.1)).Pairwise (· < ·))
    (h' : (l'.map (·.1)).Pairwise (· < ·)) (eq : ∀ name, find? name l = find? name l') : l = l' := by
  induction l generalizing l' with
  | nil =>
    cases l' with
    | nil => rfl
    | cons e rest => have := eq e.1; simp [find?] at this
  | cons e rest ih =>
    cases l' with
    | nil => have := eq e.1; simp [find?] at this
    | cons e' rest' =>
      obtain ⟨k, v⟩ := e
      obtain ⟨k', v'⟩ := e'
      simp only [List.map_cons, List.pairwise_cons] at h h'
      have here := eq k
      have there := eq k'
      have same : k = k' := by
        by_cases ne : k' = k
        · exact ne.symm
        · simp only [find?, if_true, if_neg ne] at here
          simp only [find?, if_true, if_neg (Ne.symm ne)] at there
          have up := h'.1 k (List.mem_map.2 ⟨_, (mem_entries_iff h'.2).2 here.symm, rfl⟩)
          have down := h.1 k' (List.mem_map.2 ⟨_, (mem_entries_iff h.2).2 there, rfl⟩)
          exact absurd down (String.lt_asymm up)
      subst same
      simp only [find?, if_true, Option.some.injEq] at here
      subst here
      congr 1
      apply ih h.2 h'.2
      intro name
      by_cases hn : k = name
      · subst hn
        have left : find? k rest = none :=
          find?_eq_none.2 fun hm => String.lt_irrefl k (h.1 k hm)
        have right : find? k rest' = none :=
          find?_eq_none.2 fun hm => String.lt_irrefl k (h'.1 k hm)
        rw [left, right]
      · have := eq name
        simpa [find?, hn] using this

/-- Two maps that read the same are the same. -/
theorem ext_get? {m m' : NameMap α} (eq : ∀ name, m.get? name = m'.get? name) : m = m' := by
  have := entries_ext m.sorted m'.sorted eq
  cases m; cases m'; cases this; rfl

end NameMap

abbrev NameSet := NameMap Unit

namespace NameSet

def add (s : NameSet) (name : String) : NameSet := NameMap.insert s name ()

/-- The set of some names. -/
def ofList (names : List String) : NameSet := names.foldl add NameMap.empty

theorem mem_names_add {s : NameSet} {name k : String} :
    k ∈ (s.add name).names ↔ k = name ∨ k ∈ s.names := NameMap.mem_names_insert

theorem mem_names_foldl_add {names : List String} {s : NameSet} {k : String} :
    k ∈ (names.foldl add s).names ↔ k ∈ names ∨ k ∈ s.names := by
  induction names generalizing s with
  | nil => simp
  | cons n rest ih => rw [List.foldl_cons, ih, mem_names_add]; simp [or_left_comm, or_assoc]

/-- A set holds exactly the names it was made of. -/
@[simp] theorem mem_names_ofList {names : List String} {k : String} :
    k ∈ (ofList names).names ↔ k ∈ names := by
  rw [ofList, mem_names_foldl_add]
  simp [NameMap.names, NameMap.empty]

end NameSet

end ParamFile
