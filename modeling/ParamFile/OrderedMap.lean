/-!
# Maps from names in the order of first mention

A map whose entries keep the place at which their name came up first, also when they get another
value. `get?_insert` says what giving a value does, `keys_insert` where the name stands.
-/

namespace ParamFile

/-- A map from names, its entries in the order in which the names came up. -/
structure OrderedMap (α : Type) where
  entries : List (String × α) := []
  /-- No name occurs twice. -/
  nodup : (entries.map (·.1)).Nodup := by simp

namespace OrderedMap

variable {α : Type}

instance : Inhabited (OrderedMap α) := ⟨{}⟩

def empty : OrderedMap α := {}

def keys (m : OrderedMap α) : List String := m.entries.map (·.1)

def values (m : OrderedMap α) : List α := m.entries.map (·.2)

def size (m : OrderedMap α) : Nat := m.entries.length

/-! ## Lists of entries -/

def find? (name : String) : List (String × α) → Option α
  | [] => none
  | (k, v) :: rest => if k = name then some v else find? name rest

/-- Gives a value to a name, in its place or at the end. -/
def place (name : String) (value : α) : List (String × α) → List (String × α)
  | [] => [(name, value)]
  | (k, v) :: rest => if k = name then (name, value) :: rest else (k, v) :: place name value rest

theorem keys_place (name : String) (value : α) (l : List (String × α)) :
    (place name value l).map (·.1) =
      if name ∈ l.map (·.1) then l.map (·.1) else l.map (·.1) ++ [name] := by
  fun_induction place name value l with
  | case1 => simp
  | case2 v rest => simp
  | case3 k v rest ne ih =>
    by_cases h : name ∈ rest.map (·.1)
    · simp [ih, h]
    · simp [ih, h, Ne.symm ne]

theorem place_nodup (name : String) (value : α) {l : List (String × α)} (h : (l.map (·.1)).Nodup) :
    ((place name value l).map (·.1)).Nodup := by
  rw [keys_place]
  split
  · exact h
  · rename_i absent
    rw [List.nodup_append]
    refine ⟨h, by simp, fun a ha b hb => ?_⟩
    rw [List.mem_singleton.1 hb]
    rintro rfl
    exact absent ha

theorem find?_place (name other : String) (value : α) (l : List (String × α)) :
    find? other (place name value l) = if other = name then some value else find? other l := by
  fun_induction place name value l with
  | case1 => simp [find?, eq_comm]
  | case2 v rest =>
    by_cases h : name = other
    · subst h; simp [find?]
    · simp [find?, h, Ne.symm h]
  | case3 k v rest ne ih =>
    by_cases h : k = other
    · subst h; simp [find?, ne]
    · simp [find?, h, ih]

/-! ## Operations -/

def get? (m : OrderedMap α) (name : String) : Option α := find? name m.entries

def insert (m : OrderedMap α) (name : String) (value : α) : OrderedMap α :=
  ⟨place name value m.entries, place_nodup name value m.nodup⟩

@[grind =] theorem get?_insert (m : OrderedMap α) (name other : String) (value : α) :
    (m.insert name value).get? other = if other = name then some value else m.get? other :=
  find?_place name other value m.entries

/-- A new name comes last, a known one stays in its place. -/
theorem keys_insert (m : OrderedMap α) (name : String) (value : α) :
    (m.insert name value).keys = if name ∈ m.keys then m.keys else m.keys ++ [name] :=
  keys_place name value m.entries

end OrderedMap

end ParamFile
