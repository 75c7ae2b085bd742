import ParamFile.Number.Decimal
import ParamFile.Text.Quoted

/-!
# Document trees

A tree is a scalar, a sequence, a mapping or a tagged tree. The entries of a mapping stand in a list,
because their order shows when a document is written; no two keys of a mapping that was read are the
same. Numbers are whole or binary floating point, and the two kinds differ also where they denote
the same number.

`Value.same` is the sameness of keys: the order of a mapping's entries does not count, the two zeros
are the same, and so are all undefined numbers. `Value.same_refl` says that it is reflexive, and
`Mapping.get?_insert` that a field reads as it was written last. Equality, which is finer, is decided by
`Value.equal`.
-/

namespace ParamFile.Yaml

open Number

/-- A number in a document. -/
inductive Numeral where
  | integer (n : Int)
  | real (x : Binary64)
  deriving DecidableEq, Repr, Inhabited

def Numeral.text : Numeral → String
  | .integer n => toString n
  | .real x => x.text

/-- Equality of numbers as keys. -/
def Numeral.same : Numeral → Numeral → Bool
  | .integer m, .integer n => m == n
  | .real x, .real y => x.same y
  | _, _ => false

/-- A document tree. -/
inductive Value where
  | null
  | bool (b : Bool)
  | number (n : Numeral)
  | string (s : String)
  | seq (items : List Value)
  | map (entries : List (Value × Value))
  /-- A tree with a tag, which is kept without its leading exclamation mark. -/
  | tagged (tag : String) (value : Value)
  deriving Repr, Inhabited

/-- The entries of a mapping in document order. -/
abbrev Mapping := List (Value × Value)

namespace Value

/-! ## Equality -/

mutual

def equal : Value → Value → Bool
  | .null, .null => true
  | .bool a, .bool b => a == b
  | .number a, .number b => a == b
  | .string a, .string b => a == b
  | .seq a, .seq b => equalItems a b
  | .map a, .map b => equalEntries a b
  | .tagged s a, .tagged t b => s == t && equal a b
  | _, _ => false

def equalItems : List Value → List Value → Bool
  | [], [] => true
  | a :: as, b :: bs => equal a b && equalItems as bs
  | _, _ => false

def equalEntries : List (Value × Value) → List (Value × Value) → Bool
  | [], [] => true
  | (k, v) :: as, (l, w) :: bs => equal k l && equal v w && equalEntries as bs
  | _, _ => false

end

mutual

theorem equal_iff (a b : Value) : equal a b = true ↔ a = b := by
  match a with
  | .null | .bool _ | .number _ | .string _ => cases b <;> simp [equal]
  | .seq items => cases b <;> simp [equal, equalItems_iff items]
  | .map entries => cases b <;> simp [equal, equalEntries_iff entries]
  | .tagged t v => cases b <;> simp [equal, equal_iff v]

theorem equalItems_iff (as bs : List Value) : equalItems as bs = true ↔ as = bs := by
  match as with
  | [] => cases bs <;> simp [equalItems]
  | a :: as => cases bs <;> simp [equalItems, equal_iff a, equalItems_iff as]

theorem equalEntries_iff (as bs : List (Value × Value)) : equalEntries as bs = true ↔ as = bs := by
  match as with
  | [] => cases bs <;> simp [equalEntries]
  | (k, v) :: as =>
    cases bs <;> simp [equalEntries, Prod.ext_iff, equal_iff k, equal_iff v, equalEntries_iff as]

end

instance : DecidableEq Value := fun a b => decidable_of_iff _ (equal_iff a b)

/-! ## Sameness of keys -/

mutual

/-- Whether two trees count as the same key. -/
def same : Value → Value → Bool
  | .null, .null => true
  | .bool a, .bool b => a == b
  | .number a, .number b => a.same b
  | .string a, .string b => a == b
  | .seq a, .seq b => sameItems a b
  | .map a, .map b => a.length == b.length && sameEntries a b
  | .tagged s a, .tagged t b => s == t && same a b
  | _, _ => false

/-- Whether two sequences have the same items in the same order. -/
def sameItems : List Value → List Value → Bool
  | [], [] => true
  | a :: as, b :: bs => same a b && sameItems as bs
  | _, _ => false

/-- Whether every entry of one mapping is found in the other. -/
def sameEntries : List (Value × Value) → List (Value × Value) → Bool
  | [], _ => true
  | (k, v) :: rest, others =>
    others.any (fun other => same k other.1 && same v other.2) && sameEntries rest others

end

mutual

@[simp] theorem same_refl (v : Value) : same v v = true := by
  match v with
  | .null => rfl
  | .bool b => simp [same]
  | .number (.integer n) => simp [same, Numeral.same]
  | .number (.real x) => simp [same, Numeral.same]
  | .string s => simp [same]
  | .seq items => simpa [same] using sameItems_refl items
  | .map entries => simpa [same] using sameEntries_of_subset entries entries (fun _ h => h)
  | .tagged t v => simpa [same] using same_refl v

theorem sameItems_refl (items : List Value) : sameItems items items = true := by
  match items with
  | [] => rfl
  | v :: rest => simp [sameItems, same_refl v, sameItems_refl rest]

/-- Entries are found among others that hold them. -/
theorem sameEntries_of_subset (entries others : List (Value × Value)) (h : entries ⊆ others) :
    sameEntries entries others = true := by
  match entries with
  | [] => rfl
  | (k, v) :: rest =>
    have here : (k, v) ∈ others := h (by simp)
    have tail : sameEntries rest others = true :=
      sameEntries_of_subset rest others (fun x hx => h (List.mem_cons_of_mem _ hx))
    simp only [sameEntries, tail, Bool.and_true, List.any_eq_true]
    exact ⟨(k, v), here, by simp [same_refl k, same_refl v]⟩

end

/-! ## Views -/

/-- The tree below all tags. -/
def untagged : Value → Value
  | .tagged _ v => v.untagged
  | v => v

/-- The text of a string, below tags. -/
def asString? (v : Value) : Option String :=
  match v.untagged with
  | .string s => some s
  | _ => none

/-- The text of a scalar other than null, below no tag. -/
def scalarText? : Value → Option String
  | .string s => some s
  | .number n => some n.text
  | .bool b => some (if b then "true" else "false")
  | _ => none

def isMapping (v : Value) : Bool :=
  match v.untagged with
  | .map _ => true
  | _ => false

def isNull : Value → Bool
  | .null => true
  | _ => false

/-! ## Text for reports -/

mutual

/-- The text of a tree in a report, which names the kind of each part. -/
def describe : Value → String
  | .null => "Null"
  | .bool b => "Bool(" ++ (if b then "true" else "false") ++ ")"
  | .number n => "Number(" ++ n.text ++ ")"
  | .string s => "String(" ++ Text.Quoted.quote s ++ ")"
  | .seq items => "Sequence [" ++ ", ".intercalate (describeItems items) ++ "]"
  | .map entries => "Mapping \x7b" ++ ", ".intercalate (describeEntries entries) ++ "\x7d"
  | .tagged t v => "TaggedValue \x7b tag: !" ++ t ++ ", value: " ++ describe v ++ " \x7d"

def describeItems : List Value → List String
  | [] => []
  | v :: rest => describe v :: describeItems rest

/-- The texts of some entries; scalar keys stand without their kind. -/
def describeEntries : List (Value × Value) → List String
  | [] => []
  | (k, v) :: rest =>
    let key := match k with
      | .bool b => if b then "true" else "false"
      | .number n => n.text
      | .string s => Text.Quoted.quote s
      | k => describe k
    (key ++ ": " ++ describe v) :: describeEntries rest

end

end Value

/-! ## Fields of a mapping -/

namespace Mapping

def get? (m : Mapping) (name : String) : Option Value :=
  match m with
  | [] => none
  | (.string k, v) :: rest => if k = name then some v else get? rest name
  | _ :: rest => get? rest name

/-- The mapping with a field set: in its place if the field is there, at the end otherwise. -/
def insert (m : Mapping) (name : String) (value : Value) : Mapping :=
  match m with
  | [] => [(.string name, value)]
  | (.string k, v) :: rest =>
    if k = name then (.string k, value) :: rest else (.string k, v) :: insert rest name value
  | entry :: rest => entry :: insert rest name value

def erase (m : Mapping) (name : String) : Mapping :=
  m.filter fun entry => match entry.1 with
    | .string k => k ≠ name
    | _ => true

@[simp] theorem get?_nil (name : String) : get? [] name = none := rfl

/-- A field reads as it was written last. -/
theorem get?_insert (m : Mapping) (name other : String) (value : Value) :
    (m.insert name value).get? other = if other = name then some value else m.get? other := by
  fun_induction insert m name value with
  | case1 =>
    by_cases h : other = name
    · simp [get?, h]
    · simp [get?, h, Ne.symm h]
  | case2 v rest =>
    by_cases h : other = name
    · simp [get?, h]
    · simp [get?, h, Ne.symm h]
  | case3 k v rest h ih =>
    by_cases h' : k = other
    · subst h'; simp [get?, h]
    · simp [get?, h', ih]
  | case4 entry rest h ih =>
    obtain ⟨k, v⟩ := entry
    cases k <;> simp_all [get?]

@[simp] theorem get?_insert_self (m : Mapping) (name : String) (value : Value) :
    (m.insert name value).get? name = some value := by
  simp [get?_insert]

end Mapping

end ParamFile.Yaml
