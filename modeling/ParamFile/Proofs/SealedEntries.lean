import Mathlib.Data.List.Nodup
import ParamFile.Document.Sealed
import ParamFile.Proofs.Emission
import ParamFile.Proofs.Memory

/-!
# Sealed entries

A client that seals values into a document (`Document.sealAll`) asks for one ciphertext after the other, so
if no call fails, the result is `Document.sealedAll` (`Document.meets_sealAll`). What this is, compared with
the document before, says `Document.Sealing`: the entries of other names stay what they are
(`besides_sealedAll`) and where they are (`keys_sealedAll`), and under each name that is given stands the
entry that was there, with the ciphertext of the value that is given last (`get?_sealedAll`).
-/

namespace ParamFile

open Yaml

/-! ## Fields besides some -/

namespace Yaml.Mapping

/-- The entries with other keys than these names. -/
def besides (m : Mapping) (names : List String) : Mapping :=
  m.filter fun e => e.1 ∉ names.map Value.string

variable {m : Mapping} {name other : String} {names : List String}

theorem mem_besides {e : Value × Value} :
    e ∈ m.besides names ↔ e ∈ m ∧ e.1 ∉ names.map Value.string := by
  rw [besides, List.mem_filter, decide_eq_true_iff]

theorem besides_cons (e : Value × Value) (rest : Mapping) (names : List String) :
    besides (e :: rest) names =
      if e.1 ∈ names.map Value.string then rest.besides names else e :: rest.besides names := by
  rw [besides, List.filter_cons]
  by_cases given : e.1 ∈ names.map Value.string
  · simp only [given, not_true, decide_false, Bool.false_eq_true, if_false, if_true, besides]
  · simp only [given, not_false_eq_true, decide_true, if_true, if_false, besides]

theorem besides_insert (h : name ∈ names) (m : Mapping) (v : Value) :
    (m.insert name v).besides names = m.besides names := by
  have given : Value.string name ∈ names.map Value.string := List.mem_map_of_mem h
  fun_induction insert m name v with
  | case1 => rw [besides_cons, if_pos given]
  | case2 w rest => rw [besides_cons, if_pos given, besides_cons, if_pos given]
  | case3 k w rest ne ih => rw [besides_cons, ih, besides_cons]
  | case4 e rest notString ih => rw [besides_cons, ih, besides_cons]

theorem insert_insert_self (m : Mapping) (name : String) (v w : Value) :
    (m.insert name v).insert name w = m.insert name w := by
  fun_induction insert m name v with
  | case1 => simp [insert]
  | case2 u rest => simp [insert]
  | case3 k u rest ne ih => simp [insert, ne, ih]
  | case4 e rest notString ih =>
    rw [insert, ih, insert]
    · exact notString
    · exact notString

/-- Another field is set before or after one that is there. -/
theorem insert_comm (ne : name ≠ other) (there : (m.get? name).isSome = true) (v w : Value) :
    (m.insert other w).insert name v = (m.insert name v).insert other w := by
  fun_induction insert m name v with
  | case1 => cases there
  | case2 u rest => simp [insert, ne]
  | case3 k u rest ne' ih =>
    rw [get?, if_neg ne'] at there
    by_cases same : k = other
    · simp [insert, same, Ne.symm ne]
    · simp [insert, same, ne', ih there]
  | case4 e rest notString ih =>
    rw [get?] at there
    · rw [insert, insert, insert, ih there] <;> exact notString
    · exact notString

end Yaml.Mapping

namespace Document

/-! ## One entry -/

def ownFields : Value → Mapping
  | .map m => m
  | _ => []

/-- The entry is a mapping below a tag. -/
def IsTaggedMapping (v : Value) : Prop := v.isMapping = true ∧ ∀ m, v ≠ .map m

/-- Fields with a ciphertext and its key put among them. -/
def sealedFields (ciphertext keyId : String) (own : Mapping) : Mapping :=
  (own.insert ciphertextField (.string ciphertext)).insert keyField (.string keyId)

section
variable (ciphertext keyId : String) {v : Value} (own : Mapping)

theorem sealEntry_eq (h : ¬ IsTaggedMapping v) :
    sealEntry ciphertext keyId v = .map (sealedFields ciphertext keyId (ownFields v)) := by
  unfold sealEntry
  split
  · rfl
  · rename_i other
    rw [if_neg fun mapping => h ⟨mapping, other⟩, ownFields]
    · rfl
    · exact other

theorem sealEntry_of_tagged (h : IsTaggedMapping v) : sealEntry ciphertext keyId v = v := by
  unfold sealEntry
  split
  · exact absurd rfl (h.2 _)
  · exact if_pos h.1

theorem get?_sealedFields (field : String) :
    (sealedFields ciphertext keyId own).get? field =
      if field = keyField then some (.string keyId)
      else if field = ciphertextField then some (.string ciphertext) else own.get? field := by
  rw [sealedFields, Mapping.get?_insert, Mapping.get?_insert]

theorem besides_sealedFields :
    (sealedFields ciphertext keyId own).besides [ciphertextField, keyField] =
      own.besides [ciphertextField, keyField] := by
  rw [sealedFields, Mapping.besides_insert (by simp), Mapping.besides_insert (by simp)]

/-- A ciphertext stands where the one before it did. -/
theorem sealedFields_again (earlier : String) :
    sealedFields ciphertext keyId (sealedFields earlier keyId own) =
      sealedFields ciphertext keyId own := by
  have moved : (((own.insert ciphertextField (.string earlier)).insert keyField
        (.string keyId)).insert ciphertextField (.string ciphertext)) =
      ((own.insert ciphertextField (.string earlier)).insert ciphertextField
        (.string ciphertext)).insert keyField (.string keyId) :=
    Mapping.insert_comm (by decide) (by simp) _ _
  rw [sealedFields, sealedFields, moved, Mapping.insert_insert_self, Mapping.insert_insert_self,
    sealedFields]

theorem sealEntry_again (earlier : String) (v : Value) :
    sealEntry ciphertext keyId (sealEntry earlier keyId v) = sealEntry ciphertext keyId v := by
  by_cases tagged : IsTaggedMapping v
  · rw [sealEntry_of_tagged _ _ tagged]
  · have plain (m : Mapping) : ¬ IsTaggedMapping (.map m) := fun h => h.2 m rfl
    rw [sealEntry_eq _ _ tagged, sealEntry_eq _ _ tagged, sealEntry_eq _ _ (plain _), ownFields,
      sealedFields_again]

end

/-! ## Many entries -/

/-- The value that is given last under a name. -/
def lastGiven (values : List (String × String)) (name : String) : Option String :=
  values.reverse.lookup name

/-- The document with all values put into it, one after the other, each as its ciphertext. -/
def sealedAll (keyId : String) (values : List (String × String)) (m : Mapping) : Mapping :=
  values.foldl (fun m e => sealName m e.1 (Cipher.sealed e.2 keyId) keyId) m

/-- The names that are given and not there yet, in the order in which they are given first. -/
def added (values : List (String × String)) (m : Mapping) : List String :=
  (values.map (·.1)).eraseDups.filter fun name => (m.get? name).isNone

section
variable {values : List (String × String)}

theorem lastGiven_concat (values : List (String × String)) (e : String × String) (name : String) :
    lastGiven (values ++ [e]) name = if name = e.1 then some e.2 else lastGiven values name := by
  obtain ⟨k, v⟩ := e
  rw [lastGiven, List.reverse_concat, List.lookup_cons, lastGiven]
  by_cases same : name = k
  · simp [same]
  · rw [beq_eq_false_iff_ne.2 same, if_neg same]

theorem isSome_lastGiven {name : String} :
    (lastGiven values name).isSome = true ↔ name ∈ values.map (·.1) := by
  induction values using List.reverseRecOn with
  | nil => simp [lastGiven]
  | append_singleton values e ih =>
    rw [lastGiven_concat, List.map_append, List.mem_append, ← ih]
    by_cases same : name = e.1 <;> simp [same]

variable (keyId : String) (m : Mapping)

theorem sealedAll_concat (values : List (String × String)) (e : String × String) :
    sealedAll keyId (values ++ [e]) m =
      sealName (sealedAll keyId values m) e.1 (Cipher.sealed e.2 keyId) keyId := by
  rw [sealedAll, List.foldl_concat, ← sealedAll]

/-- A name has the entry that it had, sealed with the value that is given last. -/
theorem get?_sealedAll (name : String) :
    (sealedAll keyId values m).get? name =
      match lastGiven values name with
      | some plaintext =>
        some (sealEntry (Cipher.sealed plaintext keyId) keyId ((m.get? name).getD .null))
      | none => m.get? name := by
  induction values using List.reverseRecOn with
  | nil => rfl
  | append_singleton values e ih =>
    rw [sealedAll_concat, sealName, Mapping.get?_insert, lastGiven_concat]
    split
    · rename_i same
      subst same
      rw [ih]
      cases lastGiven values e.1 with
      | none => rfl
      | some earlier => exact congrArg some (sealEntry_again _ _ _ _)
    · exact ih

theorem besides_sealedAll :
    (sealedAll keyId values m).besides (values.map (·.1)) = m.besides (values.map (·.1)) := by
  have step {names : List String} (given : ∀ name ∈ values.map (·.1), name ∈ names) :
      (sealedAll keyId values m).besides names = m.besides names := by
    induction values using List.reverseRecOn with
    | nil => rfl
    | append_singleton values e ih =>
      rw [sealedAll_concat, sealName, Mapping.besides_insert (given _ (by simp))]
      exact ih fun name h => given name (by simp [List.mem_map.1 h])
  exact step fun _ h => h

theorem isSome_get?_sealedAll {name : String} :
    ((sealedAll keyId values m).get? name).isSome = true ↔
      name ∈ values.map (·.1) ∨ (m.get? name).isSome = true := by
  rw [get?_sealedAll, ← isSome_lastGiven]
  cases lastGiven values name with
  | none => simp
  | some plaintext => simp

theorem added_concat (values : List (String × String)) (e : String × String) :
    added (values ++ [e]) m =
      if e.1 ∈ values.map (·.1) ∨ (m.get? e.1).isSome = true then added values m
      else added values m ++ [e.1] := by
  rw [added, List.map_append, List.map_singleton, OrderedMap.eraseDups_concat]
  by_cases listed : e.1 ∈ values.map (·.1)
  · rw [if_pos listed, if_pos (.inl listed), added]
  · rw [if_neg listed, List.filter_append]
    cases there : m.get? e.1 with
    | none => simp [there, added, listed]
    | some v => simp [there, added, listed]

theorem keys_sealedAll :
    (sealedAll keyId values m).map (·.1) = m.map (·.1) ++ (added values m).map .string := by
  induction values using List.reverseRecOn with
  | nil => simp [sealedAll, added]
  | append_singleton values e ih =>
    rw [sealedAll_concat, sealName, keys_insert, added_concat]
    simp only [isSome_get?_sealedAll]
    split
    · exact ih
    · rw [ih, List.append_assoc, List.map_append, List.map_singleton]

end

/-! ## The document as a whole -/

/-- What becomes of a document when values are put into it. -/
structure Sealing (keyId : String) (values : List (String × String)) (m m' : Mapping) : Prop where
  /-- Every entry keeps its place, and new ones stand behind them in the order of first mention. -/
  order : m'.map (·.1) = m.map (·.1) ++ (added values m).map .string
  others : m'.besides (values.map (·.1)) = m.besides (values.map (·.1))
  /-- An entry that is given a value keeps all other fields. -/
  given : ∀ name plaintext, lastGiven values name = some plaintext →
    ¬ IsTaggedMapping ((m.get? name).getD .null) → ∃ fields : Mapping, m'.get? name = some (.map fields) ∧
      fields.get? ciphertextField = some (.string (Cipher.sealed plaintext keyId)) ∧
      fields.get? keyField = some (.string keyId) ∧
      fields.besides [ciphertextField, keyField] =
        (ownFields ((m.get? name).getD .null)).besides [ciphertextField, keyField]
  /-- A mapping below a tag stays as it is, though it is given a value. -/
  tagged : ∀ name, IsTaggedMapping ((m.get? name).getD .null) → m'.get? name = m.get? name

theorem sealing_sealedAll (keyId : String) (values : List (String × String)) (m : Mapping) :
    Sealing keyId values m (sealedAll keyId values m) where
  order := keys_sealedAll keyId m
  others := besides_sealedAll keyId m
  given name plaintext last plain := by
    refine ⟨_, ?_, ?_, ?_, besides_sealedFields (Cipher.sealed plaintext keyId) keyId _⟩
    · rw [get?_sealedAll, last]
      exact congrArg some (sealEntry_eq _ _ plain)
    · exact get?_sealedFields _ _ _ ciphertextField
    · exact get?_sealedFields _ _ _ keyField
  tagged name tagged := by
    rw [get?_sealedAll]
    cases lastGiven values name with
    | none => rfl
    | some plaintext =>
      dsimp only
      rw [sealEntry_of_tagged _ _ tagged]
      cases there : m.get? name with
      | none =>
        rw [there] at tagged
        cases tagged.1
      | some v => rfl

theorem Sealing.nodup {keyId : String} {values : List (String × String)} {m m' : Mapping}
    (h : Sealing keyId values m m') (nodup : (m.map (·.1)).Nodup) : (m'.map (·.1)).Nodup := by
  have names : ((added values m).map Value.string).Nodup :=
    List.Nodup.map (fun _ _ => Value.string.inj) ((OrderedMap.nodup_eraseDups _).filter _)
  rw [h.order, List.nodup_append]
  refine ⟨nodup, names, ?_⟩
  rintro _ old _ new rfl
  obtain ⟨name, there, rfl⟩ := List.mem_map.1 new
  have absent : m.get? name = none := by simpa using (List.mem_filter.1 there).2
  rw [← isSome_get?, absent] at old
  cases old

end Document

/-! ## The client that seals -/

namespace Client

/-- What the client remembers is what this store says, while these calls fail. -/
def Recalling (s : Store) (failing : List Call) (c : Client) : Prop :=
  Recalls s c ∧ c.backend.failing = failing

variable {s : Store} {failing : List Call}

theorem meets_ask {q : Question} (free : q.KeysFree) :
    Action.Meets (Recalling s failing) q.ask (fun x => q.answer s = .ok x)
      (fun e => q.answer s = .error e ∨ ∃ call ∈ q.calls, call ∈ failing ∧ e = injected call) := by
  rintro c ⟨recalls, rfl⟩
  obtain ⟨r, t, ran, asked⟩ := recalls.asked free
  rw [ran]
  refine ⟨?_, asked.recalls, asked.failing⟩
  rcases asked.result with rfl | ⟨call, hc, fails, rfl⟩
  · cases answer : q.answer s with
    | ok x => exact rfl
    | error e => exact .inl rfl
  · exact .inr ⟨call, hc, fails, rfl⟩

end Client

open Document in
/-- Sealing fails only if a call to encrypt does. -/
theorem Document.meets_sealAll {s : Store} {failing : List Call} {keyId : String}
    (free : Cipher.separator ∉ keyId.toList) (values : List (String × String)) (m : Mapping) :
    Action.Meets (Client.Recalling s failing) (sealAll keyId values m)
      (· = sealedAll keyId values m)
      (fun e => .encrypt ∈ failing ∧ e = Client.injected .encrypt) := by
  induction values generalizing m with
  | nil => exact .pure rfl
  | cons e rest ih =>
    obtain ⟨name, plaintext⟩ := e
    have ask : Action.Meets (Client.Recalling s failing) (Client.encrypt plaintext keyId)
        (fun x => x = Cipher.sealed plaintext keyId)
        (fun e => .encrypt ∈ failing ∧ e = Client.injected .encrypt) := by
      refine (Client.meets_ask (q := .encrypt plaintext keyId) free).mono (fun x answer => ?_)
        fun e failed => ?_
      · cases answer
        rfl
      · rcases failed with answer | ⟨call, hc, fails, rfl⟩
        · cases answer
        · obtain rfl := List.mem_singleton.1 hc
          exact ⟨fails, rfl⟩
    refine ask.bind fun ciphertext same => ?_
    subst same
    exact ih _

end ParamFile
