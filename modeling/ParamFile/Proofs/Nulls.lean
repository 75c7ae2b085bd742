import ParamFile.Proofs.Fields
import ParamFile.Proofs.Stated

/-!
# Null fields

Taking the null fields out of a mapping (`Mapping.withoutNulls`) leaves what its fields say
(`get?_withoutNulls`). Two readings look further than that: a null key id still makes a parameter of
unstated kind secret, which then has no key (`KeyNulled`), and a null `Disable` still keeps `Disabled`
from being read (`DisableNulled`). Where neither happens, a null field means an absent one, and only
there (`ofFields_withoutNulls`).

`ofFields_missingKeyId` says when a parameter is refused for want of a key; no other step gives that
error.
-/

namespace ParamFile

open Yaml

/-! ## Mappings without null fields -/

namespace Yaml.Mapping

def withoutNulls (m : Mapping) : Mapping := m.filter fun e => !e.2.isNull

theorem withoutNulls_cons (e : Value × Value) (rest : Mapping) :
    withoutNulls (e :: rest) =
      if e.2.isNull then withoutNulls rest else e :: withoutNulls rest := by
  cases h : e.2.isNull <;> simp [withoutNulls, h]

theorem get?_withoutNulls {m : Mapping} (distinct : (m.map (·.1)).Nodup) (name : String) :
    m.withoutNulls.get? name = m.stated name := by
  induction m with
  | nil => rfl
  | cons e rest ih =>
    obtain ⟨k, v⟩ := e
    simp only [List.map_cons, List.nodup_cons] at distinct
    have tail := ih distinct.2
    rw [withoutNulls_cons]
    cases k with
    | string k =>
      by_cases asked : k = name
      · subst asked
        have absent : get? rest k = none := Document.get?_eq_none_of_notMem distinct.1
        rw [stated, absent] at tail
        cases hv : v.isNull <;> simp [stated, get?, hv, tail, Option.filter]
      · cases hv : v.isNull <;> simpa [stated, get?, hv, asked] using tail
    | _ => cases hv : v.isNull <;> simpa [stated, get?, hv] using tail

/-- Taking null fields out leaves what the others say. -/
theorem stated_withoutNulls {m : Mapping} (distinct : (m.map (·.1)).Nodup) (name : String) :
    m.withoutNulls.stated name = m.stated name := by
  rw [stated, get?_withoutNulls distinct, stated, Option.filter_filter]
  simp

end Yaml.Mapping

namespace Parameter

variable {o : LoadOptions} {m : Mapping}

/-! ## Parameters without a key -/

/-- The step does not fail for want of a key. -/
def Keyed {α : Type} (x : Except Error α) : Prop := ∀ name, x ≠ .error (.missingKeyId name)

section
variable {α β : Type}

theorem Keyed.ok (a : α) : Keyed (.ok a : Except Error α) := fun _ h => by cases h

theorem Keyed.bind {x : Except Error α} {f : α → Except Error β} (hx : Keyed x)
    (hf : ∀ a, Keyed (f a)) : Keyed (x >>= f) := by
  intro name h
  cases x with
  | error e => exact hx name (by cases h; rfl)
  | ok a => exact hf a name h

theorem Keyed.map {x : Except Error α} (hx : Keyed x) (f : α → β) : Keyed (x.map f) :=
  hx.bind fun a => .ok (f a)

end

theorem keyed_textField (m : Mapping) (owner field : String) : Keyed (textField m owner field) := by
  intro name h
  rw [textField_eq] at h
  repeat' split at h
  all_goals cases h

theorem keyed_kindOf (m : Mapping) (owner : String) : Keyed (kindOf m owner) := by
  refine (keyed_textField m owner "Type").bind fun text? name h => ?_
  repeat' split at h
  all_goals cases h

theorem keyed_listItems (o : LoadOptions) (owner : String) (items : List Value) :
    Keyed (listItems o owner items) := by
  unfold listItems
  induction items with
  | nil => exact .ok _
  | cons v rest ih =>
    rw [List.mapM_cons]
    refine Keyed.bind (fun name h => ?_) fun _ => ih.bind fun _ => .ok _
    split at h <;> cases h

theorem keyed_plainContent (o : LoadOptions) (m : Mapping) (owner : String) :
    Keyed (plainContent o m owner) := by
  rw [plainContent_eq]
  split
  · exact .ok _
  · exact (keyed_listItems o owner _).map _
  · split
    · exact .ok _
    · exact fun _ h => by cases h

theorem keyed_contentOf (o : LoadOptions) (m : Mapping) (owner : String) (kind : Kind)
    (key : Option Template) : Keyed (contentOf o m owner kind key) := by
  unfold contentOf
  split
  · refine (keyed_textField m owner _).bind fun ciphertext => ?_
    split
    · exact .ok _
    · refine (keyed_textField m owner _).bind fun input => ?_
      split
      · split
        · exact .ok _
        · exact fun _ h => by cases h
      · refine (keyed_textField m owner _).bind fun value => ?_
        split
        · exact .ok _
        · split
          · exact .ok _
          · exact fun _ h => by cases h
  · exact (keyed_plainContent o m owner).map _

theorem keyed_overwriteOf (m : Mapping) (owner : String) : Keyed (overwriteOf m owner) := by
  intro name h
  rw [overwriteOf_eq] at h
  repeat' split at h
  all_goals cases h

theorem keyed_disableOf (o : LoadOptions) (m : Mapping) (owner : String) :
    Keyed (disableOf o m owner) := by
  intro name h
  unfold disableOf at h
  repeat' split at h
  all_goals cases h

/-- A parameter is refused for want of a key exactly if its kind is secret and no key is stated. -/
theorem ofFields_missingKeyId {name : String} :
    ofFields o m = .error (.missingKeyId name) ↔
      textField m "parameter" "Name" = .ok (some name) ∧ kindOf m name = .ok .secureString ∧
        m.stated "KeyId" = none := by
  rw [ofFields_eq]
  constructor
  · intro h
    cases hn : textField m "parameter" "Name" with
    | error e =>
      rw [hn] at h
      cases h
      exact absurd hn (keyed_textField m _ _ name)
    | ok name? =>
      rw [hn, ok_bind] at h
      cases name? with
      | none => cases h
      | some owner =>
        dsimp only at h
        cases hk : kindOf m owner with
        | error e =>
          rw [hk] at h
          cases h
          exact absurd hk (keyed_kindOf m owner name)
        | ok kind =>
          rw [hk, ok_bind] at h
          cases ht : textField m owner "KeyId" with
          | error e =>
            rw [ht] at h
            cases h
            exact absurd ht (keyed_textField m _ _ name)
          | ok key =>
            rw [ht, ok_bind] at h
            cases hc : checkKeyId owner kind (key.map o.template) with
            | ok _ =>
              -- no step behind the check fails like this
              rw [hc, ok_bind] at h
              refine absurd h (Keyed.bind (keyed_contentOf o m owner _ _) (fun _ => ?_) name)
              refine (keyed_textField m owner _).bind fun _ => ?_
              refine (keyed_textField m owner _).bind fun _ => ?_
              refine (keyed_overwriteOf m owner).bind fun _ => ?_
              exact (keyed_disableOf o m owner).bind fun _ => .ok _
            | error e =>
              rw [hc] at h
              cases h
              unfold checkKeyId at hc
              split at hc
              · rename_i secret none
                cases hc
                have absent : key = .none := by simpa using none
                rw [absent] at ht
                have kind_eq : kind = .secureString := (Kind.isSecure_iff kind).1 secret
                exact ⟨rfl, kind_eq ▸ hk, textField_eq_none.1 ht⟩
              · cases hc
              · cases hc
  · rintro ⟨hn, hk, none⟩
    rw [hn, ok_bind]
    dsimp only
    rw [hk, ok_bind, textField_eq_none.2 none, ok_bind]
    rfl

/-! ## Parameters without null fields -/

/-- The key id is null, and no kind is stated. -/
def KeyNulled (m : Mapping) : Prop := m.get? "KeyId" = some .null ∧ m.stated "Type" = none

/-- The one field for the condition is null, while the other says something. -/
def DisableNulled (m : Mapping) : Prop :=
  m.get? "Disable" = some .null ∧ (m.stated "Disabled").isSome = true

section
variable (distinct : (m.map (·.1)).Nodup)
include distinct

/-- Only the kind can change when null fields are taken out, and only that of a null key. -/
theorem kindOf_withoutNulls (h : ¬ KeyNulled m) (name : String) :
    kindOf m.withoutNulls name = kindOf m name := by
  refine kindOf_congr (Mapping.stated_withoutNulls distinct _)
    (Mapping.stated_withoutNulls distinct _) ?_ name
  rw [Mapping.stated_withoutNulls distinct, Mapping.get?_withoutNulls distinct]
  cases ht : m.stated "Type" with
  | some v => exact .inl rfl
  | none =>
    refine .inr ?_
    cases hk : m.get? "KeyId" with
    | none => rw [Mapping.stated, hk]; rfl
    | some v =>
      cases v with
      | null => exact absurd ⟨hk, ht⟩ h
      | _ => rw [Mapping.stated, hk]; rfl

/-- Unless its key is null, a parameter is read the same without null fields, apart from its
condition. -/
theorem ofFields_undisabled_withoutNulls (h : ¬ KeyNulled m) :
    ofFields o (undisabled m.withoutNulls) = ofFields o (undisabled m) :=
  ofFields_undisabled_congr (fun field _ _ => Mapping.stated_withoutNulls distinct field)
    (kindOf_withoutNulls distinct h)

theorem disableOf_withoutNulls (h : ¬ DisableNulled m) (name : String) :
    disableOf o m.withoutNulls name = disableOf o m name := by
  have first := Mapping.get?_withoutNulls distinct "Disable"
  have second := Mapping.get?_withoutNulls distinct "Disabled"
  rw [Mapping.stated] at first
  unfold disableOf
  rw [first, second]
  cases hd : m.get? "Disable" with
  | none =>
    rw [Mapping.stated]
    cases hs : m.get? "Disabled" with
    | none => rfl
    | some v => cases v <;> rfl
  | some v =>
    cases v with
    | null =>
      -- the null field stands before the other one, which says nothing
      have silent : m.stated "Disabled" = none := by
        rw [← Option.not_isSome_iff_eq_none]
        exact fun stated => h ⟨hd, stated⟩
      rw [silent]
      rfl
    | _ => rfl

/-- A null field keeps the other one from being read. -/
theorem disableOf_of_nulled (h : DisableNulled m) (name : String) :
    disableOf o m name = .ok none ∧ disableOf o m.withoutNulls name ≠ .ok none := by
  obtain ⟨null, stated⟩ := h
  obtain ⟨v, hv⟩ := Option.isSome_iff_exists.1 stated
  have first := Mapping.get?_withoutNulls distinct "Disable"
  have second := Mapping.get?_withoutNulls distinct "Disabled"
  rw [Mapping.stated, null] at first
  rw [hv] at second
  unfold disableOf
  refine ⟨by rw [null]; rfl, ?_⟩
  rw [first, second]
  cases v with
  | null =>
    have visible := (Option.filter_eq_some_iff.1 hv).2
    cases visible
  | string text => exact fun eq => by cases eq
  | bool b => exact fun eq => by cases eq
  | number n => cases n <;> exact fun eq => by cases eq
  | _ => exact fun eq => by cases eq

/-- A null key makes a parameter secret that has none; without null fields it is not. -/
theorem ofFields_of_keyNulled (h : KeyNulled m) {name : String}
    (named : textField m "parameter" "Name" = .ok (some name)) :
    ofFields o m = .error (.missingKeyId name) ∧
      ofFields o m.withoutNulls ≠ .error (.missingKeyId name) := by
  obtain ⟨null, untyped⟩ := h
  have keyless : m.stated "KeyId" = none := by rw [Mapping.stated, null]; rfl
  constructor
  · refine ofFields_missingKeyId.2 ⟨named, ?_, keyless⟩
    rw [kindOf_eq, textField_eq_none.2 untyped, null]
    rfl
  · intro missing
    obtain ⟨-, secret, -⟩ := ofFields_missingKeyId.1 missing
    rw [kindOf_eq, textField_eq_none.2 ((Mapping.stated_withoutNulls distinct _).trans untyped),
      Mapping.get?_withoutNulls distinct, keyless, ok_bind] at secret
    dsimp only [Option.isSome_none] at secret
    simp only [Bool.false_eq_true, if_false] at secret
    split at secret <;> cases secret

theorem ofFields_of_unnamed (unnamed : ∀ name, textField m "parameter" "Name" ≠ .ok (some name)) :
    ofFields o m.withoutNulls = ofFields o m := by
  rw [ofFields_eq, ofFields_eq, textField_congr (Mapping.stated_withoutNulls distinct "Name")]
  cases hn : textField m "parameter" "Name" with
  | error e => rfl
  | ok name? =>
    cases name? with
    | none => rfl
    | some name => exact absurd hn (unnamed name)

theorem not_keyNulled {p : Parameter} (loaded : ofFields o m = .ok p) : ¬ KeyNulled m := by
  intro key
  obtain ⟨name, d⟩ := ofFields_ok.1 loaded
  rw [(ofFields_of_keyNulled distinct key d.named).1] at loaded
  cases loaded

/-- Where the one condition is null, the other one is what null fields hide. -/
theorem ofFields_of_disableNulled (key : ¬ KeyNulled m) (h : DisableNulled m) :
    ofFields o m.withoutNulls = ofFields o m >>= fun p =>
      (disableOf o m.withoutNulls p.name.text).map p.withDisable := by
  have unset : ofFields o (undisabled m) = ofFields o m :=
    ofFields_of_get? (fun _ first second => get?_undisabled_of_ne first second m) fun name => by
      rw [disableOf_undisabled, (disableOf_of_nulled distinct h name).1]
  rw [ofFields_eq_disable, ofFields_undisabled_withoutNulls distinct key, unset]

theorem disable_of_disableNulled {p : Parameter} (h : DisableNulled m)
    (loaded : ofFields o m = .ok p) : p.disable = none := by
  obtain ⟨name, d⟩ := ofFields_ok.1 loaded
  have read := d.disable
  rw [(disableOf_of_nulled distinct h name).1] at read
  exact (Except.ok.inj read).symm

/-- Unless the key is null, null fields mean absent ones exactly if no condition stands behind a null
one, or there is no parameter that it could be the condition of. -/
theorem ofFields_withoutNulls_of_keyed (key : ¬ KeyNulled m) :
    ofFields o m.withoutNulls = ofFields o m ↔ ¬ (DisableNulled m ∧ (ofFields o m).isOk = true) := by
  by_cases condition : DisableNulled m
  · rw [ofFields_of_disableNulled distinct key condition]
    cases loaded : ofFields o m with
    | error e =>
      refine ⟨fun _ h => ?_, fun _ => rfl⟩
      cases h.2
    | ok p =>
      refine ⟨fun eq => ?_, fun h => absurd ⟨condition, rfl⟩ h⟩
      obtain ⟨disable, read, same⟩ := ok_of_map eq
      have unset : disable = none :=
        (congrArg Parameter.disable same).trans (disable_of_disableNulled distinct condition loaded)
      rw [unset] at read
      exact absurd read (disableOf_of_nulled distinct condition p.name.text).2
  · refine ⟨fun _ h => condition h.1, fun _ => ?_⟩
    rw [ofFields_eq_disable o m.withoutNulls, ofFields_eq_disable o m,
      ofFields_undisabled_withoutNulls distinct key]
    exact bind_congr fun p => by rw [disableOf_withoutNulls distinct condition]

/-- With null fields taken out a parameter is read as before, unless its key is null and its kind not
stated, or its condition stands behind a null one. In the first case it is refused for want of a key,
and in the second it is not disabled. -/
theorem ofFields_withoutNulls (o : LoadOptions) :
    (ofFields o m.withoutNulls = ofFields o m ↔
        ¬ (KeyNulled m ∧ ∃ name, textField m "parameter" "Name" = .ok (some name)) ∧
          ¬ (DisableNulled m ∧ (ofFields o m).isOk = true)) ∧
      (∀ name, KeyNulled m → textField m "parameter" "Name" = .ok (some name) →
        ofFields o m = .error (.missingKeyId name)) ∧
      ∀ p, DisableNulled m → ofFields o m = .ok p → p.disable = none ∧
        ofFields o m.withoutNulls = (disableOf o m.withoutNulls p.name.text).map p.withDisable := by
  refine ⟨?_, fun name key named => (ofFields_of_keyNulled distinct key named).1,
    fun p condition loaded => ⟨disable_of_disableNulled distinct condition loaded, ?_⟩⟩
  · by_cases key : KeyNulled m
    · have failed : ¬ (DisableNulled m ∧ (ofFields o m).isOk = true) := by
        rintro ⟨-, h⟩
        obtain ⟨p, loaded⟩ := ok_of_isOk h
        exact not_keyNulled distinct loaded key
      by_cases named : ∃ name, textField m "parameter" "Name" = .ok (some name)
      · obtain ⟨name, named⟩ := named
        obtain ⟨missing, other⟩ := ofFields_of_keyNulled (o := o) distinct key named
        exact ⟨fun eq => absurd (eq.trans missing) other, fun h => absurd ⟨key, name, named⟩ h.1⟩
      · have same := ofFields_of_unnamed (o := o) distinct fun name h => named ⟨name, h⟩
        exact ⟨fun _ => ⟨fun h => named h.2, failed⟩, fun _ => same⟩
    · rw [ofFields_withoutNulls_of_keyed distinct key]
      exact ⟨fun h => ⟨fun nulled => key nulled.1, h⟩, fun h => h.2⟩
  · rw [ofFields_of_disableNulled distinct (not_keyNulled distinct loaded) condition, loaded, ok_bind]

end

/-- Five null fields that mean nothing. -/
theorem ofFields_withoutNulls_cancelled :
    ∃ m : Mapping, m = [(.string "Name", .string "/a"), (.string "Type", .null),
        (.string "KeyId", .string "key"), (.string "EncryptedValue", .null),
        (.string "Input", .string "Password"), (.string "Value", .null),
        (.string "Description", .null), (.string "Disable", .null)] ∧
      (m.map (·.1)).Nodup ∧ ofFields {} m.withoutNulls = ofFields {} m ∧
      (ofFields {} m).isOk = true := by
  refine ⟨_, rfl, ?_⟩
  have distinct : (([(.string "Name", .string "/a"), (.string "Type", .null),
      (.string "KeyId", .string "key"), (.string "EncryptedValue", .null),
      (.string "Input", .string "Password"), (.string "Value", .null),
      (.string "Description", .null), (.string "Disable", .null)] : Mapping).map (·.1)).Nodup := by
    simp
  refine ⟨distinct, ?_, by decide +kernel⟩
  refine (ofFields_withoutNulls distinct {}).1.2 ⟨fun h => ?_, fun h => ?_⟩
  · cases h.1.1
  · cases h.1.2

/-- A null key makes a parameter secret, and a null condition keeps the other one from being read. -/
theorem ofFields_null_key :
    ofFields {} [(.string "Name", .string "/a"), (.string "KeyId", .null),
        (.string "Value", .string "x")] = .error (.missingKeyId "/a") ∧
      ofFields {} (Mapping.withoutNulls [(.string "Name", .string "/a"), (.string "KeyId", .null),
        (.string "Value", .string "x")]) =
          .ok { name := { text := "/a" }, content := some (.single { text := "x" }) } ∧
      ofFields {} [(.string "Name", .string "/a"), (.string "Disable", .null),
        (.string "Disabled", .bool true)] = .ok { name := { text := "/a" } } ∧
      ofFields {} (Mapping.withoutNulls [(.string "Name", .string "/a"), (.string "Disable", .null),
        (.string "Disabled", .bool true)]) =
          .ok { name := { text := "/a" }, disable := some (.flag true) } :=
  ⟨rfl, rfl, rfl, rfl⟩

end Parameter

end ParamFile
