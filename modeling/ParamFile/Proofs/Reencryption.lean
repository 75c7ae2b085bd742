import ParamFile.Proofs.PagedReads

/-!
# Keys of secret values that are read

Whatever settings were made one behind the other (`Client.settled`), the rules have one shape
(`rules_settled`): of the settings behind the last one for all names those without a key come first, the
latest of them at the head; then that last one, if it has a key; then those with a key, in their order.
So the key that is chosen can be told from the settings alone (`selectedKey`, `chosenKey_settled`).

Every way of reading (`Way`) loads the records that it finds one by one (`Way.yields_run`). The first one
for which no key is selected ends it, and of any other secret one it answers a ciphertext under the
selected key (`Way.Answers`, `Reencrypted`).
-/

namespace ParamFile.Client

open ParamFile.Action

/-! ## Settings -/

/-- The client after some settings; a setting is a rule that is to hold. -/
def settled (c : Client) (settings : List Rule) : Client :=
  settings.foldl (fun c s => c.setReencryptKey s.keyId s.namePrefix) c

/-- The settings behind the last one for all names, or all of them if there is none. -/
def recent (settings : List Rule) : List Rule :=
  (settings.reverse.takeWhile (·.namePrefix.isSome)).reverse

/-- The key of the last setting for all names. -/
def general (settings : List Rule) : Option String :=
  (settings.reverse.find? (·.namePrefix.isNone)).bind (·.keyId)

/-- The key for a parameter whose own key is `own`. A recent setting for its name without a key keeps the
own one; otherwise the earliest with a key counts, then the last one for all names, then the own key. -/
def selectedKey (settings : List Rule) (name : String) (own : Option String) : Option String :=
  if (recent settings).any fun s => s.keyId.isNone && Rule.isFor name s then own
  else
    match (recent settings).find? fun s => s.keyId.isSome && Rule.isFor name s with
    | some s => s.keyId
    | none => (general settings).or own

section
variable (settings : List Rule) (s : Rule)

theorem settled_concat (c : Client) :
    c.settled (settings ++ [s]) = (c.settled settings).setReencryptKey s.keyId s.namePrefix := by
  rw [settled, List.foldl_concat]
  rfl

theorem recent_concat :
    recent (settings ++ [s]) = if s.namePrefix.isSome then recent settings ++ [s] else [] := by
  rw [recent, List.reverse_concat, List.takeWhile_cons]
  split
  · rw [List.reverse_cons]
    rfl
  · rfl

theorem general_concat :
    general (settings ++ [s]) = if s.namePrefix.isSome then general settings else s.keyId := by
  rw [general, List.reverse_concat, List.find?_cons]
  cases s.namePrefix <;> rfl

end

theorem isSome_of_mem_recent {settings : List Rule} {s : Rule} (h : s ∈ recent settings) :
    s.namePrefix.isSome = true :=
  List.all_eq_true.1 List.all_takeWhile s (List.mem_reverse.1 h)

/-- The rules after some settings: exceptions, the rule for all names, rules with a key. -/
theorem rules_settled {c : Client} (new : c.rules = []) (settings : List Rule) :
    (c.settled settings).rules =
      ((recent settings).filter (·.keyId.isNone)).reverse ++
        ((general settings).toList.map fun key => ⟨none, some key⟩) ++
        (recent settings).filter (·.keyId.isSome) := by
  induction settings using List.reverseRecOn with
  | nil => exact new
  | append_singleton settings s ih =>
    rw [settled_concat, setReencryptKey, ih, recent_concat, general_concat]
    obtain ⟨namePrefix, keyId⟩ := s
    cases namePrefix <;> cases keyId <;> simp [addRule]

theorem find?_isNone {rules : List Rule} (h : ∀ s ∈ rules, s.namePrefix.isSome = true) :
    rules.find? (·.namePrefix.isNone) = none := by
  rw [List.find?_eq_none]
  intro s hs
  rw [Option.isNone_iff_eq_none, ← Ne, ← Option.isSome_iff_ne_none]
  exact h s hs

/-- The key that the rules choose, told from the settings. -/
theorem chosenKey_settled {c : Client} (new : c.rules = []) (settings : List Rule) (name : String)
    (own : Option String) :
    chosenKey (c.settled settings).rules name own = selectedKey settings name own := by
  have exceptions : ((recent settings).filter (·.keyId.isNone)).reverse.find?
      (·.namePrefix.isNone) = none :=
    find?_isNone fun s hs => isSome_of_mem_recent (List.mem_of_mem_filter (List.mem_reverse.1 hs))
  have keyed : ((recent settings).filter (·.keyId.isSome)).find? (·.namePrefix.isNone) = none :=
    find?_isNone fun s hs => isSome_of_mem_recent (List.mem_of_mem_filter hs)
  have forAll : ((general settings).toList.map fun key => (⟨none, some key⟩ : Rule)).find?
      (Rule.isFor name) = none := by
    cases general settings <;> simp [Rule.isFor]
  have chosen : ((recent settings).filter (·.keyId.isSome)).find? (Rule.isFor name) =
      (recent settings).find? fun s => s.keyId.isSome && Rule.isFor name s := by
    simp [List.find?_filter]
  rw [rules_settled new]
  simp only [chosenKey, selectedKey, List.find?_append, exceptions, keyed, forAll, chosen]
  split
  · rename_i kept
    obtain ⟨s, hs, is⟩ := List.any_eq_true.1 kept
    simp only [Bool.and_eq_true] at is
    have found : (((recent settings).filter (·.keyId.isNone)).reverse.find?
        (Rule.isFor name)).isSome = true := by
      rw [List.find?_isSome]
      exact ⟨s, List.mem_reverse.2 (List.mem_filter.2 ⟨hs, is.1⟩), is.2⟩
    obtain ⟨t, ht⟩ := Option.isSome_iff_exists.1 found
    have mem := List.mem_reverse.1 (List.mem_of_find?_eq_some ht)
    have keyless : t.keyId = none := Option.isNone_iff_eq_none.1 (List.mem_filter.1 mem).2
    simp [ht, keyless]
  · rename_i kept
    have none : ((recent settings).filter (·.keyId.isNone)).reverse.find? (Rule.isFor name) = none := by
      rw [List.find?_eq_none]
      intro s hs is
      obtain ⟨mem, keyless⟩ := List.mem_filter.1 (List.mem_reverse.1 hs)
      exact kept (List.any_eq_true.2 ⟨s, mem, by rw [keyless, is]; rfl⟩)
    rw [none]
    cases hf : (recent settings).find? fun s => s.keyId.isSome && Rule.isFor name s with
    | some s =>
      have isKeyed := List.find?_some hf
      simp only [Bool.and_eq_true] at isKeyed
      obtain ⟨key, hk⟩ := Option.isSome_iff_exists.1 isKeyed.1
      simp [hk]
    | none => cases general settings <;> simp

/-! ## Ways of reading -/

/-- A way of reading parameters whose secret values are encrypted again. -/
inductive Way where
  | byName (names : List String) (full : Bool)
  | byHistory (name : String) (limit : Option Nat)
  | byPath (path : String) (full recursive : Bool) (filters : List Filter)

namespace Way

def run : Way → ClientM (List Parameter)
  | byName names full => getNames names { full, reencrypt := true }
  | byHistory name limit => getVersions name true limit
  | byPath path full recursive filters =>
    Listing.toParameters <$> getPath path { full, reencrypt := true, recursive, filters }

/-- The records that are loaded, one behind the other. -/
def records (s : Store) : Way → Except Error (List Record)
  | byName names _ => .ok (names.filterMap s.latest?)
  | byHistory name limit =>
    let newest := (s.versions name).reverse
    .ok (limit.elim newest newest.take)
  | byPath path _ recursive filters =>
    (s.selected path recursive filters).mapError (Error.ofFailure .path none)

/-- The names that were asked for and are not stored. -/
def unknown (s : Store) : Way → List String
  | byName names _ => Client.unknown s names
  | _ => []

def answer (s : Store) (w : Way) (ps : List Parameter) : Except Error (List Parameter) :=
  if (w.unknown s).isEmpty then .ok ps else .error (.invalidParameters (w.unknown s))

theorem yields_run {s : Store} {rules : List Rule} {Q : PutRequest → Prop} (kept : Store.Kept Q s)
    (w : Way) :
    Yields (Reading s rules) w.run
      (w.records s >>= fun rs => rs.mapM (readRecord rules true) >>= w.answer s) := by
  cases w with
  | byName names full =>
    have read : readNames s rules true names =
        (names.filterMap s.latest?).mapM (readRecord rules true) >>=
          answer s (byName names full) := by
      rw [readNames, lookup, found, bind_assoc]
      rfl
    rw [run, records, ok_bind, ← read]
    exact yields_getNames kept names _
  | byHistory name limit =>
    rw [run, records, ok_bind]
    refine Eq.subst (motive := Yields _ _) ?_ (yields_getVersions kept name true limit)
    exact (bind_pure _).symm
  | byPath path full recursive filters =>
    have found : Yields (Reading s rules)
        (getPath path { full, reencrypt := true, recursive, filters })
        ((readPath s rules true path recursive filters).map .parameters) :=
      yields_getPath kept path rfl
    have read := found.map Listing.toParameters
    refine Eq.subst (motive := Yields _ _) ?_ read
    rw [readPath, records]
    cases (s.selected path recursive filters).mapError (Error.ofFailure .path none) with
    | error e => rfl
    | ok rs =>
      rw [ok_bind, ok_bind]
      cases rs.mapM (readRecord rules true) <;> rfl

end Way

/-! ## What is read -/

/-- The record is a secret one, and no key is selected for it. -/
def Unselected (settings : List Rule) (r : Record) : Prop :=
  r.kind.isSecure = true ∧ selectedKey settings r.name r.keyId = none

/-- The parameter is the record with a ciphertext for its value, which opens to the selected key and the
plaintext; its own key id stays that of the record. -/
def Reencrypted (settings : List Rule) (r : Record) (p : Parameter) : Prop :=
  ∃ key ciphertext, selectedKey settings r.name r.keyId = some key ∧
    p = .ofRecord r (some ciphertext) ∧ p.isEncrypted = true ∧
    p.content = some (.single (.literal ciphertext)) ∧ p.keyId = r.keyId.map .literal ∧
    (Cipher.separator ∉ key.toList → Cipher.opened ciphertext = .ok (key, r.value))

theorem reencrypted {settings : List Rule} {r : Record} {key : String}
    (selected : selectedKey settings r.name r.keyId = some key) :
    Reencrypted settings r (.ofRecord r (some (Cipher.sealed r.value key))) :=
  ⟨key, _, selected, rfl, rfl, rfl, rfl, Cipher.opened_sealed⟩

section
variable {c : Client} {settings : List Rule}
  (chosen : ∀ name own, chosenKey c.rules name own = selectedKey settings name own)
include chosen

/-- A secret record for which no key is selected cannot be read. -/
theorem loadRecord_of_unselected {r : Record} (h : Unselected settings r) :
    (loadRecord true r).runOn c = (.error (.noReencryptionKey r.name), c) := by
  obtain ⟨secret, none⟩ := h
  rw [loadRecord, secret]
  simp only [Bool.and_self, Bool.not_true, Bool.false_eq_true, if_false, runOn_bind, runOn_get, chosen,
    none, runOn_throw]

/-- A secret record is read as a ciphertext under the selected key. -/
theorem loadRecord_of_some {r : Record} (secret : r.kind.isSecure = true)
    (working : Call.encrypt ∉ c.backend.failing) {key : String}
    (selected : selectedKey settings r.name r.keyId = some key) :
    ((loadRecord true r).runOn c).1 =
      .ok (.ofRecord r (some (Cipher.sealed r.value key))) := by
  have answered : answer .encrypt (fun _ => .ok (Cipher.sealed r.value key)) c =
      .ok (Cipher.sealed r.value key) := by
    rw [answer, if_neg working]
    rfl
  rw [loadRecord, secret]
  simp only [Bool.and_self, Bool.not_true, Bool.false_eq_true, if_false, runOn_bind, runOn_get, chosen,
    selected, encrypt_runOn, answered, runOn_pure]

theorem isOk_readRecord_iff {r : Record} :
    (readRecord c.rules true r).isOk = true ↔ ¬ Unselected settings r := by
  rw [isOk_readRecord, Keyless, chosen, Unselected]
  simp only [true_and]

theorem readRecord_of_unselected {r : Record} (h : Unselected settings r) :
    readRecord c.rules true r = .error (.noReencryptionKey r.name) := by
  refine readRecord_eq_error.2 ⟨⟨rfl, ?_⟩, rfl⟩
  rw [Keyless, chosen]
  exact h

theorem reencrypted_of_readRecord {r : Record} {p : Parameter}
    (secret : r.kind.isSecure = true) (read : readRecord c.rules true r = .ok p) :
    Reencrypted settings r p := by
  have shown : Store.shown true r = r := by simp [Store.shown]
  rw [readRecord, loaded, shown, secret, chosen] at read
  cases hk : selectedKey settings r.name r.keyId with
  | none => simp [hk] at read
  | some key =>
    simp only [hk, Bool.and_self, if_true, Except.ok.injEq] at read
    subst read
    exact reencrypted hk

/-- How a way of reading ends that finds these records. The first one for which no key is selected ends
it; if there is none, every secret value is answered as a ciphertext under its key. -/
structure Way.Answers (settings : List Rule) (s : Store) (w : Way) (rs : List Record)
    (result : Except Error (List Parameter)) : Prop where
  stopped : ∀ front r rest, rs = front ++ r :: rest → (∀ x ∈ front, ¬ Unselected settings x) →
    Unselected settings r → result = .error (.noReencryptionKey r.name)
  read : (∀ r ∈ rs, ¬ Unselected settings r) →
    ∃ ps, result = w.answer s ps ∧
      List.Forall₂ (fun r p => r.kind.isSecure = true → Reencrypted settings r p) rs ps

theorem Way.answers {s : Store} (w : Way) (rs : List Record) :
    w.Answers settings s rs (rs.mapM (readRecord c.rules true) >>= w.answer s) := by
  constructor
  · intro front r rest eq before unselected
    have failed : rs.mapM (readRecord c.rules true) = .error (.noReencryptionKey r.name) :=
      mapM_eq_error.2 ⟨front, r, rest, eq, fun x hx => (isOk_readRecord_iff chosen).2 (before x hx),
        readRecord_of_unselected chosen unselected⟩
    rw [failed]
    rfl
  · intro all
    cases read : rs.mapM (readRecord c.rules true) with
    | error e =>
      obtain ⟨front, r, rest, rfl, -, failed⟩ := mapM_eq_error.1 read
      have ok := (isOk_readRecord_iff chosen).2 (all r (by simp))
      rw [failed] at ok
      cases ok
    | ok ps =>
      refine ⟨ps, rfl, (mapM_ok.1 read).imp fun r p found secret => ?_⟩
      exact reencrypted_of_readRecord chosen secret found

end

/-! ## The key of every secret value -/

/-- However a client was set, the key that a secret value is encrypted with when it is read can be told
from the settings, whatever way it is read: a record for which none is selected ends the reading, and of
any other the parameter holds a ciphertext that opens to the selected key and the plaintext. -/
theorem reencryption_of_settings {c₀ c : Client} (new : c₀.rules = []) {settings : List Rule}
    (set : c.rules = (c₀.settled settings).rules) :
    (∀ r, Unselected settings r →
      (loadRecord true r).runOn c = (.error (.noReencryptionKey r.name), c)) ∧
    (∀ r, r.kind.isSecure = true → ¬ Unselected settings r → .encrypt ∉ c.backend.failing →
      ∃ p, ((loadRecord true r).runOn c).1 = .ok p ∧ Reencrypted settings r p) ∧
    ∀ (s₀ : Store) (changes : List Store.Change), s₀.history = .empty →
      c.backend.store = s₀.changed changes → c.backend.failing = [] → ∀ way : Way,
        let run := way.run.runOn c
        let s := c.backend.store
        run.2.rules = c.rules ∧ run.2.backend.store = s ∧ run.2.backend.failing = [] ∧
        (∀ e, way.records s = .error e → run.1 = .error e) ∧
        ∀ rs, way.records s = .ok rs → way.Answers settings s rs run.1 := by
  have chosen : ∀ name own, chosenKey c.rules name own = selectedKey settings name own := by
    intro name own
    rw [set, chosenKey_settled new]
  refine ⟨fun r => loadRecord_of_unselected chosen, fun r secret selected working => ?_,
    fun s₀ changes empty store working way => ?_⟩
  · have isSome : (selectedKey settings r.name r.keyId).isSome = true := by
      rw [Option.isSome_iff_ne_none]
      exact fun none => selected ⟨secret, none⟩
    obtain ⟨key, hk⟩ := Option.isSome_iff_exists.1 isSome
    exact ⟨_, loadRecord_of_some chosen secret working hk, reencrypted hk⟩
  · intro run s
    have kept : Store.Kept (fun _ => True) s := by
      show Store.Kept _ c.backend.store
      rw [store]
      exact Store.kept_changed empty fun _ _ => trivial
    have yields : Yields (Reading s c.rules) way.run _ := way.yields_run kept
    obtain ⟨ends, reading⟩ := yields c ⟨working, rfl, rfl⟩
    have ends : run.1 = _ := ends
    refine ⟨reading.rules, reading.store, reading.working, fun e failed => ?_, fun rs listed => ?_⟩
    · rw [ends, failed]
      rfl
    · rw [ends, listed, ok_bind]
      exact way.answers chosen rs

/-- Prefixes that overlap, behind a setting that leaves no rule. -/
def overlapping : List Rule := [
  ⟨some "/", some "lost"⟩, ⟨none, none⟩, ⟨some "/app", some "wide"⟩,
  ⟨some "/app/db", some "narrow"⟩, ⟨some "/app/own", none⟩]

/-- Secret values, one of them with a key of its own. -/
def keylessSecrets : List Store.Change := [
  .put { name := "/app/db", kind := .secureString, value := "s" },
  .put { name := "/app/own", kind := .secureString, value := "t", keyId := some "mine" },
  .put { name := "/other", kind := .secureString, value := "u" }]

/-- The wider prefix was set first, an exception keeps the own key, and nothing is left of the rule that
would have been for the third value. -/
theorem reencryption_of_overlapping :
    let c : Client := { ({} : Client).settled overlapping with
      backend := { store := ({} : Store).changed keylessSecrets } }
    let reading names := ((Way.byName names true).run.runOn c).1
    (∃ p q sealed₁ sealed₂, reading ["/app/db", "/app/own"] = .ok [p, q] ∧
      p.content = some (.single (.literal sealed₁)) ∧ p.keyId = none ∧
      Cipher.opened sealed₁ = .ok ("wide", "s") ∧
      q.content = some (.single (.literal sealed₂)) ∧ q.keyId = some (.literal "mine") ∧
      Cipher.opened sealed₂ = .ok ("mine", "t")) ∧
    reading ["/app/db", "/other"] = .error (.noReencryptionKey "/other") := by
  intro c reading
  obtain ⟨-, -, read⟩ := @reencryption_of_settings {} c rfl overlapping rfl
  have empty : ({} : Store).history = .empty := rfl
  have read := read {} keylessSecrets empty rfl rfl
  let stored (name : String) : Record := (c.backend.store.latest? name).getD default
  constructor
  · obtain ⟨-, -, -, -, listed⟩ := read (.byName ["/app/db", "/app/own"] true)
    have keys : ∀ r ∈ [stored "/app/db", stored "/app/own"], ¬ Unselected overlapping r := by
      unfold Unselected
      decide +kernel
    obtain ⟨ps, ends, each⟩ := (listed [stored "/app/db", stored "/app/own"] rfl).read keys
    obtain _ | ⟨first, _ | ⟨second, _ | _⟩⟩ := each
    obtain ⟨key₁, sealed₁, selected₁, -, -, content₁, keyId₁, opens₁⟩ := first rfl
    obtain ⟨key₂, sealed₂, selected₂, -, -, content₂, keyId₂, opens₂⟩ := second rfl
    obtain rfl : key₁ = "wide" := Option.some.inj (selected₁.symm.trans (by decide +kernel))
    obtain rfl : key₂ = "mine" := Option.some.inj (selected₂.symm.trans (by decide +kernel))
    exact ⟨_, _, sealed₁, sealed₂, ends, content₁, keyId₁, opens₁ (by decide), content₂, keyId₂,
      opens₂ (by decide)⟩
  · obtain ⟨-, -, -, -, listed⟩ := read (.byName ["/app/db", "/other"] true)
    have keys : ∀ r ∈ [stored "/app/db"], ¬ Unselected overlapping r := by
      unfold Unselected
      decide +kernel
    have keyless : Unselected overlapping (stored "/other") := by
      unfold Unselected
      decide +kernel
    exact (listed [stored "/app/db", stored "/other"] rfl).stopped [stored "/app/db"]
      (stored "/other") [] rfl keys keyless

end ParamFile.Client
