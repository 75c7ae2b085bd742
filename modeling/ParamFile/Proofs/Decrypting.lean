import ParamFile.Proofs.Encrypting

/-!
# Decrypting from a file

A ciphertext opens if every new client decrypts it (`Client.Opens`). If all ciphertexts of a file do, what
decrypting prints is a listing of their plaintexts in the order of the document
(`Session.revealAll_runOn`). Those that encrypting puts into a file do, so what was encrypted is listed
again (`Session.encrypt_round_trip`).
-/

namespace ParamFile

open ParamFile.Action Yaml

/-! ## Ciphertexts that open -/

namespace Client

/-- Every new client decrypts the ciphertext to this plaintext. -/
def Opens (ciphertext plaintext : String) : Prop :=
  ∀ c : Client, Blank c → .decrypt ∉ c.backend.failing →
    ((Client.decrypt ciphertext).runOn c).1 = .ok plaintext

theorem meets_decrypt {s : Store} {failing : List Call} (working : .decrypt ∉ failing)
    {ciphertext : String} {e : String × String} (opens : Cipher.opened ciphertext = .ok e) :
    Meets (Recalling s failing) (Client.decrypt ciphertext) (· = e.2) (fun _ => False) := by
  have answer : Question.answer s (.decrypt ciphertext) = .ok e.2 := by
    rw [Question.answer, opens]
    rfl
  refine (meets_ask (q := .decrypt ciphertext) trivial).mono (fun x same => ?_) fun x failed => ?_
  · rw [answer] at same
    cases same
    rfl
  · rcases failed with same | ⟨call, hc, fails, -⟩
    · rw [answer] at same
      cases same
    · obtain rfl := List.mem_singleton.1 hc
      exact working fails

theorem opens_iff {ciphertext plaintext : String} :
    Opens ciphertext plaintext ↔ ∃ keyId, Cipher.opened ciphertext = .ok (keyId, plaintext) := by
  constructor
  · intro opens
    have blank : Blank {} := ⟨rfl, rfl, rfl, rfl⟩
    have answer := (meets_ask (q := .decrypt ciphertext) trivial).ok ⟨blank.recalls, rfl⟩
      (Prod.ext (opens {} blank List.not_mem_nil) rfl)
    rw [Question.answer] at answer
    cases opened : Cipher.opened ciphertext with
    | error fault =>
      rw [opened] at answer
      cases answer
    | ok e =>
      rw [opened] at answer
      cases answer
      exact ⟨e.1, rfl⟩
  · rintro ⟨keyId, opened⟩ c blank working
    have ends := (meets_decrypt working opened c ⟨blank.recalls, rfl⟩).1
    generalize ((Client.decrypt ciphertext).runOn c).1 = r at ends
    cases r with
    | error e => exact ends.elim
    | ok x => exact congrArg _ ends

theorem Opens.unique {ciphertext plaintext other : String} (h : Opens ciphertext plaintext)
    (h' : Opens ciphertext other) : plaintext = other := by
  obtain ⟨keyId, opened⟩ := opens_iff.1 h
  obtain ⟨keyId', opened'⟩ := opens_iff.1 h'
  cases opened.symm.trans opened'
  rfl

theorem opens_sealed {keyId : String} (free : Cipher.separator ∉ keyId.toList) (plaintext : String) :
    Opens (Cipher.sealed plaintext keyId) plaintext :=
  opens_iff.2 ⟨keyId, Cipher.opened_sealed free⟩

end Client

namespace Document

/-! ## The ciphertexts of a document -/

theorem mem_of_get? {m : Mapping} {name : String} {v : Value} (h : m.get? name = some v) :
    (.string name, v) ∈ m := by
  fun_induction Mapping.get? m name with
  | case1 => cases h
  | case2 w rest =>
    cases h
    exact List.mem_cons_self
  | case3 k w rest ne ih => exact List.mem_cons_of_mem _ (ih h)
  | case4 e rest notString ih => exact List.mem_cons_of_mem _ (ih h)

/-- Where no key is there twice, an entry is what its key reads as. -/
theorem get?_of_mem {m : Mapping} (nodup : (m.map (·.1)).Nodup) {name : String} {v : Value}
    (h : (.string name, v) ∈ m) : m.get? name = some v := by
  induction m with
  | nil => cases h
  | cons e rest ih =>
    obtain ⟨k, w⟩ := e
    simp only [List.map_cons, List.nodup_cons] at nodup
    rcases List.mem_cons.1 h with here | later
    · cases here
      simp [Mapping.get?]
    · have other : k ≠ .string name := by
        rintro rfl
        exact nodup.1 (List.mem_map.2 ⟨_, later, rfl⟩)
      have read : Mapping.get? ((k, w) :: rest) name = Mapping.get? rest name := by
        cases k <;> simp_all [Mapping.get?]
      rw [read]
      exact ih nodup.2 later

theorem mem_ciphertexts {m : Mapping} {name ciphertext : String} :
    (name, ciphertext) ∈ ciphertexts m ↔
      ∃ e ∈ m, e.1.asString? = some name ∧ ciphertextOf? e.2 = some ciphertext := by
  rw [ciphertexts, List.mem_filterMap]
  refine exists_congr fun ⟨k, v⟩ => and_congr_right fun _ => ?_
  dsimp only
  cases k.asString? <;> cases ciphertextOf? v <;> simp

section
variable {keyId : String} {values : List (String × String)} {m m' : Mapping}

/-- Under a name that is given a value, its ciphertext is found. -/
theorem Sealing.mem_ciphertexts (h : Sealing keyId values m m') {name plaintext : String}
    (last : lastGiven values name = some plaintext)
    (plain : ¬ IsTaggedMapping ((m.get? name).getD .null)) :
    (name, Cipher.sealed plaintext keyId) ∈ ciphertexts m' := by
  obtain ⟨fields, there, ciphertext, -, -⟩ := h.given name plaintext last plain
  refine Document.mem_ciphertexts.2 ⟨_, mem_of_get? there, rfl, ?_⟩
  rw [ciphertextOf?, ciphertext]
  rfl

/-- The ciphertexts are those that were put in, and those of other entries. -/
theorem Sealing.opens (h : Sealing keyId values m m') (nodup : (m'.map (·.1)).Nodup)
    (free : Cipher.separator ∉ keyId.toList)
    (others : ∀ e ∈ ciphertexts (m.besides (values.map (·.1))), ∃ plaintext,
      Client.Opens e.2 plaintext) : ∀ e ∈ ciphertexts m', ∃ plaintext, Client.Opens e.2 plaintext := by
  rintro ⟨name, ciphertext⟩ listed
  obtain ⟨⟨k, v⟩, there, named, holds⟩ := Document.mem_ciphertexts.1 listed
  by_cases given : k ∈ (values.map (·.1)).map Value.string
  · obtain ⟨own, hn, rfl⟩ := List.mem_map.1 given
    obtain ⟨plaintext, last⟩ := Option.isSome_iff_exists.1 (isSome_lastGiven.2 hn)
    have stands := get?_of_mem nodup there
    by_cases tagged : IsTaggedMapping ((m.get? own).getD .null)
    · rw [← h.tagged own tagged, stands] at tagged
      cases v with
      | map fields => exact absurd rfl (tagged.2 fields)
      | _ => cases holds
    · obtain ⟨fields, sealed, inside, -, -⟩ := h.given own plaintext last tagged
      obtain rfl : v = .map fields := Option.some.inj (stands.symm.trans sealed)
      rw [ciphertextOf?, inside] at holds
      cases holds
      exact ⟨plaintext, Client.opens_sealed free plaintext⟩
  · refine others (name, ciphertext) (Document.mem_ciphertexts.2 ⟨(k, v), ?_, named, holds⟩)
    rw [← h.others]
    exact Mapping.mem_besides.2 ⟨there, given⟩

end

end Document

namespace Command.Session

/-! ## Decrypting -/

/-- The name of an entry stands with the plaintext of its ciphertext. -/
def Reveals (entry shown : String × String) : Prop :=
  shown.1 = entry.1 ∧ Client.Opens entry.2 shown.2

/-- The lines in which names are listed with their plaintexts, the last first. -/
def listing (shown : List (String × String)) : List (Channel × String) :=
  (shown.map fun p => (.output, p.1 ++ ": " ++ p.2 ++ "\n")).reverse

def reveal (entry : String × String) : Action Session Unit := do
  let plaintext ← onClient (Client.decrypt entry.2)
  onWorld (World.printLine .output (entry.1 ++ ": " ++ plaintext))

def revealAll : List (String × String) → Action Session Unit
  | [] => return
  | entry :: rest => do reveal entry; revealAll rest

section
variable {st : Store} {failing : List Call} {s : Session}

theorem reveal_runOn (recalling : Client.Recalling st failing s.client)
    (working : .decrypt ∉ failing) {entry shown : String × String} (h : Reveals entry shown) :
    ∃ t, (reveal entry).runOn s = (.ok (), t) ∧ Client.Recalling st failing t.client ∧
      t.world = { s.world with printed := listing [shown] ++ s.world.printed } := by
  obtain ⟨name, plaintext⟩ := shown
  obtain ⟨rfl, opens⟩ := h
  obtain ⟨keyId, opened⟩ := Client.opens_iff.1 opens
  have decrypts := Client.meets_decrypt working opened s.client recalling
  rw [reveal, runOn_bind, onClient_runOn]
  generalize (Client.decrypt entry.2).runOn s.client = run at decrypts ⊢
  obtain ⟨ends, recalling'⟩ := decrypts
  rcases run with ⟨e | x, c⟩
  · exact ends.elim
  · obtain rfl : x = plaintext := ends
    exact ⟨_, rfl, recalling', rfl⟩

/-- Ciphertexts that open are listed one after the other. -/
theorem revealAll_runOn (recalling : Client.Recalling st failing s.client)
    (working : .decrypt ∉ failing) {entries shown : List (String × String)}
    (h : List.Forall₂ Reveals entries shown) :
    ∃ c, (revealAll entries).runOn s =
      (.ok (), ⟨{ s.world with printed := listing shown ++ s.world.printed }, c⟩) := by
  induction h generalizing s with
  | nil => exact ⟨s.client, rfl⟩
  | @cons entry p entries shown first _ ih =>
    obtain ⟨t, ran, recalling', world⟩ := reveal_runOn recalling working first
    obtain ⟨c, others⟩ := ih recalling'
    refine ⟨c, ?_⟩
    rw [revealAll, runOn_bind_of_ok ran, others, world]
    simp [listing]

theorem decrypt_eq {file text : String} {m : Mapping} (read : s.world.files.read file = .ok text)
    (tree : Document.treeOfText text = .ok (.map m)) :
    (decrypt file).runOn s = (revealAll (Document.ciphertexts m)).runOn s := by
  have root : (onWorld do Action.ofExcept (Document.treeOfText (← World.readFile file))).runOn s =
      (.ok (.map m), s) := by
    rw [onWorld_runOn, runOn_bind_of_ok (World.readFile_runOn read), tree]
    rfl
  have loop (entries : List (String × String)) :
      (forIn entries PUnit.unit fun e _ => do
        let plaintext ← onClient (Client.decrypt e.2)
        onWorld (World.printLine .output (e.1 ++ ": " ++ plaintext))
        pure (ForInStep.yield PUnit.unit)) = revealAll entries := by
    induction entries with
    | nil => rfl
    | cons e rest ih =>
      rw [List.forIn_cons, revealAll, ← ih, reveal]
      simp only [bind_assoc, pure_bind]
  rw [decrypt, runOn_bind_of_ok root]
  dsimp only
  rw [bind_pure_unit, loop]

theorem exists_reveals {entries : List (String × String)}
    (h : ∀ e ∈ entries, ∃ plaintext, Client.Opens e.2 plaintext) :
    ∃ shown, List.Forall₂ Reveals entries shown := by
  induction entries with
  | nil => exact ⟨[], .nil⟩
  | cons e rest ih =>
    obtain ⟨plaintext, opens⟩ := h e List.mem_cons_self
    obtain ⟨shown, others⟩ := ih fun x hx => h x (List.mem_cons_of_mem _ hx)
    exact ⟨(e.1, plaintext) :: shown, .cons ⟨rfl, opens⟩ others⟩

theorem mem_of_reveals {entries shown : List (String × String)}
    (h : List.Forall₂ Reveals entries shown) {name ciphertext plaintext : String}
    (listed : (name, ciphertext) ∈ entries) (opens : Client.Opens ciphertext plaintext) :
    (name, plaintext) ∈ shown := by
  induction h with
  | nil => cases listed
  | cons first _ ih =>
    rcases List.mem_cons.1 listed with rfl | later
    · obtain ⟨named, opens'⟩ := first
      have same : (name, plaintext) = _ := Prod.ext named.symm (opens.unique opens')
      rw [same]
      exact List.mem_cons_self
    · exact List.mem_cons_of_mem _ (ih later)

end

/-! ## Both commands -/

open Document in
/-- An error leaves every file as it was. Without one the file is written with the values put into its
entries, each as a ciphertext that opens under every new client to the value that is given last; and if
what was written is read as it was put down and the other ciphertexts open, too, decrypting lists all of
them in the order of the document, and changes nothing. A mapping below a tag is passed over. -/
theorem encrypt_round_trip {st : Store} {s t : Session} (recalls : s.client.Recalls st)
    (region : Cipher.separator ∉ st.region.toList) (account : Cipher.separator ∉ st.account.toList)
    {file keyId : String} (free : Cipher.separator ∉ keyId.toList) {arguments : List String}
    {asking echo : Bool} {r : Except Error Unit}
    (ran : (encrypt file keyId arguments asking echo).runOn s = (r, t)) :
    (∀ e, r = .error e → t.world.files = s.world.files) ∧
    (r = .ok () → ∀ m values, s.world.files.HoldsEntries file m →
      Provides asking arguments s.world.lines values →
      let key := Client.qualifiedKey st keyId
      let m' := sealedAll key values m
      s.world.files.write file (Value.map m').toText = .ok t.world.files ∧
      Sealing key values m m' ∧
      (∀ plaintext, Client.Opens (Cipher.sealed plaintext key) plaintext) ∧
      (treeOfText (Value.map m').toText = .ok (.map m') →
        (∀ e ∈ ciphertexts (m.besides (values.map (·.1))), ∃ plaintext, Client.Opens e.2 plaintext) →
        ∃ shown, List.Forall₂ Reveals (ciphertexts m') shown ∧
          (∀ name plaintext, lastGiven values name = some plaintext →
            ¬ IsTaggedMapping ((m.get? name).getD .null) → (name, plaintext) ∈ shown) ∧
          ∀ u : Session, u.world.files = t.world.files → u.client.Blank →
            .decrypt ∉ u.client.backend.failing → ∃ client, (decrypt file).runOn u =
              (.ok (), ⟨{ u.world with printed := listing shown ++ u.world.printed }, client⟩))) := by
  have keyFree := Client.separator_notMem_qualifiedKey region account free
  refine ⟨?_, ?_⟩
  · rintro e rfl
    exact files_of_encrypt_error ran
  · rintro rfl m values held given key m'
    have written := written_of_encrypt recalls keyFree held given ran
    have sealing : Sealing key values m m' := sealing_sealedAll key values m
    refine ⟨written, sealing, Client.opens_sealed keyFree, fun tree others => ?_⟩
    obtain ⟨shown, reveals⟩ :=
      exists_reveals (sealing.opens (sealing.nodup held.distinct.nodup) keyFree others)
    refine ⟨shown, reveals, fun name plaintext last plain => ?_, fun u same blank working => ?_⟩
    · exact mem_of_reveals reveals (sealing.mem_ciphertexts last plain)
        (Client.opens_sealed keyFree plaintext)
    · have read : u.world.files.read file = .ok (Value.map m').toText :=
        same ▸ Files.read_write written
      rw [decrypt_eq read tree]
      exact revealAll_runOn ⟨blank.recalls, rfl⟩ working reveals

/-- The entries of a file: one with a field of its own, and another ciphertext. -/
def heldEntries : Mapping := [
  (.string "/a", .map [(.string "D", .string "d")]),
  (.string "/b", .map [(.string "EncryptedValue", .string "awBvbGQ=")])]

def holding : Session :=
  ⟨{ files := .ofList [("a.yaml", "/a:\n  D: d\n/b:\n  EncryptedValue: awBvbGQ=\n")] }, {}⟩

/-- A name that is there is given twice, with a new one in between. -/
theorem encrypt_round_trip_repeated :
    ∃ t shown, (encrypt "a.yaml" "arn:k" ["/a", "1", "/n", "2", "/a", "4"] false false).runOn
        holding = (.ok (), t) ∧
      (∃ client, (decrypt "a.yaml").runOn ⟨{ files := t.world.files }, {}⟩ =
        (.ok (), ⟨{ files := t.world.files, printed := listing shown }, client⟩)) ∧
      ("/a", "4") ∈ shown ∧ ("/n", "2") ∈ shown := by
  have ok : ((encrypt "a.yaml" "arn:k" ["/a", "1", "/n", "2", "/a", "4"] false false).runOn
      holding).1 = .ok () := by decide +kernel
  have read : holding.world.files.read "a.yaml" =
      .ok "/a:\n  D: d\n/b:\n  EncryptedValue: awBvbGQ=\n" := by decide +kernel
  have held : holding.world.files.HoldsEntries "a.yaml" heldEntries :=
    .mapping read (by decide +kernel)
  have given : Provides false ["/a", "1", "/n", "2", "/a", "4"] holding.world.lines
    [("/a", "1"), ("/n", "2"), ("/a", "4")] :=
    .written [("/a", "1"), ("/n", "2"), ("/a", "4")] _
  have blank : Client.Blank {} := ⟨rfl, rfl, rfl, rfl⟩
  rcases ran : (encrypt "a.yaml" "arn:k" ["/a", "1", "/n", "2", "/a", "4"] false false).runOn
    holding with ⟨r, t⟩
  obtain rfl : r = .ok () := by
    rw [ran] at ok
    exact ok
  obtain ⟨-, -, -, opened⟩ := (encrypt_round_trip (s := holding) blank.recalls (by decide)
    (by decide) (by decide) ran).2 rfl _ _ held given
  have others : ∀ e ∈ Document.ciphertexts (heldEntries.besides ["/a", "/n", "/a"]),
      ∃ plaintext, Client.Opens e.2 plaintext := by
    have listed : Document.ciphertexts (heldEntries.besides ["/a", "/n", "/a"]) =
        [("/b", "awBvbGQ=")] := by decide +kernel
    intro e he
    rw [listed, List.mem_singleton] at he
    subst he
    exact ⟨"old", Client.opens_iff.2 ⟨"k", by decide +kernel⟩⟩
  obtain ⟨shown, -, listed, decrypts⟩ := opened (by decide +kernel) others
  obtain ⟨client, lists⟩ := decrypts ⟨{ files := t.world.files }, {}⟩ rfl blank List.not_mem_nil
  rw [List.append_nil] at lists
  refine ⟨t, shown, rfl, ⟨client, lists⟩, ?_, ?_⟩
  · exact listed "/a" "4" (by decide +kernel) fun h => h.2 _ rfl
  · exact listed "/n" "2" (by decide +kernel) fun h => by cases h.1

/-- An entry that is a mapping below a tag is passed over, though it is counted, so there is nothing to
decrypt. -/
theorem encrypt_tagged :
    let s : Session := ⟨{ files := .ofList [("a.yaml", "/a: !t\n  x: y\n")] }, {}⟩
    let run := (encrypt "a.yaml" "arn:k" ["/a", "v"] false false).runOn s
    let later := (decrypt "a.yaml").runOn ⟨{ files := run.2.world.files }, {}⟩
    run.1 = .ok () ∧ run.2.world.text .errors = "✓ 1 values encrypted into a.yaml\n" ∧
      run.2.world.files.read "a.yaml" = .ok "/a: !t\n  x: y\n" ∧
      later.1 = .ok () ∧ later.2.world.text .output = "" := by
  decide +kernel

end Command.Session

end ParamFile
