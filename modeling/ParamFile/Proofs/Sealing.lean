import ParamFile.Proofs.Memory
import ParamFile.Proofs.Recompile
import ParamFile.Proofs.Stated

/-!
# Secret values are written as ciphertext

What a client answers does not depend on what it was asked before: all clients that it becomes while a
parameter is read answer like it (`Client.Echoes`), so a field reads the same at any time
(`steady_echoes`).

A parameter that was loaded is secret exactly if it has a key, and only a secret value that was taken
from an input carries one, its own (`FedByInput`). When such a parameter is written down, its value
stands there as ciphertext or not at all (`Conceals`, `ofFields_conceals`).
-/

namespace ParamFile

open ParamFile.Action Yaml

/-! ## Clients that answer like another -/

namespace Client

/-- The answer of a client that is asked to decrypt. -/
def decrypted (c : Client) (ciphertext : String) : Except Error String :=
  ((decrypt ciphertext).runOn c).1

/-- The client `d` answers like `c`. -/
structure Echoes (c d : Client) : Prop where
  voice : d.voice = c.voice
  decrypted (ciphertext : String) : d.decrypted ciphertext = c.decrypted ciphertext

theorem Echoes.refl (c : Client) : Echoes c c := ⟨rfl, fun _ => rfl⟩

theorem decrypted_eq (c : Client) (ciphertext : String) :
    c.decrypted ciphertext = match c.plaintexts.lookup ciphertext with
      | some p => .ok p
      | none => answer .decrypt (fun _ => (Cipher.opened ciphertext).map (·.2)) c := by
  rw [decrypted, decrypt_runOn]
  cases c.plaintexts.lookup ciphertext with
  | some p => rfl
  | none =>
    cases answer .decrypt (fun _ => (Cipher.opened ciphertext).map (·.2)) c <;> rfl

/-- Answers about ciphertexts depend on what is remembered of them and on the calls that fail. -/
theorem decrypted_congr {c d : Client} (plaintexts : c.plaintexts = d.plaintexts)
    (failing : c.backend.failing = d.backend.failing) (ciphertext : String) :
    c.decrypted ciphertext = d.decrypted ciphertext := by
  rw [decrypted_eq, decrypted_eq, plaintexts]
  simp only [answer, failing]

theorem keeps_decrypted_askRegion (ciphertext : String) :
    Keeps (fun c => c.decrypted ciphertext) askRegion := by
  intro c
  refine decrypted_congr (askRegion_others c).2 ?_ ciphertext
  exact congrArg Voice.failing (keeps_voice_askRegion c)

theorem keeps_decrypted_askAccount (ciphertext : String) :
    Keeps (fun c => c.decrypted ciphertext) askAccount := by
  intro c
  refine decrypted_congr (askAccount_others c).2 ?_ ciphertext
  exact congrArg Voice.failing (keeps_voice_askAccount c)

/-- A plaintext that is remembered is the one that was answered. -/
theorem keeps_decrypted_decrypt (ciphertext other : String) :
    Keeps (fun c => c.decrypted ciphertext) (decrypt other) := by
  intro c
  rw [decrypt_runOn]
  cases hl : c.plaintexts.lookup other with
  | some p => rfl
  | none =>
    cases ha : answer .decrypt (fun _ => (Cipher.opened other).map (·.2)) c with
    | error e => exact decrypted_congr (c := logged .decrypt c) (d := c) rfl rfl ciphertext
    | ok p =>
      by_cases same : ciphertext = other
      · subst same
        simp [decrypted_eq, remembering, hl, ha]
      · have ne : (ciphertext == other) = false := beq_false_of_ne same
        simp only [decrypted_eq, remembering, List.lookup_cons, ne]
        rfl

variable {c : Client}

theorem yields_echoes {a : ClientM String} {r : Except Error String} (voice : Keeps voice a)
    (kept : ∀ ciphertext, Keeps (fun c => c.decrypted ciphertext) a)
    (h : ∀ d, Echoes c d → (a.runOn d).1 = r) : Yields (Echoes c) a r :=
  fun d hd => ⟨h d hd, (voice d).trans hd.voice, fun x => (kept x d).trans (hd.decrypted x)⟩

theorem steady_echoes (c : Client) : Judgement (Steady (Echoes c)) :=
  judgement_steady fun ciphertext => Yields.steady <|
    yields_echoes (keeps_voice_decrypt ciphertext) (fun x => keeps_decrypted_decrypt x ciphertext)
      fun _ hd => hd.decrypted ciphertext

theorem answers_echoes (c : Client) (b : Bindings) (names : List String) :
    Answers (Steady (Echoes c)) b names := by
  refine (steady_echoes c).answers Steady.throw ?_ ?_ names
  · refine (yields_echoes (r := c.voice.region) keeps_voice_askRegion keeps_decrypted_askRegion
      fun d hd => ?_).steady
    rw [askRegion_voice, hd.voice]
  · refine (yields_echoes (r := c.voice.account) keeps_voice_askAccount keeps_decrypted_askAccount
      fun d hd => ?_).steady
    rw [askAccount_voice, hd.voice]

/-- What is read at some time could have been read before. -/
theorem Echoes.reads {α : Type} {a : ClientM α} (steady : Steady (Echoes c) a) {d t : Client}
    (hd : Echoes c d) {x : α} (run : a.runOn d = (.ok x, t)) :
    (a.runOn c).1 = .ok x ∧ Echoes c t := by
  obtain ⟨yields, ht⟩ := steady.yields_ok hd run
  exact ⟨(yields c (.refl c)).1, ht⟩

end Client

/-! ## What is loaded -/

namespace Parameter

/-- The fields name an input to take the value from, and no ciphertext. -/
def FedByInput (m : Mapping) : Prop :=
  m.stated "EncryptedValue" = none ∧ (m.stated "Input").isSome = true

/-- Only a value that was taken from an input carries a key. -/
theorem Describes.fedByInput {o : LoadOptions} {m : Mapping} {name : String} {p : Parameter}
    (d : Describes o m name p) {t key : Template} (single : p.content = some (.single t))
    (keyed : t.keyId = some key) : FedByInput m := by
  have fromInput : p.isFromInput = true := by
    rw [isFromInput, single]
    exact Option.isSome_of_mem keyed
  obtain ⟨-, secret, -⟩ := d.sound.of_isFromInput fromInput
  obtain ⟨own, -, content⟩ := d.secure secret
  rw [single] at content
  generalize p.isEncrypted = encrypted at content
  generalize hc : some (Content.single t) = source at content
  cases secureContent_source.1 content with
  | ciphertext =>
    cases hc
    rw [o.template_keyId] at keyed
    cases keyed
  | input unsealed given => exact ⟨textField_eq_none.1 unsealed, stated_of_textField given⟩
  | clear =>
    cases hc
    cases keyed
  | absent => cases hc

/-! ## What is written -/

/-- The fields that were written for a secret parameter show its value as ciphertext only. A ciphertext
stands there as it was given, and a value that was taken from an input encrypted with the key of the
parameter; without a value there is a null one, and the parameter is disabled. -/
structure Conceals (p : Parameter) (b : Bindings) (c : Client) (fields : Mapping) : Prop where
  concealed : (∃ ciphertext, fields.get? "EncryptedValue" = some (.string ciphertext)) ∧
      fields.get? "Value" = none ∨
    fields.get? "EncryptedValue" = none ∧ fields.get? "Value" = some .null ∧ p.content = none ∧
      ((p.readDisabled b).runOn c).1 = .ok true
  given : p.isEncrypted = true → ∃ ciphertext,
    ((p.readRaw b).runOn c).1 = .ok (some ciphertext) ∧
      fields.get? "EncryptedValue" = some (.string ciphertext)
  taken : p.isFromInput = true → ∃ value keyId,
    ((p.readValue b).runOn c).1 = .ok (some value) ∧
      ((p.readKeyId b).runOn c).1 = .ok (some keyId) ∧
      fields.get? "EncryptedValue" = some (.string (Cipher.sealed value keyId))

section
variable {p : Parameter} {b : Bindings} {c d t : Client}

theorem readRaw_ok (filled : p.content.isSome = true) (hd : c.Echoes d) {raw : Option String}
    (run : (p.readRaw b).runOn d = (.ok raw, t)) :
    ∃ text, raw = some text ∧ ((p.readRaw b).runOn c).1 = .ok (some text) ∧ c.Echoes t := by
  obtain ⟨read, ht⟩ :=
    hd.reads ((Client.steady_echoes c).readRaw (Client.answers_echoes c b _)) run
  have there : raw.isSome = p.content.isSome := meets_readRaw.ok hd.voice run
  obtain ⟨text, rfl⟩ := Option.isSome_iff_exists.1 (there.trans filled)
  exact ⟨text, rfl, read, ht⟩

theorem readKeyId_ok (keyed : p.keyId.isSome = true) (hd : c.Echoes d) {keyId : Option String}
    (run : (p.readKeyId b).runOn d = (.ok keyId, t)) :
    ∃ text, keyId = some text ∧ ((p.readKeyId b).runOn c).1 = .ok (some text) := by
  have keeps : Keeps Client.voice (p.readKeyId b) := keeps_voice.readKeyId (answers_voice b _)
  have there : keyId.isSome = p.keyId.isSome := (meets_resolveOption keeps).ok hd.voice run
  obtain ⟨text, rfl⟩ := Option.isSome_iff_exists.1 (there.trans keyed)
  exact ⟨text, rfl, (hd.reads ((Client.steady_echoes c).readKeyId (Client.answers_echoes c b _)) run).1⟩

/-- A value in the clear is there when it is read, if there is one. -/
theorem readValue_ok (filled : p.content.isSome = true) (clear : p.isEncrypted = false)
    (hd : c.Echoes d) {value : Option String} (run : (p.readValue b).runOn d = (.ok value, t)) :
    ∃ text, value = some text ∧ ((p.readValue b).runOn c).1 = .ok (some text) ∧ c.Echoes t := by
  obtain ⟨read, ht⟩ :=
    hd.reads ((Client.steady_echoes c).readValue (Client.answers_echoes c b _)) run
  obtain ⟨raw, e, raw_run, run⟩ := runOn_bind_ok run
  obtain ⟨text, rfl, -, -⟩ := readRaw_ok filled hd raw_run
  simp only [clear, Bool.false_eq_true, if_false, runOn_pure, Prod.mk.injEq, Except.ok.injEq] at run
  obtain ⟨rfl, rfl⟩ := run
  exact ⟨text, rfl, read, ht⟩

/-- Only a disabled parameter is read without a value. -/
theorem readValue_absent (absent : p.content = none) (hd : c.Echoes d) {value : Option String}
    (run : (p.readValue b).runOn d = (.ok value, t)) :
    value = none ∧ ((p.readDisabled b).runOn c).1 = .ok true := by
  obtain ⟨raw, e, raw_run, run⟩ := runOn_bind_ok run
  rw [readRaw, absent] at raw_run
  cases raw_run
  obtain ⟨disabled, u, read, run⟩ := runOn_bind_ok run
  have before := (hd.reads ((Client.steady_echoes c).readDisabled (Client.answers_echoes c b _)) read).1
  cases disabled with
  | true =>
    cases run
    exact ⟨rfl, before⟩
  | false =>
    obtain ⟨name, w, -, run⟩ := runOn_bind_ok run
    cases run

theorem encrypt_ok {plaintext keyId ciphertext : String}
    (run : (Client.encrypt plaintext keyId).runOn d = (.ok ciphertext, t)) :
    ciphertext = Cipher.sealed plaintext keyId := by
  rw [Client.encrypt_runOn, Client.answer] at run
  split at run
  · rename_i r hr
    split at hr
    · cases hr
    · cases hr
      cases run
      rfl
  · cases run

end

section
variable {p : Parameter} {b : Bindings} {c t : Client}

/-- The fields of a parameter are what its value is written as, with its name before it and the other
fields behind it. -/
theorem dump_ok {fields : Mapping} (run : (p.dump b).runOn c = (.ok fields, t)) :
    ∃ name content pattern keyId d e, c.Echoes d ∧
      (p.dumpContent b).runOn d = (.ok content, e) ∧
      fields = (.string "Name", .string name) ::
        dumped p.kind content.1 content.2 pattern p.description keyId := by
  obtain ⟨name, d, read, run⟩ := runOn_bind_ok run
  have hd := (Client.Echoes.refl c).reads
    ((Client.steady_echoes c).readName (Client.answers_echoes c b _)) read
  obtain ⟨others, u, written, run⟩ := runOn_bind_ok run
  cases run
  rw [dumpFields_eq] at written
  obtain ⟨content, e, value, written⟩ := runOn_bind_ok written
  obtain ⟨pattern, e', -, written⟩ := runOn_bind_ok written
  obtain ⟨keyId, e'', -, written⟩ := runOn_bind_ok written
  cases written
  exact ⟨name, content, pattern, keyId, d, e, hd.2, value, rfl⟩

theorem get?_ciphertext (name ciphertext : String) (kind : Kind)
    (pattern description keyId : Option String) :
    let fields : Mapping := (.string "Name", .string name) ::
      dumped kind "EncryptedValue" (some ciphertext) pattern description keyId
    fields.get? "EncryptedValue" = some (.string ciphertext) ∧ fields.get? "Value" = none :=
  ⟨get?_dumped_value _ _ _ _ _ (.inr rfl), get?_dumped_other _ _ _ _ _ (by decide)⟩

/-- A secret parameter that has a key, and no value in the clear, is written with its value concealed. -/
theorem Sound.conceals (sound : p.Sound) {o : LoadOptions} (permitted : p.Permitted o)
    (strict : o.allowSecureStringValue = false) (secret : p.kind.isSecure = true) {fields : Mapping}
    (written : (p.dump b).runOn c = (.ok fields, t)) : p.Conceals b c fields := by
  obtain ⟨name, content, pattern, keyId, d, e, hd, run, rfl⟩ := dump_ok written
  rcases sound.value_cases with ⟨hk, he, hi⟩ | ⟨hk, he, hi⟩ | ⟨he, hi⟩
  · -- a ciphertext is written as it was given
    rw [dumpContent_encrypted hk he] at run
    obtain ⟨raw, reading, rfl⟩ := runOn_map_ok run
    obtain ⟨text, rfl, before, -⟩ := readRaw_ok (permitted.sealed he) hd reading
    obtain ⟨shown, hidden⟩ := get?_ciphertext name text p.kind pattern p.description keyId
    exact ⟨.inl ⟨⟨text, shown⟩, hidden⟩, fun _ => ⟨text, before, shown⟩,
      fun taken => by rw [hi] at taken; cases taken⟩
  · -- the value of an input is encrypted with the parameter's own key
    rw [dumpContent_input hk he hi] at run
    obtain ⟨-, -, t, key, single, -, own⟩ := sound.of_isFromInput hi
    obtain ⟨value, u, read_value, run⟩ := runOn_bind_ok run
    obtain ⟨value, rfl, before, hu⟩ := readValue_ok (single ▸ rfl) he hd read_value
    obtain ⟨key, w, read_key, run⟩ := runOn_bind_ok run
    obtain ⟨key, rfl, keyed⟩ := readKeyId_ok (own ▸ rfl) hu read_key
    obtain ⟨text, v, sealing, run⟩ := runOn_bind_ok run
    cases run
    obtain rfl := encrypt_ok sealing
    obtain ⟨shown, hidden⟩ := get?_ciphertext name (Cipher.sealed value key) p.kind pattern
      p.description keyId
    exact ⟨.inl ⟨⟨_, shown⟩, hidden⟩, (fun given => by rw [he] at given; cases given),
      fun _ => ⟨value, key, before, keyed, shown⟩⟩
  · -- nothing in the clear was allowed, so there is no value at all
    have absent : p.content = none := by
      cases hc : p.content with
      | none => rfl
      | some content =>
        have allowed := permitted.clear secret he hi (hc ▸ rfl)
        rw [strict] at allowed
        cases allowed
    rw [dumpContent_plain he hi] at run
    obtain ⟨value, reading, rfl⟩ := runOn_map_ok run
    obtain ⟨rfl, disabled⟩ := readValue_absent absent hd reading
    refine ⟨.inr ⟨get?_dumped_other _ _ _ _ _ (by decide), get?_dumped_value _ _ _ _ _ (.inl rfl),
      absent, disabled⟩, fun given => ?_, fun taken => ?_⟩
    · rw [he] at given
      cases given
    · rw [hi] at taken
      cases taken

end

/-- A parameter that was loaded is secret exactly if it has a key. Only a secret value is ciphertext,
it is no list, and only one that was taken from an input carries a key, the parameter's own. Whoever
writes a secret parameter down, where no secret may stand in the clear, writes its value concealed. -/
theorem ofFields_conceals {o : LoadOptions} {m : Mapping} {p : Parameter}
    (loaded : ofFields o m = .ok p) :
    (p.keyId.isSome = true ↔ p.kind = .secureString) ∧
      (p.isEncrypted = true → p.kind = .secureString) ∧
      (p.kind = .secureString → ∀ items, p.content ≠ some (.list items)) ∧
      (∀ t key, p.content = some (.single t) → t.keyId = some key →
        p.kind = .secureString ∧ FedByInput m ∧ p.keyId = some key) ∧
      (∀ items, p.content = some (.list items) → ∀ t ∈ items, t.keyId = none) ∧
      (o.allowSecureStringValue = false → p.kind = .secureString →
        ∀ (b : Bindings) (c t : Client) (fields : Mapping),
          (p.dump b).runOn c = (.ok fields, t) → p.Conceals b c fields) := by
  obtain ⟨name, d⟩ := ofFields_ok.1 loaded
  have sound := d.sound
  refine ⟨?_, fun he => ?_, fun hk => ?_, fun t key single keyed => ?_, sound.items, ?_⟩
  · rw [sound.keyId_isSome, Kind.isSecure_iff]
  · exact (Kind.isSecure_iff _).1 (sound.secure_of_encrypted he)
  · exact sound.single ((Kind.isSecure_iff _).2 hk)
  · obtain ⟨-, own⟩ := sound.input t key single keyed
    refine ⟨?_, d.fedByInput single keyed, own⟩
    rw [← Kind.isSecure_iff, ← sound.keyId_isSome, own]
    rfl
  · intro strict secret b c t fields run
    exact sound.conceals (d.permitted id) strict ((Kind.isSecure_iff _).2 secret) run

/-- A password that was typed in. -/
theorem ofFields_conceals_password :
    ∃ (p : Parameter) (b : Bindings) (fields : Mapping) (t : Client),
      ofFields {} [(.string "Name", .string "/a"), (.string "KeyId", .string "key"),
        (.string "Input", .string "Password")] = .ok p ∧ p.isFromInput = true ∧
      b.get? "Password" =
        some (.input { name := "Password", kind := .secureString, typed := some "secret" }) ∧
      (p.dump b).runOn {} = (.ok fields, t) ∧ p.Conceals b {} fields := by
  let b : Bindings := NameMap.empty.insert "Password"
    (.input { name := "Password", kind := .secureString, typed := some "secret" })
  have facts : (ofFields {} [(.string "Name", .string "/a"), (.string "KeyId", .string "key"),
      (.string "Input", .string "Password")]).map
        (fun p => (p.kind, p.isFromInput, ((p.dump b).runOn {}).1.isOk)) =
      .ok (.secureString, true, true) := by decide +kernel
  obtain ⟨p, loaded, facts⟩ := ok_of_map facts
  simp only [Prod.mk.injEq] at facts
  obtain ⟨secret, fromInput, written⟩ := facts
  obtain ⟨fields, t, run⟩ := exists_of_isOk written
  have conceals := (ofFields_conceals loaded).2.2.2.2.2 rfl secret b {} t fields run
  exact ⟨p, b, fields, t, loaded, fromInput, NameMap.get?_insert_self .., run, conceals⟩

end Parameter

end ParamFile
