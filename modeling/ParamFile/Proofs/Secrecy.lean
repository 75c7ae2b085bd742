import ParamFile.Proofs.Client
import ParamFile.Proofs.Fields
import ParamFile.Proofs.Judgement
import ParamFile.Proofs.Reads

/-!
# Compiling keeps secrets

Two binding sets are twins (`Bindings.Twins`) if they differ at most in what secret inputs hold. For
two clients that answer alike (`Client.voice`) names and paths to flush read the same against twins,
and compiling gives the same error or the same document up to ciphertexts of values that are taken
from inputs (`compile_twins`). The bindings enter the argument only through `reads_twins`: without a
key twins read the same, and with a key both are answered.
-/

namespace ParamFile

open ParamFile.Action Yaml

/-! ## Clients that answer alike -/

/-- What a client answers about itself, and the calls that fail for it. -/
structure Voice where
  failing : List Call
  region : Except Error String
  account : Except Error String

namespace Client

/-- What a client answers about itself, whatever it was asked before. -/
def voice (c : Client) : Voice where
  failing := c.backend.failing
  region := c.region.elim (answer .region (fun s => .ok s.region) c) .ok
  account := c.account.elim (answer .account (fun s => .ok s.account) c) .ok

theorem keeps_voice_askRegion : Keeps voice askRegion := by
  intro c
  rw [askRegion_runOn]
  cases hr : c.region with
  | some r => rfl
  | none =>
    cases ha : answer .region (fun s => .ok s.region) c with
    | error e => rfl
    | ok r => simp only [voice, hr, ha, Option.elim]; rfl

theorem keeps_voice_askAccount : Keeps voice askAccount := by
  intro c
  rw [askAccount_runOn]
  cases hr : c.account with
  | some r => rfl
  | none =>
    cases ha : answer .account (fun s => .ok s.account) c with
    | error e => rfl
    | ok r => simp only [voice, hr, ha, Option.elim]; rfl

theorem keeps_voice_encrypt (plaintext keyId : String) :
    Keeps voice (encrypt plaintext keyId) := by
  intro c
  rw [encrypt_runOn]
  split <;> rfl

theorem keeps_voice_decrypt (ciphertext : String) : Keeps voice (decrypt ciphertext) := by
  intro c
  rw [decrypt_runOn]
  split
  · rfl
  · split <;> rfl

variable {v : Voice}

theorem askRegion_voice (c : Client) : (askRegion.runOn c).1 = c.voice.region := by
  rw [askRegion_runOn, voice]
  cases c.region with
  | some r => rfl
  | none =>
    simp only [Option.elim]
    split <;> simp [*]

theorem askAccount_voice (c : Client) : (askAccount.runOn c).1 = c.voice.account := by
  rw [askAccount_runOn, voice]
  cases c.account with
  | some r => rfl
  | none =>
    simp only [Option.elim]
    split <;> simp [*]

def Alike (v : Voice) (c d : Client) : Prop := c.voice = v ∧ d.voice = v

/-- Two actions that keep the voice agree if their ends do. -/
theorem agree_of_keeps {α β : Type} {R : α → β → Prop} {a : ClientM α} {b : ClientM β}
    (ha : Keeps voice a) (hb : Keeps voice b)
    (h : ∀ c d, Alike v c d → SameEnd R (a.runOn c).1 (b.runOn d).1) : Agree (Alike v) R a b :=
  fun c d hcd => ⟨h c d hcd, (ha c).trans hcd.1, (hb d).trans hcd.2⟩

theorem agree_askRegion : Agree (Alike v) (· = ·) askRegion askRegion :=
  agree_of_keeps keeps_voice_askRegion keeps_voice_askRegion fun c d h => sameEnd_eq.2 (by
    rw [askRegion_voice, askRegion_voice, h.1, h.2])

theorem agree_askAccount : Agree (Alike v) (· = ·) askAccount askAccount :=
  agree_of_keeps keeps_voice_askAccount keeps_voice_askAccount fun c d h => sameEnd_eq.2 (by
    rw [askAccount_voice, askAccount_voice, h.1, h.2])

theorem agree_encrypt (x y keyId : String) :
    Agree (Alike v) (fun _ _ => True) (encrypt x keyId) (encrypt y keyId) := by
  refine agree_of_keeps (keeps_voice_encrypt x keyId) (keeps_voice_encrypt y keyId) fun c d h => ?_
  have failing : c.backend.failing = d.backend.failing :=
    congrArg Voice.failing (h.1.trans h.2.symm)
  simp only [encrypt_runOn, answer, failing]
  by_cases hf : Call.encrypt ∈ d.backend.failing
  · simp only [if_pos hf]
    exact .error _
  · simp only [if_neg hf]
    exact .ok trivial

/-- A ciphertext that opens is decrypted, unless decrypting fails. -/
theorem decrypt_of_opens {c : Client} {ciphertext : String} {e : String × String}
    (working : .decrypt ∉ c.backend.failing) (h : Cipher.opened ciphertext = .ok e) :
    ∃ x, ((decrypt ciphertext).runOn c).1 = .ok x := by
  rw [decrypt_runOn]
  cases c.plaintexts.lookup ciphertext with
  | some p => exact ⟨p, rfl⟩
  | none =>
    simp only [answer, if_neg working, h]
    exact ⟨e.2, rfl⟩

end Client

/-! ## Twins -/

/-- The input has a value, and it can be decrypted if it is ciphertext. -/
structure Input.Readable (failing : List Call) (i : Input) : Prop where
  set : i.isSet = true
  opens : ∀ c, i.typed = none → i.ciphertext = some c →
    .decrypt ∉ failing ∧ ∃ e, Cipher.opened c = .ok e

/-- Two inputs that differ at most in the secret that they hold, which can be read in both. -/
structure Input.Twins (failing : List Call) (i j : Input) : Prop where
  stored : i.Stored
  same : i.kind.isSecure = false → i = j
  secret : i.kind.isSecure = true →
    j = { i with plain := j.plain, ciphertext := j.ciphertext, typed := j.typed } ∧
      i.Readable failing ∧ j.Readable failing

/-- Two bindings that differ at most in a secret. -/
inductive Binding.Twins (failing : List Call) : Binding → Binding → Prop
  | input {i j : Input} (h : i.Twins failing j) : Twins failing (.input i) (.input j)
  | builtIn (x : BuiltIn) : Twins failing (.builtIn x) (.builtIn x)

/-- Two binding sets for the same variables that differ at most in secrets. -/
def Bindings.Twins (failing : List Call) (b b' : Bindings) : Prop :=
  ∀ name, Option.Rel (Binding.Twins failing) (b.get? name) (b'.get? name)

section
variable {v : Voice}

theorem Input.Readable.value_ok {i : Input} {c : Client} (h : i.Readable c.backend.failing)
    (key : String) : ∃ x, ((i.value (some key)).runOn c).1 = .ok x := by
  unfold value
  dsimp only
  split
  · exact ⟨_, rfl⟩
  · rename_i ht hc
    obtain ⟨working, e, he⟩ := h.opens _ ht hc
    exact Client.decrypt_of_opens working he
  · exact ⟨_, rfl⟩
  · rename_i ht hc hp
    have set := h.set
    simp [isSet, ht, hc, hp] at set

theorem Input.Twins.agree_plain {i j : Input} (h : i.Twins v.failing j) :
    Agree (Client.Alike v) (· = ·) (i.value none) (j.value none) := by
  cases hk : i.kind.isSecure with
  | true =>
    have eq := (h.secret hk).1
    have hj : j.kind.isSecure = true := by rw [eq]; exact hk
    have hn : j.name = i.name := by rw [eq]
    simp only [value, hk, hj, hn, if_true]
    exact .throw _
  | false =>
    rw [← h.same hk]
    simp only [value, hk]
    cases i.plain with
    | none => exact .throw _
    | some x => exact .pure rfl

theorem Input.Twins.agree_keyed {i j : Input} (h : i.Twins v.failing j) (key : String) :
    Agree (Client.Alike v) (fun _ _ => True) (i.value (some key)) (j.value (some key)) := by
  cases hk : i.kind.isSecure with
  | true =>
    obtain ⟨-, hi, hj⟩ := h.secret hk
    have keeps (i : Input) : Keeps Client.voice (i.value (some key)) :=
      (keeps_judgement Client.keeps_voice_decrypt).value Keeps.throw i _
    refine Client.agree_of_keeps (keeps i) (keeps j) fun c d hcd => ?_
    obtain ⟨rfl, hd⟩ := hcd
    obtain ⟨x, hx⟩ := Readable.value_ok (c := c) hi key
    obtain ⟨y, hy⟩ := Readable.value_ok (c := d) (hd ▸ hj) key
    rw [hx, hy]
    exact .ok trivial
  | false =>
    obtain ⟨hc, ht⟩ := h.stored hk
    rw [← h.same hk]
    simp only [value, hc, ht]
    cases i.plain with
    | none => exact .throw _
    | some x => exact .pure trivial

theorem BuiltIn.agree_value (x : BuiltIn) :
    Agree (Client.Alike v) (· = ·) x.value x.value := by
  cases x with
  | region => exact Client.agree_askRegion
  | account => exact Client.agree_askAccount

/-- Twins read the same without a key, and both are answered with one. -/
theorem reads_twins {b b' : Bindings} (h : b.Twins v.failing b') :
    Reads (Client.Alike v) b b' where
  plain name := by
    unfold Bindings.read
    have rel := h name
    cases hb : b.get? name <;> cases hb' : b'.get? name <;> rw [hb, hb'] at rel
    · exact .throw _
    · cases rel
    · cases rel
    · rcases rel with ⟨hi | x⟩
      · exact hi.agree_plain
      · exact x.agree_value
  keyed name key := by
    unfold Bindings.read
    have rel := h name
    cases hb : b.get? name <;> cases hb' : b'.get? name <;> rw [hb, hb'] at rel
    · exact .throw _
    · cases rel
    · cases rel
    · rcases rel with ⟨hi | x⟩
      · exact hi.agree_keyed key
      · exact x.agree_value.mono fun _ _ _ => trivial

/-! ## Documents -/

/-- Fields that differ at most in the text of the ciphertext. -/
def SealedAlike (m m' : Mapping) : Prop :=
  ∃ t t', m.get? "EncryptedValue" = some (.string t) ∧ m' = m.insert "EncryptedValue" (.string t')

/-- The same entry, or one of a parameter that takes its value from an input, with fields that differ
at most in the ciphertext. -/
inductive SameEntry (ps : List Parameter) (b : Bindings) : Value × Value → Value × Value → Prop
  | same (e : Value × Value) : SameEntry ps b e e
  | sealed {p : Parameter} (hp : p ∈ ps) (hi : p.isFromInput = true) {name : String}
      (named : ∃ c, ((p.readName b).runOn c).1 = .ok name) {m m' : Mapping}
      (h : SealedAlike m m') : SameEntry ps b (.string name, .map m) (.string name, .map m')

theorem SameEntry.key_eq {ps : List Parameter} {b : Bindings} {e e' : Value × Value}
    (h : SameEntry ps b e e') : e.1 = e'.1 := by
  cases h <;> rfl

theorem SameEntry.insert {ps : List Parameter} {b : Bindings} {m m' : Mapping}
    (hm : List.Forall₂ (SameEntry ps b) m m') {name : String} {x y : Value}
    (h : SameEntry ps b (.string name, x) (.string name, y)) :
    List.Forall₂ (SameEntry ps b) (m.insert name x) (m'.insert name y) := by
  induction hm with
  | nil => exact .cons h .nil
  | @cons e e' rest rest' he hrest ih =>
    obtain ⟨k, w⟩ := e
    obtain ⟨k', w'⟩ := e'
    obtain rfl : k = k' := he.key_eq
    cases k with
    | string s =>
      simp only [Mapping.insert]
      split
      · rename_i eq
        subst eq
        exact .cons h hrest
      · exact .cons he ih
    | null => exact .cons he ih
    | bool x => exact .cons he ih
    | number n => exact .cons he ih
    | seq items => exact .cons he ih
    | map entries => exact .cons he ih
    | tagged tag x => exact .cons he ih

section
variable {b b' : Bindings} (h : Reads (Client.Alike v) b b')
include h

theorem agree_dumpContent {p : Parameter} (hp : p.Sound) :
    Agree (Client.Alike v) (fun x y => x = y ∨ p.isFromInput = true ∧
        ∃ t t', x = ("EncryptedValue", some t) ∧ y = ("EncryptedValue", some t'))
      (p.dumpContent b) (p.dumpContent b') := by
  rcases hp.value_cases with ⟨hk, he, hi⟩ | ⟨hk, he, hi⟩ | ⟨he, hi⟩
  · simp only [Parameter.dumpContent_encrypted hk he]
    exact (h.agree_readRaw hp hi).map fun _ _ e => .inl (by rw [e])
  · simp only [Parameter.dumpContent_input hk he hi]
    refine (h.agree_readValue_input hp hi).bind fun x y hxy => ?_
    obtain ⟨hx, hy⟩ := hxy
    obtain ⟨x, rfl⟩ := Option.isSome_iff_exists.1 hx
    obtain ⟨y, rfl⟩ := Option.isSome_iff_exists.1 hy
    refine (h.agree_readKeyId hp).bind fun key key' e => ?_
    subst e
    cases key with
    | none => exact .pure (.inl rfl)
    | some key =>
      exact (Client.agree_encrypt x y key).bind fun t t' _ => .pure (.inr ⟨hi, t, t', rfl, rfl⟩)
  · simp only [Parameter.dumpContent_plain he hi]
    exact (h.agree_readValue hp he hi).map fun _ _ e => .inl (by rw [e])

theorem agree_dumpFields {p : Parameter} (hp : p.Sound) :
    Agree (Client.Alike v) (fun m m' => m = m' ∨ p.isFromInput = true ∧ SealedAlike m m')
      (p.dumpFields b) (p.dumpFields b') := by
  rw [Parameter.dumpFields_eq, Parameter.dumpFields_eq]
  refine (agree_dumpContent h hp).bind fun x y hxy => ?_
  refine (h.agree_readPattern hp).bind fun pattern pattern' e => ?_
  subst e
  refine (h.agree_readKeyId hp).bind fun keyId keyId' e => ?_
  subst e
  refine .pure ?_
  rcases hxy with rfl | ⟨hi, t, t', rfl, rfl⟩
  · exact .inl rfl
  · have value : Parameter.IsValueField "EncryptedValue" := .inr rfl
    refine .inr ⟨hi, t, t', Parameter.get?_dumped_value _ _ _ _ _ value, ?_⟩
    exact (Parameter.dumped_insert _ _ _ _ _ value (some t')).symm

theorem agree_skips (ignoreDisabled : Bool) {p : Parameter} (hp : p.Sound) :
    Agree (Client.Alike v) (· = ·) (Document.skips b ignoreDisabled p)
      (Document.skips b' ignoreDisabled p) := by
  unfold Document.skips
  split
  · exact h.agree_readDisabled hp
  · exact .pure rfl

theorem agree_compileEntries {ps : List Parameter} (hps : ∀ p ∈ ps, p.Sound)
    (ignoreDisabled : Bool) {l : List Parameter} (hl : l ⊆ ps) {m m' : Mapping}
    (hm : List.Forall₂ (SameEntry ps b) m m') :
    Agree (Client.Alike v) (List.Forall₂ (SameEntry ps b))
      (Document.compileEntries b ignoreDisabled l m)
      (Document.compileEntries b' ignoreDisabled l m') := by
  induction l generalizing m m' with
  | nil => exact .pure hm
  | cons p rest ih =>
    have here : p ∈ ps := hl List.mem_cons_self
    have hp := hps p here
    have tail : rest ⊆ ps := fun q hq => hl (List.mem_cons_of_mem _ hq)
    rw [Document.compileEntries_cons, Document.compileEntries_cons]
    refine (agree_skips h ignoreDisabled hp).bind fun skip skip' e => ?_
    subst e
    split
    · exact ih tail hm
    · -- the same name was read, so both runs write the same entry
      refine (h.agree_readName hp).reached.bind fun name name' hn => ?_
      obtain ⟨rfl, named⟩ := hn
      refine (agree_dumpFields h hp).bind fun fields fields' hf => ih tail ?_
      refine SameEntry.insert hm ?_
      rcases hf with rfl | ⟨hi, hs⟩
      · exact .same _
      · exact .sealed here hi named hs

theorem agree_readFlushPaths {d : Document} :
    Agree (Client.Alike v) (· = ·) (d.bound b).readFlushPaths (d.bound b').readFlushPaths :=
  Agree.mapM_eq fun _ _ => h.agree_resolve rfl

theorem agree_readNames {d : Document} (hd : d.Built) :
    Agree (Client.Alike v) (· = ·) (d.bound b).readNames (d.bound b').readNames :=
  Agree.mapM_eq fun p hp => h.agree_readName (hd.sound p hp)

theorem agree_compile {d : Document} (hd : d.Built) (includeFlush ignoreDisabled : Bool) :
    Agree (Client.Alike v) (List.Forall₂ (SameEntry d.parameters.values b))
      ((d.bound b).compile includeFlush ignoreDisabled)
      ((d.bound b').compile includeFlush ignoreDisabled) := by
  rw [Resolved.compile_eq, Resolved.compile_eq]
  have listed : Agree (Client.Alike v) (· = ·) ((d.bound b).readListed includeFlush)
      ((d.bound b').readListed includeFlush) := by
    unfold Resolved.readListed
    split
    · exact agree_readFlushPaths h
    · exact .pure rfl
  refine listed.bind fun paths paths' e => ?_
  subst e
  refine agree_compileEntries h hd.sound ignoreDisabled (fun _ hp => hp) ?_
  exact List.forall₂_same.2 fun e _ => .same e

end

end

/-- Names, paths to flush and conditions read the same against twins, and compiling ends with the same
error or with the same document up to the ciphertexts of values that are taken from inputs. -/
theorem Document.compile_twins {d : Document} (hd : d.Built) {c c' : Client}
    (alike : c.voice = c'.voice) {b b' : Bindings} (h : b.Twins c.backend.failing b') :
    ((d.bound b).readNames.runOn c).1 = ((d.bound b').readNames.runOn c').1 ∧
      ((d.bound b).readFlushPaths.runOn c).1 = ((d.bound b').readFlushPaths.runOn c').1 ∧
      (∀ p ∈ d.parameters.values,
        ((p.readDisabled b).runOn c).1 = ((p.readDisabled b').runOn c').1) ∧
      ∀ includeFlush ignoreDisabled,
        SameEnd (List.Forall₂ (SameEntry d.parameters.values b))
          (((d.bound b).compile includeFlush ignoreDisabled).runOn c).1
          (((d.bound b').compile includeFlush ignoreDisabled).runOn c').1 := by
  have reads : Reads (Client.Alike c.voice) b b' := reads_twins h
  have clients : Client.Alike c.voice c c' := ⟨rfl, alike.symm⟩
  refine ⟨?_, ?_, fun p hp => ?_, fun includeFlush ignoreDisabled => ?_⟩
  · exact sameEnd_eq.1 (agree_readNames reads hd c c' clients).1
  · exact sameEnd_eq.1 (agree_readFlushPaths reads c c' clients).1
  · exact sameEnd_eq.1 (reads.agree_readDisabled (hd.sound p hp) c c' clients).1
  · exact (agree_compile reads hd includeFlush ignoreDisabled c c' clients).1

/-- Two passwords for one parameter. -/
theorem Document.compile_twins_typed :
    ∃ d b b', ofTree {} (.map [(.string "/a", .map [(.string "KeyId", .string "key"),
        (.string "Input", .string "Password")])]) = .ok d ∧
      Bindings.Twins [] b b' ∧ b.entries ≠ b'.entries ∧
      SameEnd (List.Forall₂ (SameEntry d.parameters.values b))
        (((d.bound b).compile true true).runOn {}).1
        (((d.bound b').compile true true).runOn {}).1 := by
  let password (typed : String) : Bindings := NameMap.empty.insert "Password"
    (.input { name := "Password", kind := .secureString, typed := some typed })
  have twins : Bindings.Twins [] (password "one") (password "two") := by
    intro name
    simp only [password, NameMap.get?_insert, NameMap.get?_empty]
    split
    · refine .some (.input ⟨?_, ?_, fun _ => ⟨rfl, ⟨rfl, ?_⟩, ⟨rfl, ?_⟩⟩⟩)
      · exact fun hk => by cases hk
      · exact fun hk => by cases hk
      · exact fun c ht => by cases ht
      · exact fun c ht => by cases ht
    · exact .none
  have loaded : (ofTree {} (.map [(.string "/a", .map [(.string "KeyId", .string "key"),
      (.string "Input", .string "Password")])])).isOk = true := by decide +kernel
  obtain ⟨d, hd⟩ := ok_of_isOk loaded
  refine ⟨d, password "one", password "two", hd, twins, by decide, ?_⟩
  exact (compile_twins (.read hd) rfl twins).2.2.2 true true

end ParamFile
