import ParamFile.Proofs.Entries
import ParamFile.Proofs.Secrecy

/-!
# Compiling what was compiled

What is compiled without its disabled parameters is a document of entries that can be read again
(`meets_compileEntries`, `written_of_compile`): each has its value, it has a key exactly if it is
secret, and a secret one is ciphertext unless it may stand in the clear. The entries are read as
parameters that say the same, so the document compiles to itself (`compile_of_compiled`).
-/

namespace ParamFile

open ParamFile.Action Yaml

/-! ## Values that may be written -/

namespace Parameter

/-- A ciphertext is there, and a secret value that is given in the clear may be. -/
structure Permitted (o : LoadOptions) (p : Parameter) : Prop where
  sealed : p.isEncrypted = true → p.content.isSome = true
  clear : p.kind.isSecure = true → p.isEncrypted = false → p.isFromInput = false →
    p.content.isSome = true → o.allowSecureStringValue = true

theorem secureContent_sealed {o : LoadOptions} {m : Mapping} {name : String} {key : Template}
    {content : Option Content} {encrypted : Bool}
    (h : secureContent o m name key = .ok (content, encrypted)) :
    (encrypted = true → content.isSome = true) ∧
      (encrypted = false → o.allowSecureStringValue = true ∨ content = none ∨
        ∃ t, content = some (.single t) ∧ t.keyId = some key) := by
  cases secureContent_source.1 h with
  | ciphertext => exact ⟨fun _ => rfl, fun he => by cases he⟩
  | input => exact ⟨(fun he => by cases he), fun _ => .inr (.inr ⟨_, rfl, rfl⟩)⟩
  | clear _ _ _ allowed => exact ⟨(fun he => by cases he), fun _ => .inl allowed⟩
  | absent => exact ⟨(fun he => by cases he), fun _ => .inr (.inl rfl)⟩

theorem Describes.permitted {used o : LoadOptions} {m : Mapping} {name : String} {p : Parameter}
    (d : Describes used m name p)
    (allow : used.allowSecureStringValue = true → o.allowSecureStringValue = true) :
    p.Permitted o where
  sealed he := by
    obtain ⟨key, -, content⟩ := d.secure (d.sound.secure_of_encrypted he)
    exact (secureContent_sealed content).1 he
  clear hk he hi filled := by
    obtain ⟨key, -, content⟩ := d.secure hk
    rcases (secureContent_sealed content).2 he with allowed | none | ⟨t, single, keyed⟩
    · exact allow allowed
    · rw [none] at filled
      cases filled
    · rw [isFromInput, single] at hi
      simp only [keyed, Option.isSome_some, Bool.true_eq_false] at hi

end Parameter

/-! ## Reading what is written -/

section
variable {v : Voice}

theorem plainReads_self (b : Bindings) : PlainReads (Client.Alike v) b b where
  plain name := by
    unfold Bindings.read
    cases b.get? name with
    | none => exact .throw _
    | some x =>
      cases x with
      | builtIn x => exact x.agree_value
      | input i =>
        simp only [Binding.value, Input.value]
        split
        · exact .throw _
        · cases i.plain with
          | none => exact .throw _
          | some s => exact .pure rfl

theorem keeps_voice : Judgement (Keeps Client.voice) :=
  keeps_judgement Client.keeps_voice_decrypt

theorem answers_voice (b : Bindings) (names : List String) :
    Answers (Keeps Client.voice) b names :=
  keeps_voice.answers Keeps.throw Client.keeps_voice_askRegion Client.keeps_voice_askAccount names

/-- An action that keeps the voice meets what holds of its results. -/
theorem meets_of_keeps {α : Type} {a : ClientM α} {Q : α → Prop} (keeps : Keeps Client.voice a)
    (h : ∀ c t x, a.runOn c = (.ok x, t) → Q x) :
    Meets (·.voice = v) a Q (fun _ => True) := by
  intro c hc
  refine ⟨?_, (keeps c).trans hc⟩
  rcases run : a.runOn c with ⟨e | x, t⟩
  · trivial
  · exact h c t x run

namespace Parameter

variable {b : Bindings} {p : Parameter}

theorem meets_resolveOption {t : Option Template}
    (keeps : Keeps Client.voice (resolveOption b t)) :
    Meets (·.voice = v) (resolveOption b t) (fun s => s.isSome = t.isSome) (fun _ => True) := by
  refine meets_of_keeps keeps fun c c' s run => ?_
  cases t with
  | none => cases run; rfl
  | some t =>
    obtain ⟨text, -, rfl⟩ := runOn_map_ok run
    rfl

theorem meets_readRaw :
    Meets (·.voice = v) (p.readRaw b) (fun raw => raw.isSome = p.content.isSome)
      (fun _ => True) := by
  refine meets_of_keeps (keeps_voice.readRaw (answers_voice b _)) fun c t raw run => ?_
  unfold readRaw at run
  split at run
  · rename_i none
    cases run
    rw [none]
    rfl
  · rename_i template single
    obtain ⟨text, -, rfl⟩ := runOn_map_ok run
    rw [single]
    rfl
  · rename_i items list
    obtain ⟨texts, c', -, run⟩ := runOn_bind_ok run
    cases run
    rw [list]
    rfl

section
variable (enabled : Yields (fun c => c.voice = v) (p.readDisabled b) (.ok false))
include enabled

/-- A parameter that is not disabled has a value whenever one is read. -/
theorem meets_readValue :
    Meets (·.voice = v) (p.readValue b) (fun x => x.isSome = true ∧ p.content.isSome = true)
      (fun _ => True) := by
  refine meets_readRaw.bind fun raw filled => ?_
  cases raw with
  | none =>
    -- the condition is read a second time here, and the answer is the same
    have again : Meets (·.voice = v) (p.readDisabled b) (· = false) (fun _ => True) := by
      intro c hc
      obtain ⟨answered, kept⟩ := enabled c hc
      rw [answered]
      exact ⟨rfl, kept⟩
    refine again.bind fun disabled hd => ?_
    subst hd
    have name : Keeps Client.voice (p.reportName b) := keeps_voice.reportName (answers_voice b _)
    exact (keeps_iff.1 name v).bind fun _ _ => .throw trivial
  | some raw =>
    have there : p.content.isSome = true := filled.symm
    dsimp only
    split
    · have key : Keeps Client.voice (p.readKeyId b) := keeps_voice.readKeyId (answers_voice b _)
      refine (keeps_iff.1 key v).bind fun _ _ => ?_
      exact (keeps_iff.1 (Client.keeps_voice_decrypt raw) v).map fun _ _ => ⟨rfl, there⟩
    · exact .pure ⟨rfl, there⟩

variable {o : LoadOptions} (sound : p.Sound) (permitted : p.Permitted o)
include sound permitted

/-- The value that is written is there, and it is ciphertext where it has to be. -/
theorem meets_dumpContent :
    Meets (·.voice = v) (p.dumpContent b)
      (fun x => ∃ text sealed, x = (if sealed then "EncryptedValue" else "Value", some text) ∧
        (sealed = true → p.kind.isSecure = true) ∧
        (p.kind.isSecure = true → sealed = true ∨ o.allowSecureStringValue = true))
      (fun _ => True) := by
  rcases sound.value_cases with ⟨hk, he, -⟩ | ⟨hk, he, hi⟩ | ⟨he, hi⟩
  · rw [dumpContent_encrypted hk he]
    refine meets_readRaw.map fun raw filled => ?_
    obtain ⟨text, rfl⟩ := Option.isSome_iff_exists.1 (filled.trans (permitted.sealed he))
    exact ⟨text, true, rfl, fun _ => hk, fun _ => .inl rfl⟩
  · have keys : Keeps Client.voice (p.readKeyId b) := keeps_voice.readKeyId (answers_voice b _)
    have keyed : p.keyId.isSome = true := sound.keyId_isSome.trans hk
    rw [dumpContent_input hk he hi]
    refine (meets_readValue enabled).bind fun value hv => ?_
    refine (meets_resolveOption keys).bind fun key hkey => ?_
    obtain ⟨value, rfl⟩ := Option.isSome_iff_exists.1 hv.1
    obtain ⟨key, rfl⟩ := Option.isSome_iff_exists.1 (hkey.trans keyed)
    refine (keeps_iff.1 (Client.keeps_voice_encrypt value key) v).bind fun ciphertext _ => ?_
    exact .pure ⟨ciphertext, true, rfl, fun _ => hk, fun _ => .inl rfl⟩
  · rw [dumpContent_plain he hi]
    refine (meets_readValue enabled).map fun value hv => ?_
    obtain ⟨text, rfl⟩ := Option.isSome_iff_exists.1 hv.1
    have clear : p.kind.isSecure = true → o.allowSecureStringValue = true :=
      fun hk => permitted.clear hk he hi hv.2
    exact ⟨text, false, rfl, (fun hs => by cases hs), fun hk => .inr (clear hk)⟩

/-- The fields that are written are those of an entry that can be read, whatever its name. -/
theorem meets_dumpFields (name : String) :
    Meets (·.voice = v) (p.dumpFields b)
      (fun m => ∃ e : Document.Entry, e.name = name ∧ e.Admissible o ∧ m = e.fields)
      (fun _ => True) := by
  have patterns : Keeps Client.voice (p.readPattern b) :=
    keeps_voice.readPattern (answers_voice b _)
  have keys : Keeps Client.voice (p.readKeyId b) := keeps_voice.readKeyId (answers_voice b _)
  rw [dumpFields_eq]
  refine (meets_dumpContent enabled sound permitted).bind fun content hcontent => ?_
  obtain ⟨text, sealed, rfl, secure, clear⟩ := hcontent
  refine (keeps_iff.1 patterns v).bind fun pattern _ => ?_
  refine (meets_resolveOption keys).bind fun keyId hkey => .pure ?_
  have keyed : keyId.isSome = p.kind.isSecure := hkey.trans sound.keyId_isSome
  exact ⟨⟨name, p.kind, text, sealed, pattern, p.description, keyId⟩, rfl,
    ⟨keyed, secure, clear⟩, rfl⟩

end

end Parameter

/-! ## What is compiled -/

namespace Document

variable {b : Bindings} {o : LoadOptions}

/-- What is compiled without its disabled parameters are entries that can be read. -/
theorem meets_compileEntries {ps : List Parameter} (h : ∀ p ∈ ps, p.Sound ∧ p.Permitted o)
    (m : Mapping) :
    Meets (·.voice = v) (compileEntries b true ps m)
      (fun D => ∃ es : List Entry, (∀ e ∈ es, e.Admissible o) ∧
        D = withEntries m (es.map fun e => (e.name, e.fields)))
      (fun _ => True) := by
  induction ps generalizing m with
  | nil => exact .pure ⟨[], by simp, rfl⟩
  | cons p rest ih =>
    obtain ⟨sound, permitted⟩ := h p List.mem_cons_self
    have later (m : Mapping) := ih (fun q hq => h q (List.mem_cons_of_mem _ hq)) m
    have steady : Steady (fun c => c.voice = v) (skips b true p) :=
      (plainReads_self b).agree_readDisabled sound
    have names : Keeps Client.voice (p.readName b) := keeps_voice.readName (answers_voice b _)
    rw [compileEntries_cons]
    refine steady.meets.bind fun skipped answered => ?_
    cases skipped with
    | true => exact later m
    | false =>
      refine (keeps_iff.1 names v).bind fun name _ => ?_
      refine (p.meets_dumpFields answered sound permitted name).bind fun fields hfields => ?_
      obtain ⟨e, rfl, admissible, rfl⟩ := hfields
      refine (later _).mono (fun D hD => ?_) fun _ he => he
      obtain ⟨es, all, rfl⟩ := hD
      refine ⟨e :: es, fun x hx => ?_, rfl⟩
      rcases List.mem_cons.1 hx with rfl | hx
      · exact admissible
      · exact all x hx

end Document

end

namespace Document

def entryNames (D : Mapping) : List String :=
  D.filterMap fun
    | (.string name, .map _) => some name
    | _ => none

def listedPaths (D : Mapping) : List String := (flushSection D).toOption.getD []

theorem mem_entryNames_of_get? {D fields : Mapping} {name : String}
    (h : D.get? name = some (.map fields)) : name ∈ entryNames D := by
  induction D with
  | nil => cases h
  | cons e rest ih =>
    obtain ⟨k, v⟩ := e
    rw [entryNames, List.mem_filterMap]
    cases k with
    | string k =>
      simp only [Mapping.get?] at h
      split at h
      · rename_i eq
        cases h
        exact ⟨_, List.mem_cons_self, by rw [eq]⟩
      · obtain ⟨x, hx, eq⟩ := List.mem_filterMap.1 (ih h)
        exact ⟨x, List.mem_cons_of_mem _ hx, eq⟩
    | _ =>
      obtain ⟨x, hx, eq⟩ := List.mem_filterMap.1 (ih h)
      exact ⟨x, List.mem_cons_of_mem _ hx, eq⟩

section
variable {o : LoadOptions} {d : Document} {b : Bindings} {includeFlush : Bool} {c t : Client}
  {D : Mapping}

/-- A document that was compiled lists its paths to flush and then entries that can be read, each name
once, if no parameter has a reserved name. -/
theorem written_of_compile
    (hd : d.BuiltWith fun used => used.allowSecureStringValue = true →
      o.allowSecureStringValue = true)
    (compiled : ((d.bound b).compile includeFlush true).runOn c = (.ok D, t))
    (unreserved : ∀ name ∈ entryNames D, isReserved name = false) :
    ∃ paths es, D = written paths es ∧ (es.map (·.name)).Nodup ∧
      ∀ e ∈ es, e.Admissible o ∧ e.name ∈ entryNames D := by
  rw [Resolved.compile_eq] at compiled
  obtain ⟨paths, c', -, compiled⟩ := runOn_bind_ok compiled
  have permitted : ∀ p ∈ d.parameters.values, p.Permitted o :=
    hd.forall_values fun used allow fields p hp => by
      obtain ⟨name, describes⟩ := Parameter.ofFields_ok.1 hp
      exact describes.permitted allow
  have each : ∀ p ∈ (d.bound b).list, p.Sound ∧ p.Permitted o :=
    fun p hp => ⟨hd.built.sound p hp, permitted p hp⟩
  obtain ⟨es, admissible, eq⟩ :=
    (meets_compileEntries each (flushEntry paths)).ok (s := c') rfl compiled
  have listed : ∀ e ∈ es, e.name ∈ entryNames D := by
    intro e he
    have mem : e.name ∈ (es.map fun e => (e.name, e.fields)).map (·.1) := by
      rw [List.map_map]
      exact List.mem_map_of_mem he
    obtain ⟨fields, found⟩ := exists_get?_withEntries (m := flushEntry paths) mem
    exact mem_entryNames_of_get? (eq ▸ found)
  -- a name that was mentioned before is written over, in its place
  have fresh : ∀ e ∈ es, (flushEntry paths).get? e.name = none := by
    intro e he
    refine get?_flushEntry (fun flush => ?_) paths
    have plain := unreserved e.name (listed e he)
    rw [flush] at plain
    revert plain
    decide
  obtain ⟨es', sub, -, nodup, written⟩ := withEntries_of_fresh Entry.fields fresh
  exact ⟨paths, es', eq.trans written, nodup, fun e he => ⟨admissible e (sub e he),
    listed e (sub e he)⟩⟩

end

/-- A document of entries compiles to itself. -/
theorem compile_entries {d : Document} {es : List Entry} {paths : List String}
    (parameters : d.parameters.entries = es.map fun e => (e.name, e.parameter))
    (flushPaths : d.flushPaths = paths) (plain : ∀ path ∈ paths, IsPlain path.toList)
    (h : ∀ e ∈ es, (e.isEncrypted = true → e.kind.isSecure = true) ∧
      isReserved e.name = false ∧ IsPlain e.name.toList)
    (nodup : (es.map (·.name)).Nodup) (b : Bindings) (ignoreDisabled : Bool) :
    (d.bound b).compile true ignoreDisabled = pure (written paths es) := by
  have list : (d.bound b).list = es.map Entry.parameter := by
    rw [Resolved.list, bound, OrderedMap.values, parameters, List.map_map]
    rfl
  have read : (d.bound b).readFlushPaths = pure paths := by
    rw [Resolved.readFlushPaths, bound, flushPaths]
    clear flushPaths
    induction paths with
    | nil => rfl
    | cons path rest ih =>
      have here : (flushTemplate path).resolve b = pure path :=
        (plain path List.mem_cons_self).resolve b
      rw [List.mapM_cons, here, pure_bind, ih fun q hq => plain q (List.mem_cons_of_mem _ hq)]
      rfl
  have fresh : ∀ e ∈ es.map fun e => (e.name, e.fields), (flushEntry paths).get? e.1 = none := by
    intro x hx
    obtain ⟨e, he, rfl⟩ := List.mem_map.1 hx
    refine get?_flushEntry (fun flush => ?_) paths
    have unreserved := (h e he).2.1
    rw [show e.name = flushKey from flush] at unreserved
    revert unreserved
    decide
  have entries : withEntries (flushEntry paths) (es.map fun e => (e.name, e.fields)) =
      written paths es := by
    rw [withEntries_of_nodup (by simpa [List.map_map, Function.comp_def] using nodup) fresh,
      List.map_map]
    rfl
  have each := compileEntries_stated (b := b) Entry.parameter id
    (fun e he => ⟨e.stated_parameter, (h e he).1, (h e he).2.2.resolve b⟩) ignoreDisabled
    (flushEntry paths)
  rw [Resolved.compile_eq, Resolved.readListed, if_pos rfl, read, pure_bind, list, compile]
  exact each.trans (congrArg pure entries)

/-- Take a document that was compiled without its disabled parameters, and in which neither the names
of parameters nor the paths to flush hold references and no parameter has a reserved name. If secret
values in the clear are allowed now where they were allowed before, it is read again when only names
refer to variables. It has no variables and no inputs, so it resolves without asking, and it compiles
to itself. -/
theorem compile_of_compiled {o : LoadOptions} (nameOnly : o.varsInNameOnly = true) {d : Document}
    (hd : d.BuiltWith fun used => used.allowSecureStringValue = true →
      o.allowSecureStringValue = true)
    {b : Bindings} {includeFlush : Bool} {c t : Client} {D : Mapping}
    (compiled : ((d.bound b).compile includeFlush true).runOn c = (.ok D, t))
    (names : ∀ name ∈ entryNames D, isReserved name = false ∧ IsPlain name.toList)
    (plain : ∀ path ∈ listedPaths D, IsPlain path.toList) :
    ∃ d', ofTree o (.map D) = .ok d' ∧ d'.variableNames = .empty ∧ d'.inputs = .empty ∧
      (∀ echo prompter,
        (d'.resolve false echo).runOn prompter = (.ok (d'.bound .empty), prompter)) ∧
      ∀ ignoreDisabled, (d'.bound .empty).compile true ignoreDisabled = pure D := by
  obtain ⟨paths, es, rfl, nodup, entries⟩ :=
    written_of_compile hd compiled fun name hname => (names name hname).1
  have unreserved : ∀ e ∈ es, isReserved e.name = false :=
    fun e he => (names e.name (entries e he).2).1
  have plainNames : ∀ e ∈ es, IsPlain e.name.toList :=
    fun e he => (names e.name (entries e he).2).2
  have plainPaths : ∀ path ∈ paths, IsPlain path.toList := by
    rw [listedPaths, flushSection_written unreserved] at plain
    exact plain
  obtain ⟨d', tree, inputs, parameters, flushPaths⟩ :=
    ofTree_entries nameOnly (fun e he => (entries e he).1) unreserved nodup paths
  have none : d'.variableNames = .empty :=
    variableNames_of_entries parameters flushPaths plainNames plainPaths
  refine ⟨d', tree, none, inputs, fun echo prompter => ?_, fun ignoreDisabled => ?_⟩
  · exact resolve_of_no_variables none false echo prompter
  · refine compile_entries parameters flushPaths plainPaths (fun e he => ?_) nodup .empty
      ignoreDisabled
    exact ⟨(entries e he).1.secure, unreserved e he, plainNames e he⟩

/-- Two paths to flush, a list, a disabled parameter and a secret that is taken from an input. -/
def sampleTree : Mapping := [
  (.string ".FLUSH", .seq [.string "/app", .string "$(Stage)/lib"]),
  (.string "/app/hosts", .seq [.string "a", .string "$(Stage)"]),
  (.string "/app/old", .map [(.string "Value", .string "x"), (.string "Disable", .bool true)]),
  (.string "/app/pass", .map [(.string "KeyId", .string "key"), (.string "Input", .string "Password"),
    (.string "Description", .string "secret")])]

def sampleBindings : Bindings :=
  (NameMap.empty.insert "Stage" (.input { name := "Stage", plain := some "/test" })).insert "Password"
    (.input { name := "Password", kind := .secureString, typed := some "$(x)" })

/-- The list is joined, and the secret is ciphertext. -/
theorem compile_of_compiled_sample :
    ∃ d D t d', ofTree {} (.map sampleTree) = .ok d ∧
      ((d.bound sampleBindings).compile true true).runOn {} = (.ok D, t) ∧
      entryNames D = ["/app/hosts", "/app/pass"] ∧ listedPaths D = ["/app", "/test/lib"] ∧
      ofTree { varsInNameOnly := true } (.map D) = .ok d' ∧
      ∀ ignoreDisabled, (d'.bound .empty).compile true ignoreDisabled = pure D := by
  have loaded : (ofTree {} (.map sampleTree)).map (fun d =>
      (((d.bound sampleBindings).compile true true).runOn {}).1.map fun D =>
        (entryNames D, listedPaths D)) =
      .ok (.ok (["/app/hosts", "/app/pass"], ["/app", "/test/lib"])) := by decide +kernel
  obtain ⟨d, hd, listed⟩ := ok_of_map loaded
  rcases run : ((d.bound sampleBindings).compile true true).runOn {} with ⟨e | D, t⟩
  · rw [run] at listed
    cases listed
  · rw [run] at listed
    obtain ⟨names, paths⟩ : entryNames D = _ ∧ listedPaths D = _ :=
      Prod.mk.inj (Except.ok.inj listed)
    have nameOnly : ({ varsInNameOnly := true } : LoadOptions).varsInNameOnly = true := rfl
    have plain : ∀ name ∈ ["/app/hosts", "/app/pass"],
        isReserved name = false ∧ IsPlain name.toList := by decide +kernel
    have flushed : ∀ path ∈ ["/app", "/test/lib"], IsPlain path.toList := by decide +kernel
    obtain ⟨d', tree, -, -, -, again⟩ := compile_of_compiled nameOnly
      (.read (fun allowed => by cases allowed) hd) run (names ▸ plain) (paths ▸ flushed)
    exact ⟨d, D, t, d', hd, run, names, paths, tree, again⟩

end Document

end ParamFile
