import ParamFile.Proofs.Client
import ParamFile.Proofs.Fields
import ParamFile.Proofs.Writing

/-!
# A dry run shows what a push writes

On faithful clients everything that is read of a parameter is steady (`steady_judgement`), so what the
requests of a push read (`Requested`) is also what a dry run reads. Field by field, the entry that a
dry run shows for a parameter is its request (`Requested.yields_dumpFields`); and the entries stand
in the order of the requests (`push_of_dryRun`).
-/

namespace ParamFile

open ParamFile.Action Yaml

variable {region account : String} {b : Bindings}

/-! ## Steady readings -/

theorem steady_judgement : Judgement (Steady (Client.Faithful region account)) :=
  judgement_steady fun ciphertext => (Client.yields_decrypt ciphertext).steady

/-- All faithful clients read the same of a variable. -/
theorem steady_answers (names : List String) :
    Answers (Steady (Client.Faithful region account)) b names :=
  steady_judgement.answers Steady.throw Client.yields_askRegion.steady
    Client.yields_askAccount.steady names

/-! ## Requests -/

/-- What every faithful client reads of a parameter is what this request says. -/
structure Requested (region account : String) (b : Bindings) (p : Parameter) (r : PutRequest) :
    Prop where
  enabled : Yields (Client.Faithful region account) (p.readDisabled b) (.ok false)
  name : Yields (Client.Faithful region account) (p.readName b) (.ok r.name)
  value : Yields (Client.Faithful region account) (p.readValue b) (.ok (some r.value))
  pattern : Yields (Client.Faithful region account) (p.readPattern b) (.ok r.allowedPattern)
  keyId : Yields (Client.Faithful region account) (p.readKeyId b) (.ok r.keyId)
  kind : r.kind = p.kind
  description : r.description = p.description

/-- A parameter without a request is disabled for every faithful client. -/
def Answered (region account : String) (b : Bindings) (p : Parameter) : Option PutRequest → Prop
  | none => Yields (Client.Faithful region account) (p.readDisabled b) (.ok true)
  | some r => Requested region account b p r

theorem meets_request? (overwrite : Bool) (p : Parameter) :
    Meets (Client.Faithful region account) (Client.request? b overwrite p)
      (Answered region account b p) (fun _ => True) := by
  have hJ : Judgement (Steady (Client.Faithful region account)) := steady_judgement
  have all : Answers (Steady (Client.Faithful region account)) b p.variableNames :=
    steady_answers p.variableNames
  refine (hJ.readDisabled all).meets.bind fun disabled hd => ?_
  cases disabled with
  | true => exact .pure hd
  | false =>
    refine (hJ.readName all).meets.bind fun name hn => ?_
    refine (hJ.readValue all).meets.bind fun value hv => ?_
    cases value with
    | none => exact .throw trivial
    | some value =>
      refine (hJ.readPattern all).meets.bind fun pattern hp => ?_
      refine (hJ.readKeyId all).meets.bind fun keyId hk => ?_
      exact .pure ⟨hd, hn, hv, hp, hk, rfl, rfl⟩

/-- The requests that write some parameters are what every faithful client reads of them. -/
theorem meets_requests (overwrite : Bool) (ps : List Parameter) :
    Meets (Client.Faithful region account) (Client.requests b overwrite ps)
      (fun rs => ∃ os, List.Forall₂ (Answered region account b) ps os ∧ rs = os.filterMap id)
      (fun _ => True) :=
  (Meets.mapM fun p _ => meets_request? overwrite p).map fun os h => ⟨os, h, rfl⟩

/-! ## Entries -/

/-- A field that holds the value of a request, or a ciphertext of it. -/
def Holds (r : PutRequest) (field text : String) : Prop :=
  (field = "Value" ∧ text = r.value) ∨
    (field = "EncryptedValue" ∧ ∃ keyId, Cipher.opened text = .ok (keyId, r.value))

section
variable {p : Parameter} {r : PutRequest} {c : Client} (hc : Client.Faithful region account c)
  (h : Requested region account b p r)
include hc h

/-- A value that is ciphertext is read as it is written, and opens to the value of the request. -/
theorem Requested.opened (he : p.isEncrypted = true) :
    ∃ raw keyId, Yields (Client.Faithful region account) (p.readRaw b) (.ok (some raw)) ∧
      Cipher.opened raw = .ok (keyId, r.value) := by
  have hJ : Judgement (Steady (Client.Faithful region account)) := steady_judgement
  have all : Answers (Steady (Client.Faithful region account)) b p.variableNames :=
    steady_answers p.variableNames
  obtain ⟨t, run, -⟩ := h.value.runOn hc
  obtain ⟨raw, u, hraw, run⟩ := runOn_bind_ok run
  obtain ⟨yields, hu⟩ := (hJ.readRaw all).yields_ok hc hraw
  cases raw with
  | none =>
    -- the value of a request is there, so this is an error
    obtain ⟨disabled, w, -, run⟩ := runOn_bind_ok run
    cases disabled with
    | true => cases run
    | false =>
      obtain ⟨name, x, -, run⟩ := runOn_bind_ok run
      cases run
  | some raw =>
    simp only [he, if_true] at run
    obtain ⟨keyId, w, hkey, run⟩ := runOn_bind_ok run
    have hw := ((hJ.readKeyId all).yields_ok hu hkey).2
    obtain ⟨value, hd, eq⟩ := runOn_map_ok run
    cases eq
    have decrypted := ((Client.yields_decrypt raw).steady.yields_ok hw hd).1
    obtain ⟨keyId, ho⟩ := Client.opened_of_yields_decrypt hw decrypted
    exact ⟨raw, keyId, yields, ho⟩

theorem Requested.keyId_isSome : r.keyId.isSome = p.keyId.isSome := by
  obtain ⟨t, run, -⟩ := h.keyId.runOn hc
  unfold Parameter.readKeyId at run
  cases hk : p.keyId with
  | none =>
    rw [hk] at run
    simp only [Parameter.resolveOption, runOn_pure, Prod.mk.injEq, Except.ok.injEq] at run
    rw [← run.1]
    rfl
  | some key =>
    rw [hk] at run
    obtain ⟨k, -, eq⟩ := runOn_map_ok run
    rw [← eq]
    rfl

theorem Requested.yields_dumpContent (hp : p.Sound)
    (free : ∀ keyId, r.keyId = some keyId → Cipher.separator ∉ keyId.toList) :
    ∃ field text, Holds r field text ∧
      Yields (Client.Faithful region account) (p.dumpContent b) (.ok (field, some text)) := by
  rcases hp.value_cases with ⟨hk, he, -⟩ | ⟨hk, he, hi⟩ | ⟨he, hi⟩
  · obtain ⟨raw, keyId, yields, ho⟩ := h.opened hc he
    refine ⟨_, raw, .inr ⟨rfl, keyId, ho⟩, ?_⟩
    rw [Parameter.dumpContent_encrypted hk he]
    exact yields.map _
  · have isSome := (h.keyId_isSome hc).trans (hp.keyId_isSome.trans hk)
    obtain ⟨keyId, hkey⟩ := Option.isSome_iff_exists.1 isSome
    have read := h.keyId
    rw [hkey] at read
    refine ⟨_, _, .inr ⟨rfl, keyId, Cipher.opened_sealed (free keyId hkey)⟩, ?_⟩
    rw [Parameter.dumpContent_input hk he hi]
    exact h.value.bind (read.bind ((Client.yields_encrypt (free keyId hkey)).bind (.pure _)))
  · refine ⟨_, r.value, .inl ⟨rfl, rfl⟩, ?_⟩
    rw [Parameter.dumpContent_plain he hi]
    exact h.value.map _

end

/-- The fields of an entry are those of a request: each is there exactly if the request has it, and
says the same; the value may be given by a ciphertext that is decrypted to it. -/
structure Shows (region account : String) (m : Mapping) (r : PutRequest) : Prop where
  kind : m.get? "Type" = some (.string r.kind.text)
  pattern : m.get? "AllowedPattern" = r.allowedPattern.map .string
  description : m.get? "Description" = r.description.map .string
  keyId : m.get? "KeyId" = r.keyId.map .string
  value : (m.get? "Value" = some (.string r.value) ∧ m.get? "EncryptedValue" = none) ∨
    (m.get? "Value" = none ∧ ∃ text, m.get? "EncryptedValue" = some (.string text) ∧
      Yields (Client.Faithful region account) (Client.decrypt text) (.ok r.value))

theorem Holds.shows {r : PutRequest} {field text : String} (h : Holds r field text) :
    Shows region account
      (Parameter.dumped r.kind field (some text) r.allowedPattern r.description r.keyId) r := by
  have hf : Parameter.IsValueField field := h.imp And.left And.left
  have value := Parameter.get?_dumped_value r.kind (some text) r.allowedPattern r.description
    r.keyId hf
  refine ⟨Parameter.get?_dumped_type .., Parameter.get?_dumped_pattern _ _ _ _ _ hf,
    Parameter.get?_dumped_description _ _ _ _ _ hf, Parameter.get?_dumped_keyId _ _ _ _ _ hf, ?_⟩
  rcases h with ⟨rfl, rfl⟩ | ⟨rfl, keyId, ho⟩
  · exact .inl ⟨value, Parameter.get?_dumped_other _ _ _ _ _ (by decide)⟩
  · refine .inr ⟨Parameter.get?_dumped_other _ _ _ _ _ (by decide), text, value, ?_⟩
    exact Client.yields_decrypt_ok ho

/-! ## Documents -/

/-- No parameter resolves its key id to one that holds the separator of the cipher. -/
def KeysFree (region account : String) (b : Bindings) (ps : List Parameter) : Prop :=
  ∀ p ∈ ps, ∀ c keyId, Client.Faithful region account c →
    ((p.readKeyId b).runOn c).1 = .ok (some keyId) → Cipher.separator ∉ keyId.toList

/-- It is so if key ids hold no references and no separators as they are written. -/
theorem keysFree_of_text {ps : List Parameter}
    (h : ∀ p ∈ ps, ∀ t ∈ p.keyId, t.pieces.links = [] ∧ Cipher.separator ∉ t.text.toList) :
    KeysFree region account b ps := by
  intro p hp c keyId _ run
  unfold Parameter.readKeyId at run
  cases hk : p.keyId with
  | none =>
    rw [hk] at run
    cases run
  | some t =>
    obtain ⟨plain, free⟩ := h p hp t hk
    rw [hk, Parameter.resolveOption, Template.resolve_eq, plain] at run
    simp only [List.isEmpty_nil, if_true, map_pure, runOn_pure, Except.ok.injEq,
      Option.some.injEq] at run
    rwa [← run]

section
variable {c : Client} (hc : Client.Faithful region account c)
include hc

/-- What a dry run shows for a parameter is its request. -/
theorem Requested.yields_dumpFields {p : Parameter} {r : PutRequest}
    (h : Requested region account b p r) (hp : p.Sound)
    (free : ∀ keyId, r.keyId = some keyId → Cipher.separator ∉ keyId.toList) :
    ∃ m, Shows region account m r ∧
      Yields (Client.Faithful region account) (p.dumpFields b) (.ok m) := by
  obtain ⟨field, text, holds, content⟩ := h.yields_dumpContent hc hp free
  refine ⟨_, holds.shows, ?_⟩
  rw [Parameter.dumpFields_eq, h.kind, h.description]
  exact content.bind (h.pattern.bind (h.keyId.bind (.pure _)))

theorem yields_compileEntries {ps : List Parameter} (hps : ∀ p ∈ ps, p.Sound)
    (free : KeysFree region account b ps) {os : List (Option PutRequest)}
    (h : List.Forall₂ (Answered region account b) ps os) (m : Mapping) :
    ∃ entries : List (String × Mapping),
      List.Forall₂ (fun e r => e.1 = r.name ∧ Shows region account e.2 r) entries
        (os.filterMap id) ∧
      Yields (Client.Faithful region account) (Document.compileEntries b true ps m)
        (.ok (Document.withEntries m entries)) := by
  induction h generalizing m with
  | nil => exact ⟨[], .nil, .pure _⟩
  | @cons p o ps os hpo _ ih =>
    have tail (m : Mapping) := ih (fun q hq => hps q (List.mem_cons_of_mem _ hq))
      (fun q hq => free q (List.mem_cons_of_mem _ hq)) m
    rw [Document.compileEntries_cons]
    cases o with
    | none =>
      obtain ⟨entries, shows, yields⟩ := tail m
      exact ⟨entries, shows, Yields.bind hpo yields⟩
    | some r =>
      -- what the request reads the dry run reads in another order, with other side effects
      have requested : Requested region account b p r := hpo
      have here : p ∈ p :: ps := List.mem_cons_self
      have keyFree : ∀ keyId, r.keyId = some keyId → Cipher.separator ∉ keyId.toList := by
        intro keyId hk
        refine free p here c keyId hc ?_
        rw [(requested.keyId c hc).1, hk]
      obtain ⟨fields, hf, dumped⟩ := requested.yields_dumpFields hc (hps p here) keyFree
      obtain ⟨entries, shows, yields⟩ := tail (m.insert r.name (.map fields))
      refine ⟨(r.name, fields) :: entries, .cons ⟨rfl, hf⟩ shows, ?_⟩
      exact requested.enabled.bind (requested.name.bind (dumped.bind yields))

end

/-- Let the enabled parameters have different names. If the requests of a push can be built, a dry run
shows exactly them, in their order. If the dry run fails, so do the requests, and nothing is
written. -/
theorem Document.push_of_dryRun {d : Document} (hd : d.Built) {c c' : Client}
    (hc : Client.Faithful region account c) (hc' : Client.Faithful region account c')
    (free : KeysFree region account b d.parameters.values) (overwrite : Bool) :
    (∀ rs t, (Client.requests b overwrite (d.bound b).list).runOn c = (.ok rs, t) →
      (rs.map (·.name)).Nodup →
      ∃ document t', ((d.bound b).compile false true).runOn c' = (.ok document, t') ∧
        Client.Faithful region account t' ∧
        List.Forall₂ (fun e r => ∃ m, e = (.string r.name, .map m) ∧ Shows region account m r)
          document rs) ∧
    ∀ e t', ((d.bound b).compile false true).runOn c' = (.error e, t') →
      ∃ e' t, (Client.requests b overwrite (d.bound b).list).runOn c = (.error e', t) ∧
        (Client.putAll (d.bound b).list b overwrite).runOn c = (.error e', t) ∧
        t.backend.store = c.backend.store := by
  have shown : ∀ rs t, (Client.requests b overwrite (d.bound b).list).runOn c = (.ok rs, t) →
      ∃ entries : List (String × Mapping),
        List.Forall₂ (fun e r => e.1 = r.name ∧ Shows region account e.2 r) entries rs ∧
        Yields (Client.Faithful region account) ((d.bound b).compile false true)
          (.ok (withEntries [] entries)) := by
    intro rs t run
    obtain ⟨os, answered, rfl⟩ := (meets_requests overwrite (d.bound b).list).ok hc run
    exact yields_compileEntries hc hd.sound free answered []
  refine ⟨fun rs t run nodup => ?_, fun e t' run => ?_⟩
  · obtain ⟨entries, shows, yields⟩ := shown rs t run
    have names : entries.map (·.1) = rs.map (·.name) := by
      rw [← List.forall₂_eq_eq_eq, List.forall₂_map_left_iff, List.forall₂_map_right_iff]
      exact shows.imp fun _ _ h => h.1
    rw [withEntries_of_nodup (names ▸ nodup) fun _ _ => rfl, List.nil_append] at yields
    obtain ⟨t', run', ht'⟩ := yields.runOn hc'
    refine ⟨_, t', run', ht', List.forall₂_map_left_iff.2 (shows.imp fun e r h => ?_)⟩
    exact ⟨e.2, by rw [h.1], h.2⟩
  · rcases hr : (Client.requests b overwrite (d.bound b).list).runOn c with ⟨e' | rs, t⟩
    · refine ⟨e', t, rfl, ?_, ?_⟩
      · rw [Client.putAll, runOn_bind, hr]
      · have kept : ((Client.requests b overwrite (d.bound b).list).runOn c).2.backend.store =
            c.backend.store := Client.keeps_store_requests overwrite (d.bound b).list c
        rwa [hr] at kept
    · obtain ⟨entries, -, yields⟩ := shown rs t hr
      have := (yields c' hc').1
      rw [run] at this
      cases this

/-- A plain value and a secret one, and a parameter without a value. -/
theorem Document.push_of_dryRun_secret :
    (∃ d rs t, ofTree {} (.map [(.string "/a", .string "x"), (.string "/b", .map
        [(.string "KeyId", .string "key"), (.string "EncryptedValue", .string "a2V5AHM=")])]) =
          .ok d ∧
      (Client.requests .empty false (d.bound .empty).list).runOn {} = (.ok rs, t) ∧
      ∃ document t', ((d.bound .empty).compile false true).runOn {} = (.ok document, t') ∧
        List.Forall₂ (fun e r => ∃ m, e = (.string r.name, .map m) ∧
          Shows "us-east-1" "000000000000" m r) document rs) ∧
    ∃ d e t', ofTree {} (.map [(.string "/a", .map [])]) = .ok d ∧
      ((d.bound .empty).compile false true).runOn {} = (.error e, t') ∧
      ∃ e' t, (Client.putAll (d.bound .empty).list .empty false).runOn {} = (.error e', t) ∧
        t.backend.store = {} := by
  have new : Client.Faithful "us-east-1" "000000000000" {} :=
    Client.faithful_new {} rfl rfl rfl rfl
  refine ⟨?_, ?_⟩
  · have loaded : ∃ d, ofTree {} (.map [(.string "/a", .string "x"), (.string "/b", .map
          [(.string "KeyId", .string "key"), (.string "EncryptedValue", .string "a2V5AHM=")])]) =
            .ok d ∧
        ((Client.requests .empty false (d.bound .empty).list).runOn {}).1.map
          (List.map (·.name)) = .ok ["/a", "/b"] ∧
        ∀ p ∈ d.parameters.values, ∀ t ∈ p.keyId,
          t.pieces.links = [] ∧ Cipher.separator ∉ t.text.toList :=
      ⟨_, rfl, by decide +kernel, by decide +kernel⟩
    obtain ⟨d, hd, names, free⟩ := loaded
    rcases run : (Client.requests .empty false (d.bound .empty).list).runOn {} with ⟨e | rs, t⟩
    · rw [run] at names
      cases names
    · rw [run] at names
      have nodup : (rs.map (·.name)).Nodup := by
        rw [Except.ok.inj names]
        decide
      obtain ⟨document, t', compiled, -, shows⟩ :=
        (push_of_dryRun (.read hd) new new (keysFree_of_text free) false).1 rs t run nodup
      exact ⟨d, rs, t, hd, run, document, t', compiled, shows⟩
  · have loaded : ∃ d, ofTree {} (.map [(.string "/a", .map [])]) = .ok d ∧
        (((d.bound .empty).compile false true).runOn {}).1.isOk = false ∧
        ∀ p ∈ d.parameters.values, ∀ t ∈ p.keyId,
          t.pieces.links = [] ∧ Cipher.separator ∉ t.text.toList :=
      ⟨_, rfl, by decide +kernel, by decide +kernel⟩
    obtain ⟨d, hd, failed, free⟩ := loaded
    rcases run : ((d.bound .empty).compile false true).runOn {} with ⟨e | document, t'⟩
    · obtain ⟨e', t, -, failed, kept⟩ :=
        (push_of_dryRun (.read hd) new new (keysFree_of_text free) false).2 e t' run
      exact ⟨d, e, t', hd, run, e', t, failed, kept⟩
    · rw [run] at failed
      cases failed

end ParamFile
