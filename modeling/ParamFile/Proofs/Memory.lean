import ParamFile.Proofs.Client

/-!
# What a client remembers

A client is asked questions (`Client.Question`) while any calls fail, and others fail at the next one. What
it remembers is what its backend answers (`Client.Recalls`), it forgets nothing (`Client.Grows`), and a call
that fails leaves nothing behind. `Client.Asked` says this of one question, with one lemma for each kind
of question, and `Client.asked_all` speaks of a run. So memory cannot be told from a backend that works
(`Client.ask_remembered`): an answer is the one of a new client (`Question.answer`), and what was answered
once is answered again without a call.
-/

namespace ParamFile.Client

open ParamFile.Action

/-! ## Questions -/

/-- What a client is asked. A ciphertext names its key itself; a key id that is passed with it does not
count. -/
inductive Question where
  | region
  | account
  | formatKeyId (keyId : String)
  | encrypt (plaintext keyId : String)
  | decrypt (ciphertext : String)
  deriving DecidableEq, Repr

namespace Question

def ask : Question → ClientM String
  | .region => askRegion
  | .account => askAccount
  | .formatKeyId keyId => Client.formatKeyId keyId
  | .encrypt plaintext keyId => Client.encrypt plaintext keyId
  | .decrypt ciphertext => Client.decrypt ciphertext

/-- The answer without any memory, if no call fails. -/
def answer (s : Store) : Question → Except Error String
  | .region => .ok s.region
  | .account => .ok s.account
  | .formatKeyId keyId =>
    .ok (if isFullKeyId keyId then keyId else fullKeyId s.region s.account keyId)
  | .encrypt plaintext keyId => .ok (Cipher.sealed plaintext keyId)
  | .decrypt ciphertext =>
    ((Cipher.opened ciphertext).map (·.2)).mapError (Error.ofFailure .decrypt none)

/-- The calls that it may take. -/
def calls : Question → List Call
  | .region => [.region]
  | .account => [.account]
  | .formatKeyId _ => [.region, .account]
  | .encrypt .. => [.encrypt]
  | .decrypt _ => [.decrypt]

/-- The questions that are settled by what came out. Where completing a key id failed at the account, the
region was there. -/
def settles : Question → Except Error String → List Question
  | .region, .ok _ => [.region]
  | .account, .ok _ => [.account]
  | .formatKeyId keyId, .ok _ =>
    if isFullKeyId keyId then [.formatKeyId keyId] else [.formatKeyId keyId, .region, .account]
  | .formatKeyId _, .error e => if e = injected .account then [.region] else []
  | .encrypt .., .ok ciphertext => [.decrypt ciphertext]
  | .decrypt ciphertext, .ok _ => [.decrypt ciphertext]
  | _, .error _ => []

/-- A key id that is encrypted under holds no separator. -/
def KeysFree : Question → Prop
  | .encrypt _ keyId => Cipher.separator ∉ keyId.toList
  | _ => True

instance : DecidablePred KeysFree
  | .encrypt _ keyId => inferInstanceAs (Decidable (Cipher.separator ∉ keyId.toList))
  | .region | .account | .formatKeyId _ | .decrypt _ => isTrue trivial

end Question

def withFailing (failing : List Call) (c : Client) : Client :=
  { c with backend := { c.backend with failing } }

def askedAll (c : Client) (questions : List (List Call × Question)) : Client :=
  questions.foldl (fun c e => (e.2.ask.runOn (c.withFailing e.1)).2) c

/-! ## Memory -/

def knows (c : Client) : Question → Bool
  | .region => c.region.isSome
  | .account => c.account.isSome
  | .formatKeyId keyId => isFullKeyId keyId || (c.keyIds.lookup keyId).isSome
  | .encrypt .. => false
  | .decrypt ciphertext => (c.plaintexts.lookup ciphertext).isSome

/-- A client knows what another one knows. -/
def Grows (c t : Client) : Prop := ∀ q, c.knows q = true → t.knows q = true

/-- What the client remembers is what the backend answers; a key id was completed with a region and an
account that are remembered, too. -/
structure Recalls (s : Store) (c : Client) : Prop where
  store : c.backend.store = s
  region : ∀ r, c.region = some r → r = s.region
  account : ∀ a, c.account = some a → a = s.account
  keyIds : ∀ e ∈ c.keyIds, e.2 = fullKeyId s.region s.account e.1 ∧
    c.region.isSome = true ∧ c.account.isSome = true
  plaintexts : ∀ e ∈ c.plaintexts, ∃ keyId, Cipher.opened e.1 = .ok (keyId, e.2)

/-- What becomes of client `c` when a question ends with `r` and leaves `t`. -/
structure Asked (s : Store) (c : Client) (q : Question) (r : Except Error String) (t : Client) :
    Prop where
  recalls : Recalls s t
  failing : t.backend.failing = c.backend.failing
  result : r = q.answer s ∨
    ∃ call ∈ q.calls, call ∈ c.backend.failing ∧ r = .error (injected call)
  grows : Grows c t
  settled : ∀ p ∈ q.settles r, t.knows p = true
  region : .region ∈ c.backend.failing → t.region = c.region
  account : .account ∈ c.backend.failing → t.account = c.account
  others : r.isOk = false → t.keyIds = c.keyIds ∧ t.plaintexts = c.plaintexts

theorem Grows.refl (c : Client) : Grows c c := fun _ h => h

theorem Grows.trans {c t u : Client} (h : Grows c t) (h' : Grows t u) : Grows c u :=
  fun q hq => h' q (h q hq)

theorem lookup_cons_isSome {α : Type} {k l : String} {v : α} {entries : List (String × α)}
    (h : (entries.lookup l).isSome = true) : (((k, v) :: entries).lookup l).isSome = true := by
  rw [List.lookup_cons]
  split
  · rfl
  · exact h

section
variable {s : Store} {c : Client}

theorem Grows.logged (c : Client) (call : Call) : Grows c (logged call c) := fun q h => by
  cases q <;> exact h

theorem Recalls.logged (h : Recalls s c) (call : Call) : Recalls s (logged call c) :=
  ⟨h.store, h.region, h.account, h.keyIds, h.plaintexts⟩

theorem Recalls.withFailing (h : Recalls s c) (failing : List Call) :
    Recalls s (c.withFailing failing) :=
  ⟨h.store, h.region, h.account, h.keyIds, h.plaintexts⟩

theorem knows_withFailing (c : Client) (failing : List Call) (q : Question) :
    (c.withFailing failing).knows q = c.knows q := by
  cases q <;> rfl

/-- What is known is answered without a call. -/
theorem Recalls.ask_of_knows (h : Recalls s c) {q : Question} (known : c.knows q = true) :
    q.ask.runOn c = (q.answer s, c) := by
  cases q with
  | region =>
    obtain ⟨r, eq⟩ := Option.isSome_iff_exists.1 known
    obtain rfl := h.region r eq
    show Client.askRegion.runOn c = _
    rw [askRegion_runOn, eq]
    rfl
  | account =>
    obtain ⟨a, eq⟩ := Option.isSome_iff_exists.1 known
    obtain rfl := h.account a eq
    show Client.askAccount.runOn c = _
    rw [askAccount_runOn, eq]
    rfl
  | formatKeyId keyId =>
    show (Client.formatKeyId keyId).runOn c = _
    cases full : isFullKeyId keyId with
    | true => simp [Client.formatKeyId, Question.answer, full]
    | false =>
      rw [knows, full, Bool.false_or] at known
      obtain ⟨v, eq⟩ := Option.isSome_iff_exists.1 known
      have same : v = fullKeyId s.region s.account keyId := (h.keyIds _ (mem_of_lookup eq)).1
      simp [Client.formatKeyId, Question.answer, full, runOn_bind, eq, same]
  | encrypt => cases known
  | decrypt ciphertext =>
    obtain ⟨plaintext, eq⟩ := Option.isSome_iff_exists.1 known
    obtain ⟨keyId, opens⟩ := h.plaintexts _ (mem_of_lookup eq)
    have opens : Cipher.opened ciphertext = .ok (keyId, plaintext) := opens
    show (Client.decrypt ciphertext).runOn c = _
    rw [decrypt_runOn, eq, Question.answer, opens]
    rfl

theorem Recalls.answer_of_knows (h : Recalls s c) {q : Question} (known : c.knows q = true) :
    ∃ x, q.answer s = .ok x := by
  cases q with
  | region | account | formatKeyId => exact ⟨_, rfl⟩
  | encrypt => cases known
  | decrypt ciphertext =>
    obtain ⟨plaintext, eq⟩ := Option.isSome_iff_exists.1 known
    obtain ⟨keyId, opens⟩ := h.plaintexts _ (mem_of_lookup eq)
    have opens : Cipher.opened ciphertext = .ok (keyId, plaintext) := opens
    rw [Question.answer, opens]
    exact ⟨plaintext, rfl⟩

theorem Recalls.knows_of_settles (h : Recalls s c) {q : Question} (known : c.knows q = true) :
    ∀ p ∈ q.settles (q.answer s), c.knows p = true := by
  intro p hp
  cases q with
  | region | account =>
    obtain rfl := List.mem_singleton.1 hp
    exact known
  | formatKeyId keyId =>
    cases full : isFullKeyId keyId with
    | true =>
      rw [Question.answer, Question.settles, if_pos full] at hp
      obtain rfl := List.mem_singleton.1 hp
      exact known
    | false =>
      rw [Question.answer, Question.settles, full] at hp
      simp only [Bool.false_eq_true, if_false, List.mem_cons, List.not_mem_nil, or_false] at hp
      have held : (c.keyIds.lookup keyId).isSome = true := by
        rwa [knows, full, Bool.false_or] at known
      obtain ⟨v, eq⟩ := Option.isSome_iff_exists.1 held
      obtain ⟨-, region, account⟩ := h.keyIds _ (mem_of_lookup eq)
      rcases hp with rfl | rfl | rfl
      · exact known
      · exact region
      · exact account
  | encrypt => cases known
  | decrypt ciphertext =>
    cases opens : Cipher.opened ciphertext with
    | error fault =>
      rw [Question.answer, opens] at hp
      cases hp
    | ok e =>
      rw [Question.answer, opens] at hp
      obtain rfl := List.mem_singleton.1 hp
      exact known

theorem Recalls.asked_of_knows (h : Recalls s c) {q : Question} (known : c.knows q = true) :
    ∃ r t, q.ask.runOn c = (r, t) ∧ Asked s c q r t :=
  ⟨_, _, h.ask_of_knows known, h, rfl, .inl rfl, .refl c, h.knows_of_settles known, fun _ => rfl,
    fun _ => rfl, fun _ => ⟨rfl, rfl⟩⟩

theorem Recalls.asked_failing (h : Recalls s c) {q : Question} {call : Call} (hc : call ∈ q.calls)
    (failing : call ∈ c.backend.failing)
    (settled : ∀ p ∈ q.settles (.error (injected call)), c.knows p = true) :
    Asked s c q (.error (injected call)) (c.logged call) :=
  ⟨h.logged call, rfl, .inr ⟨call, hc, failing, rfl⟩, .logged c call,
    fun p hp => Grows.logged c call p (settled p hp), fun _ => rfl, fun _ => rfl, fun _ => ⟨rfl, rfl⟩⟩

theorem answer_of_failing {α : Type} {call : Call} (f : Store → Except Failure α)
    (failing : call ∈ c.backend.failing) : Client.answer call f c = .error (injected call) :=
  if_pos failing

theorem Recalls.answer_of_working {α : Type} (h : Recalls s c) {call : Call}
    (f : Store → Except Failure α) (working : call ∉ c.backend.failing) :
    Client.answer call f c = (f s).mapError (Error.ofFailure call none) := by
  rw [Client.answer, if_neg working, h.store]

/-! ## Region and account -/

def withRegion (r : String) (c : Client) : Client := { c with region := some r }

def withAccount (a : String) (c : Client) : Client := { c with account := some a }

theorem Grows.withRegion (c : Client) (r : String) : Grows c (c.withRegion r) := by
  intro q h
  cases q with
  | region => rfl
  | account | formatKeyId | encrypt | decrypt => exact h

theorem Grows.withAccount (c : Client) (a : String) : Grows c (c.withAccount a) := by
  intro q h
  cases q with
  | account => rfl
  | region | formatKeyId | encrypt | decrypt => exact h

theorem Recalls.withRegion (h : Recalls s c) : Recalls s (c.withRegion s.region) := by
  refine ⟨h.store, fun r hr => ?_, h.account, fun e he => ?_, h.plaintexts⟩
  · exact (Option.some.inj hr).symm
  · obtain ⟨full, -, account⟩ := h.keyIds e he
    exact ⟨full, rfl, account⟩

theorem Recalls.withAccount (h : Recalls s c) : Recalls s (c.withAccount s.account) := by
  refine ⟨h.store, h.region, fun a ha => ?_, fun e he => ?_, h.plaintexts⟩
  · exact (Option.some.inj ha).symm
  · obtain ⟨full, region, -⟩ := h.keyIds e he
    exact ⟨full, region, rfl⟩

theorem Recalls.askRegion (h : Recalls s c) :
    ∃ r t, Client.askRegion.runOn c = (r, t) ∧ Asked s c .region r t := by
  cases known : c.region with
  | some r => exact h.asked_of_knows (q := .region) (by simp [knows, known])
  | none =>
    rw [askRegion_runOn, known]
    by_cases failing : .region ∈ c.backend.failing
    · simp only [answer_of_failing _ failing]
      refine ⟨_, _, rfl, h.asked_failing List.mem_cons_self failing fun p hp => ?_⟩
      cases hp
    · simp only [h.answer_of_working _ failing, Except.mapError]
      refine ⟨_, _, rfl, (h.logged .region).withRegion, rfl, .inl rfl, ?_, fun p hp => ?_,
        fun fails => absurd fails failing, fun _ => rfl, fun _ => ⟨rfl, rfl⟩⟩
      · exact (Grows.logged c .region).trans (.withRegion _ _)
      · obtain rfl := List.mem_singleton.1 hp
        rfl

theorem Recalls.askAccount (h : Recalls s c) :
    ∃ r t, Client.askAccount.runOn c = (r, t) ∧ Asked s c .account r t := by
  cases known : c.account with
  | some a => exact h.asked_of_knows (q := .account) (by simp [knows, known])
  | none =>
    rw [askAccount_runOn, known]
    by_cases failing : .account ∈ c.backend.failing
    · simp only [answer_of_failing _ failing]
      refine ⟨_, _, rfl, h.asked_failing List.mem_cons_self failing fun p hp => ?_⟩
      cases hp
    · simp only [h.answer_of_working _ failing, Except.mapError]
      refine ⟨_, _, rfl, (h.logged .account).withAccount, rfl, .inl rfl, ?_, fun p hp => ?_,
        fun _ => rfl, fun fails => absurd fails failing, fun _ => ⟨rfl, rfl⟩⟩
      · exact (Grows.logged c .account).trans (.withAccount _ _)
      · obtain rfl := List.mem_singleton.1 hp
        rfl

theorem askRegion_others (c : Client) :
    (Client.askRegion.runOn c).2.keyIds = c.keyIds ∧
      (Client.askRegion.runOn c).2.plaintexts = c.plaintexts := by
  rw [askRegion_runOn]
  split
  · exact ⟨rfl, rfl⟩
  · split <;> exact ⟨rfl, rfl⟩

theorem askAccount_others (c : Client) :
    (Client.askAccount.runOn c).2.keyIds = c.keyIds ∧
      (Client.askAccount.runOn c).2.plaintexts = c.plaintexts := by
  rw [askAccount_runOn]
  split
  · exact ⟨rfl, rfl⟩
  · split <;> exact ⟨rfl, rfl⟩

/-! ## Key ids -/

def withKeyId (keyId full : String) (c : Client) : Client :=
  { c with keyIds := (keyId, full) :: c.keyIds }

theorem formatKeyId_runOn {keyId : String} (bare : isFullKeyId keyId = false)
    (unknown : c.keyIds.lookup keyId = none) :
    (Client.formatKeyId keyId).runOn c = match Client.askRegion.runOn c with
      | (.error e, t) => (.error e, t)
      | (.ok r, t) => match Client.askAccount.runOn t with
        | (.error e, u) => (.error e, u)
        | (.ok a, u) => (.ok (fullKeyId r a keyId), u.withKeyId keyId (fullKeyId r a keyId)) := by
  unfold Client.formatKeyId
  simp only [bare, Bool.false_eq_true, if_false, runOn_bind, runOn_get, unknown]
  rcases Client.askRegion.runOn c with ⟨e | r, t⟩
  · rfl
  · dsimp only
    rcases Client.askAccount.runOn t with ⟨e | a, u⟩ <;> rfl

theorem Grows.withKeyId (c : Client) (keyId full : String) : Grows c (c.withKeyId keyId full) := by
  intro q h
  cases q with
  | formatKeyId k =>
    rw [knows, Bool.or_eq_true] at h ⊢
    exact h.imp_right lookup_cons_isSome
  | region | account | encrypt | decrypt => exact h

theorem Recalls.withKeyId (h : Recalls s c) (region : c.region.isSome = true)
    (account : c.account.isSome = true) (keyId : String) :
    Recalls s (c.withKeyId keyId (fullKeyId s.region s.account keyId)) := by
  refine ⟨h.store, h.region, h.account, fun e he => ?_, h.plaintexts⟩
  rcases List.mem_cons.1 he with rfl | he
  · exact ⟨rfl, region, account⟩
  · exact h.keyIds e he

/-- A key id that is completed asks for the region, and for the account if there is a region. -/
theorem Recalls.formatKeyId_unknown (h : Recalls s c) {keyId : String}
    (bare : isFullKeyId keyId = false) (unknown : c.keyIds.lookup keyId = none) :
    ∃ r t, (Client.formatKeyId keyId).runOn c = (r, t) ∧ Asked s c (.formatKeyId keyId) r t := by
  obtain ⟨r, t, ran, asked⟩ := h.askRegion
  rw [formatKeyId_runOn bare unknown, ran]
  rcases asked.result with rfl | ⟨call, hc, failing, rfl⟩
  -- the region is there and stays there, whatever becomes of the account
  · obtain ⟨a, u, ran', asked'⟩ := asked.recalls.askAccount
    have grows := asked.grows.trans asked'.grows
    have region : u.region.isSome = true :=
      asked'.grows .region (asked.settled .region List.mem_cons_self)
    have keptRegion : .region ∈ c.backend.failing → u.region = c.region := fun fails =>
      (asked'.region (asked.failing ▸ fails)).trans (asked.region fails)
    have keptAccount : .account ∈ c.backend.failing → u.account = c.account := fun fails =>
      (asked'.account (asked.failing ▸ fails)).trans (asked.account fails)
    rcases asked'.result with rfl | ⟨call, hc, failing, rfl⟩
    · have account : u.account.isSome = true := asked'.settled .account List.mem_cons_self
      have recalls := asked'.recalls.withKeyId region account keyId
      have known : (u.withKeyId keyId (fullKeyId s.region s.account keyId)).knows
          (.formatKeyId keyId) = true := by simp [knows, Client.withKeyId]
      have same : Question.answer s (.formatKeyId keyId) =
          .ok (fullKeyId s.region s.account keyId) := by
        rw [Question.answer, bare]
        rfl
      simp only [Question.answer, ran']
      rw [← same]
      exact ⟨_, _, rfl, recalls, asked'.failing.trans asked.failing, .inl rfl,
        grows.trans (.withKeyId _ _ _), recalls.knows_of_settles known, keptRegion, keptAccount,
        fun failed => by cases failed⟩
    · obtain rfl := List.mem_singleton.1 hc
      simp only [Question.answer, ran']
      refine ⟨_, _, rfl, asked'.recalls, asked'.failing.trans asked.failing,
        .inr ⟨.account, by simp [Question.calls], asked.failing ▸ failing, rfl⟩, grows,
        fun p hp => ?_, keptRegion, keptAccount, fun _ => ?_⟩
      · rw [Question.settles, if_pos rfl] at hp
        obtain rfl := List.mem_singleton.1 hp
        exact region
      · have others := askRegion_others c
        have others' := askAccount_others t
        rw [ran] at others
        rw [ran'] at others'
        exact ⟨others'.1.trans others.1, others'.2.trans others.2⟩
  · obtain rfl := List.mem_singleton.1 hc
    refine ⟨_, _, rfl, asked.recalls, asked.failing,
      .inr ⟨.region, by simp [Question.calls], failing, rfl⟩, asked.grows, fun p hp => ?_,
      asked.region, asked.account, fun _ => asked.others rfl⟩
    have apart : injected .region ≠ injected .account := by decide
    rw [Question.settles, if_neg apart] at hp
    cases hp

theorem Recalls.formatKeyId (h : Recalls s c) (keyId : String) :
    ∃ r t, (Client.formatKeyId keyId).runOn c = (r, t) ∧ Asked s c (.formatKeyId keyId) r t := by
  cases known : c.knows (.formatKeyId keyId) with
  | true => exact h.asked_of_knows known
  | false =>
    rw [knows, Bool.or_eq_false_iff, Option.isSome_eq_false_iff, Option.isNone_iff_eq_none] at known
    exact h.formatKeyId_unknown known.1 known.2

/-! ## Ciphertexts -/

theorem Grows.remembering (c : Client) (ciphertext plaintext : String) :
    Grows c (remembering ciphertext plaintext c) := by
  intro q h
  cases q with
  | decrypt => exact lookup_cons_isSome h
  | region | account | formatKeyId | encrypt => exact h

theorem Recalls.remembering (h : Recalls s c) {ciphertext keyId plaintext : String}
    (opens : Cipher.opened ciphertext = .ok (keyId, plaintext)) :
    Recalls s (remembering ciphertext plaintext c) := by
  refine ⟨h.store, h.region, h.account, h.keyIds, fun e he => ?_⟩
  rcases List.mem_cons.1 he with rfl | he
  · exact ⟨keyId, opens⟩
  · exact h.plaintexts e he

theorem knows_remembering (c : Client) (ciphertext plaintext : String) :
    (remembering ciphertext plaintext c).knows (.decrypt ciphertext) = true := by
  simp [knows, Client.remembering]

theorem Recalls.encrypt (h : Recalls s c) {plaintext keyId : String}
    (free : Cipher.separator ∉ keyId.toList) :
    ∃ r t, (Client.encrypt plaintext keyId).runOn c = (r, t) ∧
      Asked s c (.encrypt plaintext keyId) r t := by
  rw [encrypt_runOn]
  by_cases failing : .encrypt ∈ c.backend.failing
  · simp only [answer_of_failing _ failing]
    refine ⟨_, _, rfl, h.asked_failing List.mem_cons_self failing fun p hp => ?_⟩
    cases hp
  · simp only [h.answer_of_working _ failing, Except.mapError]
    refine ⟨_, _, rfl, (h.logged .encrypt).remembering (Cipher.opened_sealed free), rfl, .inl rfl,
      ?_, fun p hp => ?_, fun _ => rfl, fun _ => rfl, fun failed => by cases failed⟩
    · exact (Grows.logged c .encrypt).trans (.remembering _ _ _)
    · obtain rfl := List.mem_singleton.1 hp
      exact knows_remembering _ _ _

theorem Recalls.decrypt (h : Recalls s c) (ciphertext : String) :
    ∃ r t, (Client.decrypt ciphertext).runOn c = (r, t) ∧ Asked s c (.decrypt ciphertext) r t := by
  cases known : c.plaintexts.lookup ciphertext with
  | some plaintext => exact h.asked_of_knows (q := .decrypt ciphertext) (by simp [knows, known])
  | none =>
    rw [decrypt_runOn, known]
    by_cases failing : .decrypt ∈ c.backend.failing
    · simp only [answer_of_failing _ failing]
      refine ⟨_, _, rfl, h.asked_failing List.mem_cons_self failing fun p hp => ?_⟩
      cases hp
    · simp only [h.answer_of_working _ failing]
      cases opens : Cipher.opened ciphertext with
      | error fault =>
        refine ⟨_, _, rfl, h.logged .decrypt, rfl, .inl ?_, .logged c .decrypt, fun p hp => ?_,
          fun _ => rfl, fun _ => rfl, fun _ => ⟨rfl, rfl⟩⟩
        · rw [Question.answer, opens]
          rfl
        · cases hp
      | ok e =>
        refine ⟨_, _, rfl, (h.logged .decrypt).remembering opens, rfl, .inl ?_,
          (Grows.logged c .decrypt).trans (.remembering _ _ _), fun p hp => ?_, fun _ => rfl,
          fun _ => rfl, fun failed => by cases failed⟩
        · rw [Question.answer, opens]
          rfl
        · obtain rfl := List.mem_singleton.1 hp
          exact knows_remembering _ _ _

/-! ## Runs -/

theorem Recalls.asked (h : Recalls s c) {q : Question} (free : q.KeysFree) :
    ∃ r t, q.ask.runOn c = (r, t) ∧ Asked s c q r t := by
  cases q with
  | region => exact h.askRegion
  | account => exact h.askAccount
  | formatKeyId keyId => exact h.formatKeyId keyId
  | encrypt plaintext keyId => exact h.encrypt free
  | decrypt ciphertext => exact h.decrypt ciphertext

theorem asked_all (h : Recalls s c) {steps : List (List Call × Question)}
    (free : ∀ e ∈ steps, e.2.KeysFree) :
    Recalls s (c.askedAll steps) ∧ Grows c (c.askedAll steps) := by
  induction steps generalizing c with
  | nil => exact ⟨h, .refl c⟩
  | cons e rest ih =>
    obtain ⟨r, t, ran, asked⟩ := (h.withFailing e.1).asked (free e List.mem_cons_self)
    have grows : Grows c t := fun q known =>
      asked.grows q ((knows_withFailing c e.1 q).trans known)
    obtain ⟨recalls, behind⟩ := ih asked.recalls fun e he => free e (List.mem_cons_of_mem _ he)
    rw [askedAll, List.foldl_cons, ran]
    exact ⟨recalls, grows.trans behind⟩

/-- With the region known, completing a key id can only fail at the account. -/
theorem Recalls.formatKeyId_of_region (h : Recalls s c) (region : c.knows .region = true)
    (working : .account ∉ c.backend.failing) (keyId : String) :
    ((Client.formatKeyId keyId).runOn c).1 = Question.answer s (.formatKeyId keyId) := by
  cases known : c.knows (.formatKeyId keyId) with
  | true => exact congrArg Prod.fst (h.ask_of_knows known)
  | false =>
    rw [knows, Bool.or_eq_false_iff, Option.isSome_eq_false_iff, Option.isNone_iff_eq_none] at known
    obtain ⟨bare, unknown⟩ := known
    have ran : Client.askRegion.runOn c = (.ok s.region, c) := h.ask_of_knows region
    obtain ⟨a, u, ran', asked⟩ := h.askAccount
    have result : a = .ok s.account := by
      rcases asked.result with same | ⟨call, hc, failing, -⟩
      · exact same
      · obtain rfl := List.mem_singleton.1 hc
        exact absurd failing working
    rw [formatKeyId_runOn bare unknown, ran]
    simp only [ran', result]
    rw [Question.answer, bare]
    rfl

/-- A question that failed at a call is answered as soon as this call works and those behind it do. -/
theorem Recalls.retried (h : Recalls s c) {q : Question} (free : q.KeysFree) {call : Call}
    (hc : call ∈ q.calls) (settled : ∀ p ∈ q.settles (.error (injected call)), c.knows p = true)
    (working : ∀ other ∈ q.calls.dropWhile (· ≠ call), other ∉ c.backend.failing) :
    (q.ask.runOn c).1 = q.answer s := by
  -- only a key id takes two calls: if the second one failed, the region is known by then
  by_cases all : q.calls.dropWhile (· ≠ call) = q.calls
  · obtain ⟨r, t, ran, asked⟩ := h.asked free
    rw [ran]
    rcases asked.result with same | ⟨other, ho, failing, -⟩
    · exact same
    · exact absurd failing (working other (all.symm ▸ ho))
  · cases q with
    | region | account | encrypt | decrypt =>
      obtain rfl := List.mem_singleton.1 hc
      exact absurd (by simp [Question.calls]) all
    | formatKeyId keyId =>
      simp only [Question.calls, List.mem_cons, List.not_mem_nil, or_false] at hc
      rcases hc with rfl | rfl
      · exact absurd (by simp [Question.calls]) all
      · refine h.formatKeyId_of_region (settled .region ?_) (working .account ?_) keyId
        · simp [Question.settles]
        · simp [Question.calls]

end

/-- The client was not asked anything yet. -/
structure Blank (c : Client) : Prop where
  region : c.region = none
  account : c.account = none
  keyIds : c.keyIds = []
  plaintexts : c.plaintexts = []

theorem Blank.recalls {c : Client} (h : Blank c) : Recalls c.backend.store c :=
  ⟨rfl, by simp [h.region], by simp [h.account], by simp [h.keyIds], by simp [h.plaintexts]⟩

/-- Memory does not show. After any questions, with any calls failing at each:
a new client without failures gives the answer; the client gives the answer, or the failure of a call that
the question may take; the failed call leaves nothing behind; the question is answered later on if the
failed call works then, and those behind it do; and what was settled is answered later on, whatever fails,
without a call. -/
theorem ask_remembered {c : Client} (blank : Blank c) {steps later : List (List Call × Question)}
    {q : Question} (free : ∀ e ∈ steps, e.2.KeysFree) (free' : ∀ e ∈ later, e.2.KeysFree)
    (hq : q.KeysFree) (failing failing' : List Call) :
    let s := c.backend.store
    let t := (c.askedAll steps).withFailing failing
    let run := q.ask.runOn t
    let u := (run.2.askedAll later).withFailing failing'
    (q.ask.runOn { backend := { store := s } }).1 = q.answer s ∧
    (run.1 = q.answer s ∨ ∃ call ∈ q.calls, call ∈ failing ∧ run.1 = .error (injected call)) ∧
    (.region ∈ failing → run.2.region = t.region) ∧
    (.account ∈ failing → run.2.account = t.account) ∧
    (run.1.isOk = false → run.2.keyIds = t.keyIds ∧ run.2.plaintexts = t.plaintexts) ∧
    (∀ call ∈ q.calls, run.1 = .error (injected call) →
      (∀ other ∈ q.calls.dropWhile (· ≠ call), other ∉ failing') →
        (q.ask.runOn u).1 = q.answer s) ∧
    (∀ p ∈ q.settles run.1, ∃ x, p.answer s = .ok x ∧ p.ask.runOn u = (.ok x, u)) := by
  intro s t run u
  have new : Recalls s { backend := { store := s } } :=
    Blank.recalls (c := { backend := { store := s } }) ⟨rfl, rfl, rfl, rfl⟩
  have recalls : Recalls s t := (asked_all blank.recalls free).1.withFailing failing
  obtain ⟨r, v, ran, asked⟩ := recalls.asked hq
  have same : run = (r, v) := ran
  obtain ⟨behind, grows⟩ := asked_all asked.recalls free'
  have recalls' : Recalls s ((v.askedAll later).withFailing failing') := behind.withFailing failing'
  have settled : ∀ p ∈ q.settles r, ((v.askedAll later).withFailing failing').knows p = true :=
    fun p hp => (knows_withFailing _ _ p).trans (grows p (asked.settled p hp))
  subst u
  rw [same]
  refine ⟨?_, asked.result, asked.region, asked.account, asked.others, fun call hc failed works => ?_,
    fun p hp => ?_⟩
  · obtain ⟨r', v', ran', asked'⟩ := new.asked hq
    rw [ran']
    rcases asked'.result with same | ⟨call, -, failing, -⟩
    · exact same
    · cases failing
  · have failed : r = .error (injected call) := failed
    exact recalls'.retried hq hc (fun p hp => settled p (failed ▸ hp)) works
  · obtain ⟨x, known⟩ := recalls'.answer_of_knows (settled p hp)
    exact ⟨x, known, known ▸ recalls'.ask_of_knows (settled p hp)⟩

/-- The account fails where a key id is completed. The region stays known, so the next try succeeds while
the region fails. -/
theorem ask_remembered_halfway :
    let q : Question := .formatKeyId "alias/app"
    let run := q.ask.runOn (({} : Client).askedAll [([.decrypt], .encrypt "v" "k")] |>.withFailing
      [.account])
    let u := (run.2.askedAll [([], .decrypt "v")]).withFailing [.region, .encrypt]
    run.1 = .error (injected .account) ∧
    (q.ask.runOn u).1 = .ok "arn:aws:kms:us-east-1:000000000000:alias/app" ∧
    Question.region.ask.runOn u = (.ok "us-east-1", u) := by
  intro q run u
  have failed : run.1 = .error (injected .account) := by rfl
  obtain ⟨-, -, -, -, -, retried, settled⟩ :=
    @ask_remembered {} ⟨rfl, rfl, rfl, rfl⟩ [([.decrypt], .encrypt "v" "k")] [([], .decrypt "v")] q
      (by decide) (by decide) trivial [.account] [.region, .encrypt]
  obtain ⟨region, known, asked⟩ := settled .region (by rw [failed]; decide)
  cases known
  exact ⟨failed, (retried .account (by decide) failed (by decide)).trans (by rfl), asked⟩

end ParamFile.Client
