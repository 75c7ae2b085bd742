import ParamFile.Client.Crypto
import ParamFile.Proofs.Action
import ParamFile.Proofs.Cipher

/-!
# What a client answers

A call that does not fail answers what the store answers, and leaves its trace in the log only
(`Client.query_runOn`). On a faithful client (`Client.Faithful`: no call fails, and what is remembered
of a ciphertext is what it opens to) region, account, encryption and decryption have answers that do
not depend on what was asked before: `yields_askRegion`, `yields_askAccount`, `yields_encrypt`,
`yields_decrypt`. A client is faithful when it is new (`faithful_new`), and encrypting keeps it so as
long as the keys hold no separator.
-/

namespace ParamFile.Client

open ParamFile.Action

/-! ## Calls -/

def injected (c : Call) : Error := Error.ofFailure c none (.injected c)

/-- What a call that reads the store answers. -/
def answer {α : Type} (c : Call) (f : Store → Except Failure α) (cl : Client) : Except Error α :=
  if c ∈ cl.backend.failing then .error (injected c)
  else (f cl.backend.store).mapError (Error.ofFailure c none)

def logged (c : Call) (cl : Client) : Client :=
  { cl with backend := { cl.backend with log := c :: cl.backend.log } }

theorem query_runOn {α : Type} (c : Call) (f : Store → Except Failure α) (cl : Client) :
    (query c f).runOn cl = (answer c f cl, logged c cl) := by
  simp only [query, call, runOn_mk, Backend.call, answer, List.contains_iff_mem]
  split <;> rfl

theorem askRegion_runOn (cl : Client) :
    askRegion.runOn cl = match cl.region with
      | some r => (.ok r, cl)
      | none => match answer .region (fun s => .ok s.region) cl with
        | .ok r => (.ok r, { logged .region cl with region := some r })
        | .error e => (.error e, logged .region cl) := by
  unfold askRegion
  rw [runOn_bind, runOn_get]
  cases h : cl.region with
  | some r => simp only [h, runOn_pure]
  | none =>
    simp only [h, runOn_bind, query_runOn]
    cases answer .region (fun s => .ok s.region) cl <;> rfl

theorem askAccount_runOn (cl : Client) :
    askAccount.runOn cl = match cl.account with
      | some a => (.ok a, cl)
      | none => match answer .account (fun s => .ok s.account) cl with
        | .ok a => (.ok a, { logged .account cl with account := some a })
        | .error e => (.error e, logged .account cl) := by
  unfold askAccount
  rw [runOn_bind, runOn_get]
  cases h : cl.account with
  | some r => simp only [h, runOn_pure]
  | none =>
    simp only [h, runOn_bind, query_runOn]
    cases answer .account (fun s => .ok s.account) cl <;> rfl

theorem mem_of_lookup {k v : String} {entries : List (String × String)}
    (h : entries.lookup k = some v) : (k, v) ∈ entries := by
  obtain ⟨l, r, rfl, -⟩ := List.lookup_eq_some_iff.1 h
  simp

/-- The client that remembers one more plaintext. -/
def remembering (ciphertext plaintext : String) (cl : Client) : Client :=
  { cl with plaintexts := (ciphertext, plaintext) :: cl.plaintexts }

theorem encrypt_runOn (plaintext keyId : String) (cl : Client) :
    (encrypt plaintext keyId).runOn cl =
      match answer .encrypt (fun _ => .ok (Cipher.sealed plaintext keyId)) cl with
      | .ok c => (.ok c, remembering c plaintext (logged .encrypt cl))
      | .error e => (.error e, logged .encrypt cl) := by
  simp only [encrypt, runOn_bind, query_runOn]
  cases answer .encrypt (fun _ => .ok (Cipher.sealed plaintext keyId)) cl <;> rfl

theorem decrypt_runOn (ciphertext : String) (cl : Client) :
    (decrypt ciphertext).runOn cl = match cl.plaintexts.lookup ciphertext with
      | some p => (.ok p, cl)
      | none => match answer .decrypt (fun _ => (Cipher.opened ciphertext).map (·.2)) cl with
        | .ok p => (.ok p, remembering ciphertext p (logged .decrypt cl))
        | .error e => (.error e, logged .decrypt cl) := by
  unfold decrypt
  rw [runOn_bind, runOn_get]
  cases h : cl.plaintexts.lookup ciphertext with
  | some p => simp only [h, runOn_pure]
  | none =>
    simp only [h, runOn_bind, query_runOn]
    cases answer .decrypt (fun _ => (Cipher.opened ciphertext).map (·.2)) cl <;> rfl

/-! ## The store -/

theorem keeps_store_askRegion : Keeps (fun c => c.backend.store) askRegion := by
  intro c
  rw [askRegion_runOn]
  split
  · rfl
  · split <;> rfl

theorem keeps_store_askAccount : Keeps (fun c => c.backend.store) askAccount := by
  intro c
  rw [askAccount_runOn]
  split
  · rfl
  · split <;> rfl

theorem keeps_store_encrypt (plaintext keyId : String) :
    Keeps (fun c => c.backend.store) (encrypt plaintext keyId) := by
  intro c
  rw [encrypt_runOn]
  split <;> rfl

theorem keeps_store_decrypt (ciphertext : String) :
    Keeps (fun c => c.backend.store) (decrypt ciphertext) := by
  intro c
  rw [decrypt_runOn]
  split
  · rfl
  · split <;> rfl

/-! ## Faithful clients -/

/-- No call fails, the client answers with this region and this account, and every remembered plaintext
is the one that its ciphertext opens to. -/
structure Faithful (region account : String) (cl : Client) : Prop where
  working : cl.backend.failing = []
  region_eq : cl.region.getD cl.backend.store.region = region
  account_eq : cl.account.getD cl.backend.store.account = account
  honest : ∀ e ∈ cl.plaintexts, ∃ keyId, Cipher.opened e.1 = .ok (keyId, e.2)

/-- A client that has not been asked anything yet is faithful. -/
theorem faithful_new (cl : Client) (working : cl.backend.failing = []) (r : cl.region = none)
    (a : cl.account = none) (p : cl.plaintexts = []) :
    Faithful cl.backend.store.region cl.backend.store.account cl :=
  ⟨working, by rw [r, Option.getD_none], by rw [a, Option.getD_none], by simp [p]⟩

section
variable {region account : String}

theorem Faithful.logged {cl : Client} (h : Faithful region account cl) (c : Call) :
    Faithful region account (logged c cl) :=
  ⟨h.working, h.region_eq, h.account_eq, h.honest⟩

theorem Faithful.remembering {cl : Client} (h : Faithful region account cl)
    {ciphertext plaintext keyId : String} (ho : Cipher.opened ciphertext = .ok (keyId, plaintext)) :
    Faithful region account (remembering ciphertext plaintext cl) := by
  refine ⟨h.working, h.region_eq, h.account_eq, fun e he => ?_⟩
  rcases List.mem_cons.1 he with rfl | he
  · exact ⟨keyId, ho⟩
  · exact h.honest e he

theorem Faithful.answer {α : Type} {cl : Client} (h : Faithful region account cl) (c : Call)
    (f : Store → Except Failure α) :
    answer c f cl = (f cl.backend.store).mapError (Error.ofFailure c none) := by
  simp [Client.answer, h.working]

theorem Faithful.opened_of_lookup {cl : Client} (h : Faithful region account cl)
    {ciphertext plaintext : String} (hl : cl.plaintexts.lookup ciphertext = some plaintext) :
    ∃ keyId, Cipher.opened ciphertext = .ok (keyId, plaintext) :=
  h.honest (ciphertext, plaintext) (mem_of_lookup hl)

theorem yields_askRegion : Yields (Faithful region account) askRegion (.ok region) := by
  intro cl h
  rw [askRegion_runOn]
  have hr := h.region_eq
  cases hc : cl.region with
  | some r =>
    rw [hc, Option.getD_some] at hr
    exact ⟨by rw [hr], h⟩
  | none =>
    rw [hc, Option.getD_none] at hr
    simp only [h.answer, Except.mapError, hr]
    exact ⟨trivial, h.working, rfl, h.account_eq, h.honest⟩

theorem yields_askAccount : Yields (Faithful region account) askAccount (.ok account) := by
  intro cl h
  rw [askAccount_runOn]
  have ha := h.account_eq
  cases hc : cl.account with
  | some a =>
    rw [hc, Option.getD_some] at ha
    exact ⟨by rw [ha], h⟩
  | none =>
    rw [hc, Option.getD_none] at ha
    simp only [h.answer, Except.mapError, ha]
    exact ⟨trivial, h.working, h.region_eq, rfl, h.honest⟩

theorem yields_encrypt {plaintext keyId : String} (free : Cipher.separator ∉ keyId.toList) :
    Yields (Faithful region account) (encrypt plaintext keyId)
      (.ok (Cipher.sealed plaintext keyId)) := by
  intro cl h
  simp only [encrypt_runOn, h.answer, Except.mapError]
  exact ⟨trivial, (h.logged _).remembering (Cipher.opened_sealed free)⟩

theorem yields_decrypt (ciphertext : String) :
    Yields (Faithful region account) (decrypt ciphertext)
      (((Cipher.opened ciphertext).map (·.2)).mapError (Error.ofFailure .decrypt none)) := by
  intro cl h
  rw [decrypt_runOn]
  cases hl : cl.plaintexts.lookup ciphertext with
  | some p =>
    obtain ⟨keyId, ho⟩ := h.opened_of_lookup hl
    exact ⟨by rw [ho]; rfl, h⟩
  | none =>
    simp only [h.answer]
    cases ho : Cipher.opened ciphertext with
    | error f => exact ⟨rfl, h.logged _⟩
    | ok e => exact ⟨rfl, (h.logged _).remembering ho⟩

theorem yields_decrypt_ok {ciphertext keyId plaintext : String}
    (h : Cipher.opened ciphertext = .ok (keyId, plaintext)) :
    Yields (Faithful region account) (decrypt ciphertext) (.ok plaintext) := by
  have key : Yields (Faithful region account) (decrypt ciphertext) _ := yields_decrypt ciphertext
  rwa [h] at key

/-- Only a ciphertext that opens to it is decrypted to a plaintext. -/
theorem opened_of_yields_decrypt {cl : Client} (hc : Faithful region account cl)
    {ciphertext plaintext : String}
    (h : Yields (Faithful region account) (decrypt ciphertext) (.ok plaintext)) :
    ∃ keyId, Cipher.opened ciphertext = .ok (keyId, plaintext) := by
  have := (h cl hc).1.symm.trans ((yields_decrypt ciphertext) cl hc).1
  cases ho : Cipher.opened ciphertext with
  | error f => rw [ho] at this; cases this
  | ok e =>
    rw [ho] at this
    cases this
    exact ⟨e.1, rfl⟩

end

end ParamFile.Client
