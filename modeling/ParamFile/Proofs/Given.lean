import ParamFile.Input.Basic
import ParamFile.Proofs.Client

/-!
# What an input was given

An input is given values and read in any order (`Input.used`). A reader with a key gets what was given
last, with one exception: a secret input has a place for a value in the clear and another one for
ciphertexts and typed answers, and as long as there is something in the second the first does not count
(`Input.counting`, `Input.value_used`). So a value in the clear does not replace a ciphertext
(`Input.value_covered`). Reads do not matter, although they keep what they decrypt: it is what the
ciphertext opens to (`Input.Hides.keeping`).
-/

namespace ParamFile.Input

open ParamFile.Action

/-! ## Uses -/

/-- Something done with an input. -/
inductive Use where
  | give (value : String) (encrypted : Option Bool)
  | ask (prompter : Prompter) (echo : Option Bool)
  | read (client : Client) (keyId : Option String)

/-- What an input is given. -/
inductive Given where
  | clear (value : String)
  | ciphertext (value : String)
  | answer (value : String)
  deriving DecidableEq, Repr

/-- What a reader with a key gets for it. -/
def Given.meaning : Given → Except Error String
  | .clear value | .answer value => .ok value
  | .ciphertext value => ((Cipher.opened value).map (·.2)).mapError (Error.ofFailure .decrypt none)

/-- Whether it is given to a secret input only. -/
def Given.isHidden : Given → Bool
  | .clear _ => false
  | .ciphertext _ | .answer _ => true

def Given.clear? : Given → Option String
  | .clear value => some value
  | .ciphertext _ | .answer _ => none

/-- The input behind a use. A question without an accepted answer and a read that fails leave it as it
was. -/
def use (i : Input) : Use → Input
  | .give value encrypted => i.setValue value encrypted
  | .ask prompter echo =>
    match ((i.ask echo).runOn prompter).1 with
    | .ok j => j
    | .error _ => i
  | .read client keyId =>
    match ((i.read keyId).runOn client).1 with
    | .ok (_, j) => j
    | .error _ => i

def used (i : Input) (uses : List Use) : Input := uses.foldl use i

def given (i : Input) : Use → Option Given
  | .give value encrypted =>
    some (if i.kind.isSecure && encrypted != some false then .ciphertext value else .clear value)
  | .ask prompter echo =>
    match ((i.askValue echo).runOn prompter).1 with
    | .ok value => some (if i.kind.isSecure then .answer value else .clear value)
    | .error _ => none
  | .read .. => none

/-- What some uses give to an input, the last first. -/
def gifts (i : Input) : List Use → List Given
  | [] => []
  | u :: rest => (i.use u).gifts rest ++ (i.given u).toList

/-- What counts, if `last` was given behind `earlier`. -/
def counting (last : Given) (earlier : List Given) : Given :=
  if last.isHidden then last else (earlier.find? Given.isHidden).getD last

/-- The clients that read are faithful. -/
def Honest (uses : List Use) : Prop :=
  ∀ client keyId, .read client keyId ∈ uses → ∃ region account, Client.Faithful region account client

theorem use_ask (i : Input) (prompter : Prompter) (echo : Option Bool) :
    i.use (.ask prompter echo) = match ((i.askValue echo).runOn prompter).1 with
      | .ok value => i.setTyped value
      | .error _ => i := by
  simp only [use, ask, runOn_bind]
  rcases (i.askValue echo).runOn prompter with ⟨e | value, p⟩ <;> rfl

theorem use_read (i : Input) (client : Client) (keyId : Option String) :
    i.use (.read client keyId) = match ((i.value keyId).runOn client).1 with
      | .ok value => i.keeping keyId value
      | .error _ => i := by
  simp only [use, read, runOn_bind]
  rcases (i.value keyId).runOn client with ⟨e | value, c⟩ <;> rfl

theorem plain_keeping (i : Input) (keyId : Option String) (value : String) :
    (i.keeping keyId value).plain = i.plain := by
  unfold keeping
  split <;> rfl

theorem kind_use (i : Input) (u : Use) : (i.use u).kind = i.kind := by
  cases u with
  | give value encrypted =>
    show (i.setValue value encrypted).kind = i.kind
    unfold setValue
    split <;> rfl
  | ask prompter echo =>
    rw [use_ask]
    split
    · unfold setTyped
      split <;> rfl
    · rfl
  | read client keyId =>
    rw [use_read]
    split
    · unfold keeping
      split <;> rfl
    · rfl

/-- An input that is not secret is given values in the clear only. -/
theorem clear_of_gifts {i : Input} (exposed : i.kind.isSecure = false) {uses : List Use} {g : Given}
    (hg : g ∈ i.gifts uses) : g.isHidden = false := by
  induction uses generalizing i with
  | nil => cases hg
  | cons u rest ih =>
    rw [gifts, List.mem_append] at hg
    rcases hg with later | here
    · exact ih ((kind_use i u).symm ▸ exposed) later
    · rw [Option.mem_toList] at here
      cases u with
      | give value encrypted =>
        rw [given, exposed] at here
        cases here
        rfl
      | ask prompter echo =>
        rw [given, exposed] at here
        split at here
        · cases here
          rfl
        · cases here
      | read client keyId => cases here

/-- What is given last counts, unless it is in the clear and covered by something hidden. -/
theorem counting_eq_last {last : Given} {earlier : List Given}
    (h : last.isHidden = true ∨ ∀ g ∈ earlier, g.isHidden = false) : counting last earlier = last := by
  unfold counting
  split
  · rfl
  · rename_i shown
    have none : earlier.find? Given.isHidden = none := by
      rw [List.find?_eq_none]
      intro g hg
      rw [(h.resolve_left shown) g hg]
      exact Bool.false_ne_true
    rw [none, Option.getD_none]

/-! ## What is in the two places -/

/-- What is in the place for ciphertexts and answers, and beside a ciphertext perhaps its plaintext. -/
inductive Hides (i : Input) : Option Given → Prop
  | nothing (ciphertext : i.ciphertext = none) (typed : i.typed = none) : Hides i none
  | ciphertext {value : String} (ciphertext : i.ciphertext = some value)
      (typed : ∀ p, i.typed = some p → ∃ keyId, Cipher.opened value = .ok (keyId, p)) :
      Hides i (some (.ciphertext value))
  | answer {value : String} (ciphertext : i.ciphertext = none) (typed : i.typed = some value) :
      Hides i (some (.answer value))

/-- The two places hold what was put there last. -/
structure Holds (i : Input) (gifts : List Given) : Prop where
  hidden : Hides i (gifts.find? Given.isHidden)
  clear : i.plain = gifts.findSome? Given.clear?

section
variable {i : Input} {gifts : List Given}

theorem Hides.congr {j : Input} {g : Option Given} (h : Hides i g)
    (ciphertext : j.ciphertext = i.ciphertext) (typed : j.typed = i.typed) : Hides j g := by
  cases h with
  | nothing c t => exact .nothing (ciphertext.trans c) (typed.trans t)
  | ciphertext c t =>
    refine .ciphertext (ciphertext.trans c) ?_
    rw [typed]
    exact t
  | answer c t => exact .answer (ciphertext.trans c) (typed.trans t)

theorem Holds.cons_clear (h : Holds i gifts) (value : String) :
    Holds { i with plain := some value } (.clear value :: gifts) :=
  ⟨h.hidden.congr rfl rfl, rfl⟩

theorem Holds.setValue (h : Holds i gifts) (value : String) (encrypted : Option Bool) :
    Holds (i.setValue value encrypted)
      ((if i.kind.isSecure && encrypted != some false then .ciphertext value else .clear value) ::
        gifts) := by
  unfold Input.setValue
  split
  · exact ⟨.ciphertext rfl (by simp), h.clear⟩
  · exact h.cons_clear value

theorem Holds.setTyped (h : Holds i gifts) (value : String) :
    Holds (i.setTyped value) ((if i.kind.isSecure then .answer value else .clear value) :: gifts) := by
  unfold Input.setTyped
  split
  · exact ⟨.answer rfl rfl, h.clear⟩
  · exact h.cons_clear value

/-! ## Reading -/

theorem Given.meaning_ciphertext {value p : String} :
    (Given.ciphertext value).meaning = .ok p ↔ ∃ keyId, Cipher.opened value = .ok (keyId, p) := by
  simp only [Given.meaning]
  rcases Cipher.opened value with f | ⟨keyId, q⟩
  · simp [Except.map, Except.mapError]
  · simp [Except.map, Except.mapError]

variable {region account : String}

theorem Hides.yields_value {g : Given} (h : Hides i (some g)) (key : String) :
    Yields (Client.Faithful region account) (i.value (some key)) g.meaning := by
  unfold Input.value
  cases h with
  | @ciphertext value hc ht =>
    cases typed : i.typed with
    | none =>
      simp only [hc]
      exact Client.yields_decrypt value
    | some p =>
      rw [Given.meaning_ciphertext.2 (ht p typed)]
      exact .pure p
  | @answer value hc ht =>
    simp only [ht]
    exact .pure value

/-- A read keeps nothing but the plaintext of the ciphertext that is there. -/
theorem Hides.keeping {g : Option Given} (h : Hides i g) {client : Client}
    (faithful : Client.Faithful region account client) {keyId : Option String} {value : String}
    (read : ((i.value keyId).runOn client).1 = .ok value) : Hides (i.keeping keyId value) g := by
  unfold Input.keeping
  split
  · rename_i decrypted
    simp only [Bool.and_eq_true, Option.isSome_iff_exists, Option.isNone_iff_eq_none] at decrypted
    obtain ⟨⟨⟨key, rfl⟩, untyped⟩, c, hc⟩ := decrypted
    cases h with
    -- only the plaintext of a ciphertext is kept, and there is one
    | nothing hn _ =>
      rw [hc] at hn
      cases hn
    | answer hn _ =>
      rw [hc] at hn
      cases hn
    | @ciphertext c' hc' ht =>
      rw [((Hides.ciphertext hc' ht).yields_value key client faithful).1] at read
      refine .ciphertext hc' fun p hp => ?_
      cases hp
      exact Given.meaning_ciphertext.1 read
  · exact h

/-! ## Runs -/

theorem Holds.use (h : Holds i gifts) (u : Use)
    (honest : ∀ client keyId, u = .read client keyId →
      ∃ region account, Client.Faithful region account client) :
    Holds (i.use u) ((i.given u).toList ++ gifts) := by
  cases u with
  | give value encrypted => exact h.setValue value encrypted
  | ask prompter echo =>
    rw [use_ask, given]
    rcases ((i.askValue echo).runOn prompter).1 with e | value
    · exact h
    · exact h.setTyped value
  | read client keyId =>
    obtain ⟨region, account, faithful⟩ := honest client keyId rfl
    rw [use_read, given]
    cases value : ((i.value keyId).runOn client).1 with
    | error e => exact h
    | ok v =>
      refine ⟨h.hidden.keeping faithful value, ?_⟩
      rw [plain_keeping]
      exact h.clear

theorem Holds.used (h : Holds i gifts) {uses : List Use} (honest : Honest uses) :
    Holds (i.used uses) (i.gifts uses ++ gifts) := by
  induction uses generalizing i gifts with
  | nil => exact h
  | cons u rest ih =>
    rw [Input.gifts, List.append_assoc]
    refine ih (h.use u fun client keyId e => honest client keyId ?_) fun client keyId hm =>
      honest client keyId (List.mem_cons_of_mem _ hm)
    rw [e]
    exact List.mem_cons_self

theorem Holds.yields_value {last : Given} {earlier : List Given} (h : Holds i (last :: earlier))
    (key : String) :
    Yields (Client.Faithful region account) (i.value (some key)) (counting last earlier).meaning := by
  obtain ⟨hidden, clear⟩ := h
  cases last with
  | ciphertext value => exact hidden.yields_value key
  | answer value => exact hidden.yields_value key
  | clear value =>
    have found : (Given.clear value :: earlier).find? Given.isHidden =
        earlier.find? Given.isHidden := rfl
    rw [found] at hidden
    -- a value in the clear is read only if nothing stands in the other place
    simp only [counting, Given.isHidden, Bool.false_eq_true, if_false]
    cases behind : earlier.find? Given.isHidden with
    | some g =>
      rw [behind] at hidden
      exact hidden.yields_value key
    | none =>
      rw [behind] at hidden
      cases hidden with
      | nothing hc ht =>
        have plain : i.plain = some value := clear
        unfold Input.value
        simp only [hc, ht, plain]
        exact .pure value

end

/-- Take a new input, and values that it is given in any order with reads between. A reader with a key gets
what counts. That is what was given last, unless the input is secret, the last value is in the clear, and a
ciphertext or an answer was given before; then it is the last of those. -/
theorem value_used {i : Input} (new : i.isSet = false) {uses : List Use} (honest : Honest uses)
    {last : Given} {earlier : List Given} (given : i.gifts uses = last :: earlier)
    {region account : String} {c : Client} (faithful : Client.Faithful region account c)
    (key : String) :
    (((i.used uses).value (some key)).runOn c).1 = (counting last earlier).meaning ∧
    (i.kind.isSecure = false ∨ last.isHidden = true ∨ (∀ g ∈ earlier, g.isHidden = false) →
      counting last earlier = last) ∧
    (last.isHidden = false → ∀ g ∈ earlier.find? Given.isHidden, counting last earlier = g) := by
  have empty : Holds i [] := by
    simp only [isSet, Bool.or_eq_false_iff, Option.isSome_eq_false_iff, Option.isNone_iff_eq_none] at new
    exact ⟨.nothing new.1.2 new.2, new.1.1⟩
  have holds := empty.used honest
  rw [List.append_nil, given] at holds
  refine ⟨(holds.yields_value key c faithful).1, fun exposed => counting_eq_last ?_, fun shown g hg => ?_⟩
  · refine exposed.elim (fun exposed => .inr fun g hg => ?_) id
    exact clear_of_gifts exposed (given ▸ List.mem_cons_of_mem _ hg)
  · rw [counting, shown, Option.mem_def.1 hg]
    rfl

/-- A secret input without a value. -/
def password : Input := { name := "Password", kind := .secureString }

/-- A value in the clear, a ciphertext, and an answer that is accepted after one that is not. -/
def rounds : List Use := [
  .give "first" (some false),
  .read {} (some "k"),
  .give (Cipher.sealed "second" "k") none,
  .read {} (some "k"),
  .ask {} none,
  .ask { answers := ["third"] } (some true),
  .read {} none]

/-- The answer is what counts. -/
theorem value_used_rounds :
    password.isSet = false ∧ Honest rounds ∧
    password.gifts rounds =
      [.answer "third", .ciphertext (Cipher.sealed "second" "k"), .clear "first"] ∧
    (((password.used rounds).value (some "k")).runOn {}).1 = .ok "third" := by
  have new : password.isSet = false := rfl
  have faithful := Client.faithful_new {} rfl rfl rfl rfl
  have honest : Honest rounds := by
    intro client keyId read
    have same : client = {} := by
      simp only [rounds, List.mem_cons, reduceCtorEq, Use.read.injEq, List.not_mem_nil, or_false,
        false_or] at read
      rcases read with ⟨rfl, -⟩ | ⟨rfl, -⟩ | ⟨rfl, -⟩ <;> rfl
    exact ⟨_, _, same ▸ faithful⟩
  have given : password.gifts rounds =
      [.answer "third", .ciphertext (Cipher.sealed "second" "k"), .clear "first"] := by
    decide +kernel
  exact ⟨new, honest, given, (value_used new honest given faithful "k").1⟩

/-- A ciphertext, and a value in the clear behind it. -/
def covered : List Use := [
  .give (Cipher.sealed "old" "k") none, .read {} (some "k"), .give "new" (some false)]

/-- The value that is given last does not count. -/
theorem value_covered :
    password.gifts covered = [.clear "new", .ciphertext (Cipher.sealed "old" "k")] ∧
    (Given.clear "new").meaning = .ok "new" ∧
    (((password.used covered).value (some "k")).runOn {}).1 = .ok "old" := by
  decide +kernel

end ParamFile.Input
