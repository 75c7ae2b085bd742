import ParamFile.Proofs.Judgement

/-!
# Resolving closes a document

An action is closed (`Closed`) if no client makes it end with the error of a variable without a value.
Reading a variable that is bound and ready is closed, all variables of the fields of a parameter are
among its `variableNames`, and being closed is a judgement; so no reading of a resolved document ever
finds a variable without a value, whatever was read before (`resolve_closed`).
-/

namespace ParamFile

open ParamFile.Action

/-- No client makes the action end with the error of a variable without a value. -/
def Closed {α : Type} (a : ClientM α) : Prop :=
  Meets (fun _ => True) a (fun _ => True) (¬ ·.IsOpen)

namespace Closed

variable {α β : Type}

theorem pure (x : α) : Closed (pure x) := Meets.pure trivial

theorem throw {e : Error} (h : ¬ e.IsOpen) : Closed (throw e : ClientM α) := Meets.throw h

theorem get : Closed (get : ClientM Client) := fun _ _ => ⟨trivial, trivial⟩

theorem modify (f : Client → Client) : Closed (modify f : ClientM PUnit) :=
  fun _ _ => ⟨trivial, trivial⟩

theorem bind {a : ClientM α} {f : α → ClientM β} (ha : Closed a) (hf : ∀ x, Closed (f x)) :
    Closed (a >>= f) := Meets.bind ha fun x _ => hf x

theorem map {a : ClientM α} (f : α → β) (ha : Closed a) : Closed (f <$> a) :=
  Meets.map ha fun _ _ => trivial

theorem forM {f : α → ClientM PUnit} {l : List α} (h : ∀ x ∈ l, Closed (f x)) :
    Closed (l.forM f) := by
  induction l with
  | nil => exact pure _
  | cons x l ih =>
    exact (h x List.mem_cons_self).bind fun _ => ih fun y hy => h y (List.mem_cons_of_mem _ hy)

end Closed

/-! ## Calls -/

theorem not_isOpen_ofFailure (c : Call) (subject : Option String) (f : Failure) :
    ¬ (Error.ofFailure c subject f).IsOpen := by
  unfold Error.ofFailure
  split <;> exact not_false

namespace Client

theorem closed_call {α : Type} (c : Call) (subject : Option String)
    (f : Store → Except Failure α × Store) : Closed (call c subject f) := by
  intro cl _
  refine ⟨?_, trivial⟩
  simp only [call, runOn_mk]
  cases (cl.backend.call c f).1 with
  | ok x => trivial
  | error e => exact not_isOpen_ofFailure c subject e

theorem closed_query {α : Type} (c : Call) (f : Store → Except Failure α) :
    Closed (query c f) := closed_call c none _

theorem closed_askRegion : Closed askRegion := by
  refine Closed.get.bind fun cl => ?_
  split
  · exact .pure _
  · exact (closed_query _ _).bind fun _ => (Closed.modify _).bind fun _ => .pure _

theorem closed_askAccount : Closed askAccount := by
  refine Closed.get.bind fun cl => ?_
  split
  · exact .pure _
  · exact (closed_query _ _).bind fun _ => (Closed.modify _).bind fun _ => .pure _

theorem closed_encrypt (plaintext keyId : String) : Closed (encrypt plaintext keyId) :=
  (closed_query _ _).bind fun _ => (Closed.modify _).bind fun _ => .pure _

theorem closed_decrypt (ciphertext : String) : Closed (decrypt ciphertext) := by
  refine Closed.get.bind fun cl => ?_
  split
  · exact .pure _
  · exact (closed_query _ _).bind fun _ => (Closed.modify _).bind fun _ => .pure _

end Client

/-! ## Variables -/

theorem Input.Ready.closed_value {i : Input} (h : i.Ready) (keyId : Option String) :
    Closed (i.value keyId) := by
  cases keyId with
  | none =>
    unfold Input.value
    dsimp only
    split
    · exact .throw not_false
    · rename_i hk
      obtain ⟨v, hv⟩ := Option.isSome_iff_exists.1 (h.2 (Bool.eq_false_iff.2 hk))
      rw [hv]
      exact .pure v
  | some k =>
    unfold Input.value
    dsimp only
    split
    · exact .pure _
    · exact Client.closed_decrypt _
    · exact .pure _
    · rename_i ht hc hp
      have set := h.1
      simp [Input.isSet, ht, hc, hp] at set

theorem Binding.Ready.closed_value {x : Binding} (h : x.Ready) (keyId : Option String) :
    Closed (x.value keyId) := by
  cases x with
  | input i => exact Input.Ready.closed_value h keyId
  | builtIn x =>
    cases x with
    | region => exact Client.closed_askRegion
    | account => exact Client.closed_askAccount

theorem closed_judgement : Judgement Closed where
  pure := Closed.pure
  throw := Closed.throw
  bind := Closed.bind
  tryCatch ha hf := Meets.tryCatch ha fun e _ => hf e
  decrypt := Client.closed_decrypt

/-- Every one of the names is bound and ready to be read. -/
def Bindings.Covers (b : Bindings) (names : List String) : Prop :=
  ∀ n ∈ names, ∃ x, b.get? n = some x ∧ x.Ready

theorem Bindings.Covers.answers {b : Bindings} {names others : List String} (h : b.Covers names)
    (sub : others ⊆ names) : Answers Closed b others := by
  intro n hn key
  obtain ⟨x, hx, ready⟩ := h n (sub hn)
  unfold Bindings.read
  rw [hx]
  exact ready.closed_value key

theorem Client.closed_putAll {b : Bindings} {ps : List Parameter}
    (h : ∀ p ∈ ps, Answers Closed b p.variableNames) (overwrite : Bool) :
    Closed (putAll ps b overwrite) := by
  refine (closed_judgement.requests h overwrite).bind fun rs => Closed.get.bind fun cl => ?_
  have put (r : PutRequest) : Closed (put r) := closed_call _ _ _
  exact (Closed.forM fun batch _ => Closed.forM fun r _ => put r).bind fun _ => .pure _

/-! ## Readings of a resolved document -/

/-- The fields of a parameter that can be read. -/
inductive Parameter.Field where
  | name
  | pattern
  | keyId
  | disabled
  | raw
  | value
  | dump
  deriving DecidableEq, Repr

def Parameter.read (p : Parameter) (b : Bindings) : Field → ClientM Unit
  | .name => discard (p.readName b)
  | .pattern => discard (p.readPattern b)
  | .keyId => discard (p.readKeyId b)
  | .disabled => discard (p.readDisabled b)
  | .raw => discard (p.readRaw b)
  | .value => discard (p.readValue b)
  | .dump => discard (p.dump b)

namespace Resolved

/-- What can be done with a resolved document. -/
inductive Reading (r : Resolved) where
  | names
  | flushPaths
  | compile (includeFlush ignoreDisabled : Bool)
  /-- All parameters are written. -/
  | put (overwrite : Bool)
  | field (p : Parameter) (h : p ∈ r.list) (f : Parameter.Field)

def Reading.run {r : Resolved} : r.Reading → ClientM Unit
  | .names => discard r.readNames
  | .flushPaths => discard r.readFlushPaths
  | .compile includeFlush ignoreDisabled => discard (r.compile includeFlush ignoreDisabled)
  | .put overwrite => discard (Client.putAll r.list r.bindings overwrite)
  | .field p _ f => p.read r.bindings f

/-- How some readings end, done one behind the other with one client. -/
def outcomes {r : Resolved} : List r.Reading → Client → List (Except Error Unit)
  | [], _ => []
  | x :: rest, cl => (x.run.runOn cl).1 :: outcomes rest (x.run.runOn cl).2

end Resolved

theorem Parameter.closed_read {p : Parameter} {b : Bindings}
    (h : Answers Closed b p.variableNames) (f : Field) : Closed (p.read b f) := by
  have hJ := closed_judgement
  cases f with
  | name => exact (hJ.readName h).map _
  | pattern => exact (hJ.readPattern h).map _
  | keyId => exact (hJ.readKeyId h).map _
  | disabled => exact (hJ.readDisabled h).map _
  | raw => exact (hJ.readRaw h).map _
  | value => exact (hJ.readValue h).map _
  | dump => exact (hJ.dump h Client.closed_encrypt).map _

namespace Document

variable {d : Document} {b : Bindings}

theorem variableNames_parameter {p : Parameter} (hp : p ∈ d.parameters.values) :
    p.variableNames ⊆ d.variableNames.names := by
  intro n hn
  refine NameSet.mem_names_ofList.2 (List.mem_append_left _ ?_)
  exact List.mem_flatMap.2 ⟨p, hp, hn⟩

theorem variableNames_flushTemplate {path : String} (hp : path ∈ d.flushPaths) :
    (flushTemplate path).variableNames ⊆ d.variableNames.names := by
  intro n hn
  refine NameSet.mem_names_ofList.2 (List.mem_append_right _ ?_)
  exact List.mem_flatMap.2 ⟨path, hp, hn⟩

/-- No reading of a document whose variables are bound and ready finds one without a value. -/
theorem closed_run (h : b.Covers d.variableNames.names) (x : (d.bound b).Reading) :
    Closed x.run := by
  have hJ := closed_judgement
  have all : ∀ p ∈ (d.bound b).list, Answers Closed b p.variableNames :=
    fun p hp => h.answers (variableNames_parameter hp)
  have paths : Closed (d.bound b).readFlushPaths :=
    hJ.mapM fun path hp => hJ.resolve _ (h.answers (variableNames_flushTemplate hp))
  cases x with
  | names => exact (hJ.mapM fun p hp => hJ.readName (all p hp)).map _
  | flushPaths => exact paths.map _
  | compile includeFlush ignoreDisabled =>
    have listed : Closed ((d.bound b).readListed includeFlush) := by
      unfold Resolved.readListed
      split
      · exact paths
      · exact .pure _
    have compiled : Closed ((d.bound b).compile includeFlush ignoreDisabled) := by
      rw [Resolved.compile_eq]
      exact listed.bind fun _ => hJ.compileEntries all Client.closed_encrypt _ _
    exact compiled.map _
  | put overwrite => exact (Client.closed_putAll all overwrite).map _
  | field p hp f => exact Parameter.closed_read (all p hp) f

/-- Once a document is resolved, no reading of it ever finds a variable without a value: whatever is
read, in whatever order, with whatever client. -/
theorem resolve_closed (hd : Built d) {asking : Bool} {echo : Option Bool} {p q : Prompter}
    {r : Resolved} (h : (d.resolve asking echo).runOn p = (.ok r, q)) (readings : List r.Reading)
    (cl : Client) : ∀ e, .error e ∈ Resolved.outcomes readings cl → ¬ e.IsOpen := by
  obtain ⟨eq, covers⟩ := ready_of_resolve hd h
  generalize r.bindings = b at eq covers
  subst eq
  intro e
  induction readings generalizing cl with
  | nil => exact fun he => by cases he
  | cons x rest ih =>
    intro he
    rcases List.mem_cons.1 he with he | he
    · exact (closed_run covers x).error trivial he.symm
    · exact ih _ he

/-- A value that refers to a variable, which is asked for. -/
theorem resolve_closed_asked :
    ∃ d r q, ofTree {} (.map [(.string "/a", .string "$(X)")]) = .ok d ∧
      (d.resolve true none).runOn { answers := ["v"] } = (.ok r, q) ∧
      ∀ (readings : List r.Reading) (cl : Client) (e : Error),
        .error e ∈ Resolved.outcomes readings cl → ¬ e.IsOpen := by
  have run : ∃ d, ofTree {} (.map [(.string "/a", .string "$(X)")]) = .ok d ∧
      ((d.resolve true none).runOn { answers := ["v"] }).1.isOk = true :=
    ⟨_, rfl, by decide +kernel⟩
  obtain ⟨d, hd, hr⟩ := run
  obtain ⟨r, q, h⟩ := exists_of_isOk hr
  exact ⟨d, r, q, hd, h, resolve_closed (.read hd) h⟩

end Document

end ParamFile
