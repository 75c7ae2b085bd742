import ParamFile.Proofs.Paging
import ParamFile.Proofs.Secrecy
import ParamFile.Proofs.Writing

/-!
# Writing one behind the other

All parameters are read before anything is written, so what is read of one of them is what a client
reads of it alone (`Client.yields_requests`): reading changes neither what the client answers nor what is
stored (`Client.standing`). Then the requests are put one behind the other (`Client.putAll_writes`), and
the size of the batches makes no difference (`Client.putAll_withBatchSize`).
-/

namespace ParamFile

open ParamFile.Action

/-! ## Puts on a backend -/

namespace Backend

/-- The backend behind some puts, each of which was tried. -/
def tried (b : Backend) (rs : List PutRequest) : Backend :=
  rs.foldl (fun b r => (b.call .put fun s => s.put r).2) b

/-- Whether a put does not fail. -/
def grants (b : Backend) (r : PutRequest) : Bool := (b.call .put fun s => s.put r).1.isOk

theorem putEach_ok_iff {rs : List PutRequest} {b : Backend} :
    (putEach rs b).1 = .ok () ↔
      ∀ front r rest, rs = front ++ r :: rest → (b.tried front).grants r = true := by
  induction rs generalizing b with
  | nil =>
    refine iff_of_true rfl fun front r rest eq => ?_
    simp at eq
  | cons r rest ih =>
    rcases putEach_cons b r rest with ⟨t, here, eq⟩ | ⟨f, t, here, eq⟩
    · rw [eq, ih]
      constructor
      · intro later front q back parts
        cases front with
        | nil =>
          cases parts
          simp only [tried, List.foldl_nil, grants, here]
          rfl
        | cons p front =>
          cases parts
          have := later front q back rfl
          rwa [tried, List.foldl_cons, here]
      · intro all front q back parts
        have := all (r :: front) q back (by rw [parts, List.cons_append])
        rwa [tried, List.foldl_cons, here] at this
    · -- this one fails at once, with nothing in front of it
      rw [eq]
      refine iff_of_false (fun ok => by cases ok) fun all => ?_
      have first := all [] r rest rfl
      simp only [tried, List.foldl_nil, grants, here] at first
      cases first

/-- Two backends that differ at most in calls that put nothing. -/
structure SamePuts (b b' : Backend) : Prop where
  store : b.store = b'.store
  failing : b.failing = b'.failing
  count : b.count .put = b'.count .put

theorem SamePuts.call {b b' : Backend} (h : b.SamePuts b') (r : PutRequest) :
    (b.call .put fun s => s.put r).1 = (b'.call .put fun s => s.put r).1 ∧
      (b.call .put fun s => s.put r).2.SamePuts (b'.call .put fun s => s.put r).2 := by
  have counts : (Call.put :: b.log).count .put = (Call.put :: b'.log).count .put := by
    rw [List.count_cons_self, List.count_cons_self]
    exact congrArg (· + 1) h.count
  by_cases failing : Call.put ∈ b.failing
  · rw [call_of_failing failing, call_of_failing (h.failing ▸ failing)]
    exact ⟨rfl, h.store, h.failing, counts⟩
  · rw [call_of_not_failing failing, call_of_not_failing (h.failing ▸ failing), h.store]
    exact ⟨rfl, rfl, h.failing, counts⟩

theorem SamePuts.putEach {b b' : Backend} (h : b.SamePuts b') (rs : List PutRequest) :
    (putEach rs b).1 = (putEach rs b').1 ∧ (putEach rs b).2.SamePuts (putEach rs b').2 := by
  induction rs generalizing b b' with
  | nil => exact ⟨rfl, h⟩
  | cons r rest ih =>
    obtain ⟨same, next⟩ := h.call r
    unfold Backend.putEach
    generalize b.call .put (fun s => s.put r) = x at same next ⊢
    generalize b'.call .put (fun s => s.put r) = y at same next ⊢
    obtain ⟨f | _, t⟩ := x
    all_goals
      obtain ⟨_, t'⟩ := y
      cases same
    · exact ⟨rfl, next⟩
    · exact ih next

theorem SamePuts.symm {b b' : Backend} (h : b.SamePuts b') : b'.SamePuts b :=
  ⟨h.store.symm, h.failing.symm, h.count.symm⟩

theorem SamePuts.trans {b b' b'' : Backend} (h : b.SamePuts b') (h' : b'.SamePuts b'') :
    b.SamePuts b'' :=
  ⟨h.store.trans h'.store, h.failing.trans h'.failing, h.count.trans h'.count⟩

end Backend

namespace Client

/-! ## What reading leaves alone -/

/-- The plaintext of a ciphertext, as the client answers it. -/
def plaintext (c : Client) (ciphertext : String) : Except Error String :=
  (c.plaintexts.lookup ciphertext).elim
    (answer .decrypt (fun _ => (Cipher.opened ciphertext).map (·.2)) c) .ok

/-- What a client answers, whatever it was asked before, and what it has put. -/
structure Standing where
  voice : Voice
  plaintext : String → Except Error String
  store : Store
  puts : Nat

def standing (c : Client) : Standing where
  voice := c.voice
  plaintext := c.plaintext
  store := c.backend.store
  puts := c.backend.count .put

theorem keeps_standing {α : Type} {a : ClientM α} (voice : Keeps Client.voice a)
    (plaintext : Keeps Client.plaintext a) (store : Keeps (fun c => c.backend.store) a)
    (puts : Keeps (fun c => c.backend.count .put) a) : Keeps standing a := by
  intro c
  have store : (a.runOn c).2.backend.store = c.backend.store := store c
  have puts : (a.runOn c).2.backend.count .put = c.backend.count .put := puts c
  rw [standing, voice c, plaintext c, store, puts]
  rfl

theorem keeps_standing_askRegion : Keeps standing askRegion := by
  refine keeps_standing keeps_voice_askRegion (fun c => ?_) keeps_store_askRegion fun c => ?_
  · rw [askRegion_runOn]
    split
    · rfl
    · split <;> rfl
  · rw [askRegion_runOn]
    split
    · rfl
    · split <;> simp [Backend.count, logged]

theorem keeps_standing_askAccount : Keeps standing askAccount := by
  refine keeps_standing keeps_voice_askAccount (fun c => ?_) keeps_store_askAccount fun c => ?_
  · rw [askAccount_runOn]
    split
    · rfl
    · split <;> rfl
  · rw [askAccount_runOn]
    split
    · rfl
    · split <;> simp [Backend.count, logged]

theorem decrypt_plaintext (ciphertext : String) (c : Client) :
    ((decrypt ciphertext).runOn c).1 = c.plaintext ciphertext := by
  rw [decrypt_runOn, plaintext]
  cases c.plaintexts.lookup ciphertext with
  | some p => rfl
  | none =>
    simp only [Option.elim]
    split <;> simp [*]

theorem keeps_standing_decrypt (ciphertext : String) : Keeps standing (decrypt ciphertext) := by
  refine keeps_standing (keeps_voice_decrypt _) (fun c => ?_) (keeps_store_decrypt _) fun c => ?_
  · rw [decrypt_runOn]
    cases held : c.plaintexts.lookup ciphertext with
    | some p => rfl
    | none =>
      cases said : answer .decrypt (fun _ => (Cipher.opened ciphertext).map (·.2)) c with
      | error e => rfl
      | ok p =>
        funext other
        -- what is remembered is what would be answered
        simp only [plaintext, remembering, List.lookup_cons]
        by_cases same : other = ciphertext
        · subst same
          simp only [beq_self_eq_true, held, said, Option.elim]
        · simp only [beq_eq_false_iff_ne.2 same]
          rfl
  · rw [decrypt_runOn]
    split
    · rfl
    · split <;> simp [Backend.count, logged, remembering]

section
variable {v : Standing} {b : Bindings} {overwrite : Bool}

theorem steady_of_keeps {α : Type} {a : ClientM α} (keeps : Keeps standing a)
    (ends : ∀ c d, standing c = standing d → (a.runOn c).1 = (a.runOn d).1) :
    Steady (fun c => standing c = v) a :=
  fun c d h => ⟨sameEnd_eq.2 (ends c d (h.1.trans h.2.symm)), (keeps c).trans h.1,
    (keeps d).trans h.2⟩

theorem steady_standing : Judgement (Steady fun c => standing c = v) where
  pure := Steady.pure
  throw _ := Steady.throw _
  bind := Steady.bind
  tryCatch := Steady.tryCatch
  decrypt ciphertext := steady_of_keeps (keeps_standing_decrypt _) fun c d h => by
    rw [decrypt_plaintext, decrypt_plaintext]
    exact congrFun (congrArg Standing.plaintext h) ciphertext

theorem steady_standing_answers (names : List String) :
    Answers (Steady fun c => standing c = v) b names := by
  refine steady_standing.answers Steady.throw ?_ ?_ names
  · refine steady_of_keeps keeps_standing_askRegion fun c d h => ?_
    rw [askRegion_voice, askRegion_voice]
    exact congrArg (·.voice.region) h
  · refine steady_of_keeps keeps_standing_askAccount fun c d h => ?_
    rw [askAccount_voice, askAccount_voice]
    exact congrArg (·.voice.account) h

end

/-! ## Requests -/

/-- The request for a parameter as the client reads it, none for a disabled one. -/
def reading (c : Client) (b : Bindings) (overwrite : Bool) (p : Parameter) :
    Except Error (Option PutRequest) :=
  ((request? b overwrite p).runOn c).1

/-- Whether the client reads that a parameter is disabled. -/
def disables (c : Client) (b : Bindings) (p : Parameter) : Bool :=
  ((p.readDisabled b).runOn c).1.toOption.getD false

section
variable {b : Bindings} {overwrite : Bool}

theorem yields_requests (b : Bindings) (overwrite : Bool) (c : Client) (ps : List Parameter) :
    Yields (fun d => standing d = standing c) (requests b overwrite ps)
      ((ps.mapM (c.reading b overwrite)).map (List.filterMap id)) := by
  have hJ : Judgement (Steady fun d => standing d = standing c) := steady_standing
  refine Yields.map _ (Yields.traverse fun p _ => ?_)
  exact (hJ.request? (steady_standing_answers p.variableNames) overwrite).yields rfl

theorem reading_of_disables {c : Client} {p : Parameter} (h : c.disables b p = true) :
    c.reading b overwrite p = .ok none := by
  unfold disables at h
  rcases read : (p.readDisabled b).runOn c with ⟨e | disabled, t⟩
  · rw [read] at h
    cases h
  · rw [read] at h
    cases h
    rw [reading, request?, runOn_bind, read]
    rfl

theorem mapM_some_cons {α β : Type} (f : α → Except Error (Option β)) (x : α) (l : List α) :
    ((x :: l).mapM f).map (List.filterMap id) =
      f x >>= fun y => ((l.mapM f).map (List.filterMap id)).map fun ys => y.toList ++ ys := by
  rw [List.mapM_cons]
  cases f x with
  | error e => rfl
  | ok y => cases l.mapM f <;> cases y <;> rfl

theorem mapM_filter {α β : Type} {f : α → Except Error (Option β)} {keep : α → Bool}
    (skipped : ∀ x, keep x = false → f x = .ok none) (l : List α) :
    ((l.filter keep).mapM f).map (List.filterMap id) = (l.mapM f).map (List.filterMap id) := by
  induction l with
  | nil => rfl
  | cons x l ih =>
    cases hx : keep x with
    | true => rw [List.filter_cons_of_pos hx, mapM_some_cons, mapM_some_cons, ih]
    | false =>
      rw [List.filter_cons_of_neg (by simp [hx]), mapM_some_cons, skipped x hx, ih]
      cases (l.mapM f).map (List.filterMap id) <;> rfl

/-- The requests of the enabled parameters, if all of these can be read. -/
theorem mapM_reading {c : Client} {ps : List Parameter} {found : Parameter → PutRequest}
    (read : ∀ p ∈ ps, c.disables b p = false → c.reading b overwrite p = .ok (some (found p))) :
    (ps.mapM (c.reading b overwrite)).map (List.filterMap id) =
      .ok ((ps.filter fun p => !c.disables b p).map found) := by
  induction ps with
  | nil => rfl
  | cons p ps ih =>
    have later := ih fun q hq => read q (List.mem_cons_of_mem _ hq)
    rw [mapM_some_cons, later]
    cases off : c.disables b p with
    | true =>
      rw [reading_of_disables off, List.filter_cons_of_neg (by simp [off])]
      rfl
    | false =>
      rw [read p List.mem_cons_self off, List.filter_cons_of_pos (by simp [off])]
      rfl

/-! ## Writing -/

/-- How a client ends that has built some requests, or failed to. -/
def Writes (c : Client) (built : Except Error (List PutRequest)) (run : Except Error Nat × Client) :
    Prop :=
  match built with
  | .error e => run.1 = .error e ∧ run.2.backend.SamePuts c.backend
  | .ok rs =>
    run.1 = ((Backend.putEach rs c.backend).1.mapError refused).map (fun _ => rs.length) ∧
      run.2.backend.SamePuts (Backend.putEach rs c.backend).2

theorem putAll_writes (b : Bindings) (overwrite : Bool) (c : Client) (ps : List Parameter) :
    Writes c ((ps.mapM (c.reading b overwrite)).map (List.filterMap id))
      ((putAll ps b overwrite).runOn c) := by
  obtain ⟨result, stands⟩ := yields_requests b overwrite c ps c rfl
  rw [putAll_eq, ← result]
  generalize (requests b overwrite ps).runOn c = run at stands ⊢
  obtain ⟨r, t⟩ := run
  have same : t.backend.SamePuts c.backend :=
    ⟨congrArg Standing.store stands, congrArg (·.voice.failing) stands,
      congrArg Standing.puts stands⟩
  cases r with
  | error e => exact ⟨rfl, same⟩
  | ok rs =>
    obtain ⟨answer, after⟩ := same.putEach rs
    exact ⟨by rw [← answer], after⟩

theorem Writes.eq {c : Client} {built : Except Error (List PutRequest)}
    {run run' : Except Error Nat × Client} (h : Writes c built run) (h' : Writes c built run') :
    run.1 = run'.1 ∧ run.2.backend.SamePuts run'.2.backend := by
  cases built with
  | error e => exact ⟨h.1.trans h'.1.symm, h.2.trans h'.2.symm⟩
  | ok rs => exact ⟨h.1.trans h'.1.symm, h.2.trans h'.2.symm⟩

end

/-! ## The size of the batches -/

/-- Both runs end alike, and the other client has batches of its own size all the time. -/
abbrev Resized (size : Nat) {α : Type} (a : ClientM α) : Prop :=
  Agree (fun c d => d = c.withBatchSize size) (· = ·) a a

section
variable {size : Nat}

theorem resized_of_runOn {α : Type} {a : ClientM α}
    (h : ∀ c, a.runOn (c.withBatchSize size) =
      ((a.runOn c).1, (a.runOn c).2.withBatchSize size)) : Resized size a := by
  rintro c d rfl
  rw [h c]
  exact ⟨sameEnd_eq.2 rfl, rfl⟩

theorem resized_decrypt (ciphertext : String) : Resized size (decrypt ciphertext) := by
  refine resized_of_runOn fun c => ?_
  have held : (c.withBatchSize size).plaintexts = c.plaintexts := rfl
  have said : answer .decrypt (fun _ => (Cipher.opened ciphertext).map (·.2))
      (c.withBatchSize size) =
        answer .decrypt (fun _ => (Cipher.opened ciphertext).map (·.2)) c := rfl
  rw [decrypt_runOn, decrypt_runOn, held, said]
  split
  · rfl
  · split <;> rfl

theorem resized_askRegion : Resized size askRegion := by
  refine resized_of_runOn fun c => ?_
  have held : (c.withBatchSize size).region = c.region := rfl
  have said : answer .region (fun s => .ok s.region) (c.withBatchSize size) =
      answer .region (fun s => .ok s.region) c := rfl
  rw [askRegion_runOn, askRegion_runOn, held, said]
  split
  · rfl
  · split <;> rfl

theorem resized_askAccount : Resized size askAccount := by
  refine resized_of_runOn fun c => ?_
  have held : (c.withBatchSize size).account = c.account := rfl
  have said : answer .account (fun s => .ok s.account) (c.withBatchSize size) =
      answer .account (fun s => .ok s.account) c := rfl
  rw [askAccount_runOn, askAccount_runOn, held, said]
  split
  · rfl
  · split <;> rfl

theorem judgement_resized : Judgement (Resized size) where
  pure _ := Agree.pure rfl
  throw _ := Agree.throw _
  bind ha hf := Agree.bind ha fun x y e => by
    subst e
    exact hf x
  tryCatch := Agree.tryCatch
  decrypt := resized_decrypt

theorem resized_requests (b : Bindings) (overwrite : Bool) (ps : List Parameter) :
    Resized size (requests b overwrite ps) := by
  have hJ : Judgement (Resized size) := judgement_resized
  refine hJ.requests (fun p _ => ?_) overwrite
  exact hJ.answers (fun _ => Agree.throw _) resized_askRegion resized_askAccount _

theorem putAll_withBatchSize (c : Client) (ps : List Parameter) (b : Bindings) (overwrite : Bool) :
    (putAll ps b overwrite).runOn (c.withBatchSize size) =
      (((putAll ps b overwrite).runOn c).1,
        ((putAll ps b overwrite).runOn c).2.withBatchSize size) := by
  obtain ⟨same, size'⟩ := resized_requests b overwrite ps c (c.withBatchSize size) rfl
  rw [putAll_eq, putAll_eq]
  generalize (requests b overwrite ps).runOn c = run at same size' ⊢
  generalize (requests b overwrite ps).runOn (c.withBatchSize size) = run' at same size' ⊢
  obtain ⟨r, t⟩ := run
  obtain ⟨r', t'⟩ := run'
  cases sameEnd_eq.1 same
  cases size'
  cases r <;> rfl

end

/-- Nothing is put unless all enabled parameters can be read. If they can, their requests are put one
behind the other, up to the first that fails; none fails exactly if the answer is how many there are.
Disabled parameters and the size of the batches make no difference. -/
theorem putAll_sequential (c : Client) (ps : List Parameter) (b : Bindings) (overwrite : Bool) :
    let run := (putAll ps b overwrite).runOn c
    let enabled := ps.filter fun p => !c.disables b p
    let without := (putAll enabled b overwrite).runOn c
    (∀ p ∈ ps, ∀ e, c.reading b overwrite p = .error e →
      (∃ first, ps.mapM (c.reading b overwrite) = .error first ∧ run.1 = .error first) ∧
        run.2.backend.store = c.backend.store ∧
        run.2.backend.count .put = c.backend.count .put) ∧
    (∀ found : Parameter → PutRequest,
      (∀ p ∈ ps, c.disables b p = false → c.reading b overwrite p = .ok (some (found p))) →
      let rs := enabled.map found
      let ends := Backend.putEach rs c.backend
      run.1 = (ends.1.mapError refused).map (fun _ => rs.length) ∧
        run.2.backend.store = ends.2.store ∧
        run.2.backend.count .put = ends.2.count .put ∧
        (run.1 = .ok rs.length ↔
          ∀ front r rest, rs = front ++ r :: rest → (c.backend.tried front).grants r = true)) ∧
    (without.1 = run.1 ∧ without.2.backend.store = run.2.backend.store ∧
      without.2.backend.count .put = run.2.backend.count .put) ∧
    ∀ size, (putAll ps b overwrite).runOn (c.withBatchSize size) =
      (run.1, run.2.withBatchSize size) := by
  have writes := putAll_writes b overwrite c ps
  intro run enabled without
  refine ⟨fun p mem e unread => ?_, fun found read => ?_, ?_, fun size => ?_⟩
  · obtain ⟨first, eq⟩ := exists_error_of_mem mem unread
    rw [eq] at writes
    exact ⟨⟨first, eq, writes.1⟩, writes.2.store, writes.2.count⟩
  · rw [mapM_reading read] at writes
    obtain ⟨answer, after⟩ := writes
    refine ⟨answer, after.store, after.count, ?_⟩
    rw [← Backend.putEach_ok_iff, answer]
    generalize (Backend.putEach _ c.backend).1 = r
    cases r with
    | error f => constructor <;> intro ok <;> cases ok
    | ok _ => exact iff_of_true rfl rfl
  · -- both runs build the same requests, for a disabled parameter is read as none
    have fewer := putAll_writes b overwrite c
      (ps.filter fun p => !c.disables b p)
    rw [mapM_filter fun p off => reading_of_disables (by simpa using off)] at fewer
    obtain ⟨answer, after⟩ := fewer.eq writes
    exact ⟨answer, after.store, after.count⟩
  · exact putAll_withBatchSize c ps b overwrite

def valued (name : String) : Parameter where
  name := .literal name
  content := some (.single (.literal "x"))

def unvalued : Parameter := { name := .literal "/d" }

/-- Some parameters, one of which is disabled. -/
def letters : List Parameter :=
  [valued "/a", { valued "/off" with disable := some (.flag true) }, valued "/b", valued "/c"]

def holdingThird : Client := .holding [.put { name := "/b", kind := .string, value := "y" }]

/-- The first is written, the third is refused and the last one is not tried; with one more that has no
value nothing is. -/
theorem putAll_sequential_letters :
    let run := (putAll letters .empty false).runOn holdingThird
    let unread := (putAll (letters ++ [unvalued]) .empty false).runOn holdingThird
    (run.1 = .error (refused ("/b", .alreadyExists "/b")) ∧
      run.2.backend.store.names = ["/a", "/b"] ∧ run.2.backend.count .put = 2) ∧
    (unread.1 = .error (.missingValue "/d") ∧
      unread.2.backend.store = holdingThird.backend.store ∧ unread.2.backend.count .put = 0) ∧
    ((putAll letters .empty false).runOn (holdingThird.withBatchSize 0)).1 = run.1 := by
  let found (p : Parameter) : PutRequest :=
    { name := p.name.text, kind := .string, value := "x" }
  have read : ∀ p ∈ letters, holdingThird.disables .empty p = false →
      holdingThird.reading .empty false p = .ok (some (found p)) := by decide +kernel
  have unread : holdingThird.reading .empty false unvalued =
      .error (.missingValue "/d") := by decide +kernel
  obtain ⟨-, written, -, sizes⟩ := putAll_sequential holdingThird letters .empty false
  obtain ⟨answer, store, puts, -⟩ := written found read
  obtain ⟨failed, -⟩ := putAll_sequential holdingThird (letters ++ [unvalued])
    .empty false
  obtain ⟨⟨first, eq, ends⟩, store', puts'⟩ := failed _ (by simp) _ unread
  have last : (letters ++ [unvalued]).mapM (holdingThird.reading .empty false) =
      .error (.missingValue "/d") := by decide +kernel
  obtain rfl : first = .missingValue "/d" := Except.error.inj (eq.symm.trans last)
  refine ⟨⟨answer.trans ?_, ?_, puts.trans ?_⟩, ⟨ends, store', puts'⟩, by rw [sizes 0]⟩
  · decide +kernel
  · exact (congrArg Store.names store).trans (by decide +kernel)
  · decide +kernel

end Client

end ParamFile
