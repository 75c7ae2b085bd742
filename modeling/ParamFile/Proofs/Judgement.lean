import ParamFile.Client.Write
import ParamFile.Proofs.Bound

/-!
# Judgements about reading

A judgement (`Judgement J`) is a property of actions that holds of what does nothing but answer or
fail, and is kept when actions are put together. If it holds of reading each variable of a parameter
(`Answers J`), it holds of reading each of its fields (`Judgement.readName` and its siblings), of
dumping it and of the request that writes it.
-/

namespace ParamFile

open ParamFile.Action

/-- The errors of a variable without a value. -/
def Error.IsOpen : Error → Prop
  | .unresolvedVariable _ | .inputMissing _ => True
  | _ => False

/-- A property of actions that is kept when they are put together. -/
structure Judgement (J : ∀ {α : Type}, ClientM α → Prop) : Prop where
  pure {α : Type} (x : α) : J (pure x)
  throw {α : Type} {e : Error} (h : ¬ e.IsOpen) : J (throw e : ClientM α)
  bind {α β : Type} {a : ClientM α} {f : α → ClientM β} (ha : J a) (hf : ∀ x, J (f x)) :
    J (a >>= f)
  tryCatch {α : Type} {a : ClientM α} {f : Error → ClientM α} (ha : J a) (hf : ∀ e, J (f e)) :
    J (tryCatch a f)
  decrypt (ciphertext : String) : J (Client.decrypt ciphertext)

/-- The judgement holds of reading each of the names. -/
def Answers (J : ∀ {α : Type}, ClientM α → Prop) (b : Bindings) (names : List String) : Prop :=
  ∀ n ∈ names, ∀ key, J (b.read n key)

namespace Judgement

variable {J : ∀ {α : Type}, ClientM α → Prop} (hJ : Judgement J) {b : Bindings}
include hJ

theorem map {α β : Type} {a : ClientM α} (f : α → β) (ha : J a) : J (f <$> a) := by
  rw [map_eq_pure_bind]
  exact hJ.bind ha fun _ => hJ.pure _

theorem mapM {α β : Type} {f : α → ClientM β} {l : List α} (h : ∀ x ∈ l, J (f x)) :
    J (l.mapM f) := by
  induction l with
  | nil => exact hJ.pure _
  | cons x l ih =>
    rw [List.mapM_cons]
    refine hJ.bind (h x List.mem_cons_self) fun _ => ?_
    exact hJ.bind (ih fun y hy => h y (List.mem_cons_of_mem _ hy)) fun _ => hJ.pure _

/-! ## Variables -/

section
variable (fails : ∀ e : Error, J (MonadExcept.throw e : ClientM String))
include fails

theorem value (i : Input) (keyId : Option String) : J (i.value keyId) := by
  unfold Input.value
  split
  · split
    · exact fails _
    · split
      · exact hJ.pure _
      · exact fails _
  · split
    · exact hJ.pure _
    · exact hJ.decrypt _
    · exact hJ.pure _
    · exact fails _

/-- It holds of all variables if it holds of every failure and of asking for region and account. -/
theorem answers (region : J Client.askRegion) (account : J Client.askAccount)
    (names : List String) : Answers J b names := by
  intro name _ key
  unfold Bindings.read
  split
  · exact fails _
  · rename_i x _
    cases x with
    | input i => exact hJ.value fails i key
    | builtIn x =>
      cases x with
      | region => exact region
      | account => exact account

end

/-! ## Templates -/

theorem go {read : String → ClientM String} {links : List (List Char × List Char)}
    (h : ∀ n ∈ links.map (String.ofList ·.1), J (read n)) (done : List Char) :
    J (Cut.substitute.go read done links) := by
  induction links generalizing done with
  | nil => exact hJ.pure _
  | cons link rest ih =>
    obtain ⟨name, behind⟩ := link
    refine hJ.bind (h _ List.mem_cons_self) fun v => ?_
    exact ih (fun n hn => h n (List.mem_cons_of_mem _ hn)) _

theorem resolve : (t : Template) → Answers J b t.variableNames → J (t.resolve b)
  | ⟨text, isLiteral, keyId⟩, h => by
    have own : ∀ key, J ((Template.pieces ⟨text, isLiteral, keyId⟩).substitute
        fun n => b.read n key) := by
      refine fun key => hJ.go (fun n hn => h n ?_ key) _
      rw [Template.variableNames.eq_def]
      exact List.mem_append_left _ hn
    rw [Template.resolve_eq]
    split
    · exact hJ.pure _
    · refine hJ.bind ?_ fun key => hJ.map _ (own key)
      cases keyId with
      | none => exact hJ.pure _
      | some key =>
        refine hJ.map _ (resolve key fun n hn => h n ?_)
        rw [Template.variableNames.eq_def]
        exact List.mem_append_right _ hn

theorem resolveOption {t : Option Template} (h : Answers J b (t.elim [] Template.variableNames)) :
    J (Parameter.resolveOption b t) := by
  cases t with
  | none => exact hJ.pure _
  | some t => exact hJ.map _ (hJ.resolve t h)

/-! ## Parameters -/

section
variable {p : Parameter} (h : Answers J b p.variableNames)
include h

theorem readName : J (p.readName b) :=
  hJ.resolve p.name fun n hn => h n (by simp [Parameter.variableNames, hn])

theorem readPattern : J (p.readPattern b) :=
  hJ.resolveOption fun n hn => h n (by simp [Parameter.variableNames, hn])

theorem readKeyId : J (p.readKeyId b) :=
  hJ.resolveOption fun n hn => h n (by simp [Parameter.variableNames, hn])

theorem readDisabled : J (p.readDisabled b) := by
  have condition : Answers J b (p.disable.elim [] Disable.variableNames) :=
    fun n hn => h n (by simp [Parameter.variableNames, hn])
  unfold Parameter.readDisabled
  split
  · exact hJ.pure _
  · exact hJ.pure _
  · rename_i t ht
    rw [ht] at condition
    exact hJ.map _ (hJ.resolve t condition)

theorem readRaw : J (p.readRaw b) := by
  have content : Answers J b (p.content.elim [] Content.variableNames) :=
    fun n hn => h n (by simp [Parameter.variableNames, hn])
  unfold Parameter.readRaw
  split
  · exact hJ.pure _
  · rename_i t ht
    rw [ht] at content
    exact hJ.map _ (hJ.resolve t content)
  · rename_i items hi
    rw [hi] at content
    have each : ∀ t ∈ items, J (t.resolve b) := fun t ht =>
      hJ.resolve t fun n hn => content n (List.mem_flatMap.2 ⟨t, ht, hn⟩)
    exact hJ.bind (hJ.mapM each) fun _ => hJ.pure _

theorem reportName : J (p.reportName b) :=
  hJ.tryCatch (hJ.readName h) fun _ => hJ.pure _

theorem readValue : J (p.readValue b) := by
  refine hJ.bind (hJ.readRaw h) fun raw => ?_
  split
  · refine hJ.bind (hJ.readDisabled h) fun disabled => ?_
    split
    · exact hJ.pure _
    · exact hJ.bind (hJ.reportName h) fun _ => hJ.throw not_false
  · split
    · exact hJ.bind (hJ.readKeyId h) fun _ => hJ.map _ (hJ.decrypt _)
    · exact hJ.pure _

theorem request? (overwrite : Bool) : J (Client.request? b overwrite p) := by
  refine hJ.bind (hJ.readDisabled h) fun disabled => ?_
  split
  · exact hJ.pure _
  · refine hJ.bind (hJ.readName h) fun _ => hJ.bind (hJ.readValue h) fun value => ?_
    split
    · exact hJ.throw not_false
    · exact hJ.bind (hJ.readPattern h) fun _ => hJ.bind (hJ.readKeyId h) fun _ => hJ.pure _

theorem skips (ignoreDisabled : Bool) : J (Document.skips b ignoreDisabled p) := by
  unfold Document.skips
  split
  · exact hJ.readDisabled h
  · exact hJ.pure _

variable (encrypt : ∀ plaintext keyId, J (Client.encrypt plaintext keyId))
include encrypt

theorem dumpContent : J (p.dumpContent b) := by
  unfold Parameter.dumpContent
  split
  · exact hJ.bind (hJ.readRaw h) fun _ => hJ.pure _
  · split
    · refine hJ.bind (hJ.readValue h) fun value => hJ.bind (hJ.readKeyId h) fun keyId => ?_
      split
      · exact hJ.bind (encrypt _ _) fun _ => hJ.pure _
      · exact hJ.pure _
    · exact hJ.bind (hJ.readValue h) fun _ => hJ.pure _

theorem dumpFields : J (p.dumpFields b) :=
  hJ.bind (hJ.dumpContent h encrypt) fun _ => hJ.bind (hJ.readPattern h) fun _ =>
    hJ.bind (hJ.readKeyId h) fun _ => hJ.pure _

theorem dump : J (p.dump b) :=
  hJ.bind (hJ.readName h) fun _ => hJ.bind (hJ.dumpFields h encrypt) fun _ => hJ.pure _

end

/-! ## Lists of parameters -/

variable {ps : List Parameter} (h : ∀ p ∈ ps, Answers J b p.variableNames)
include h

theorem requests (overwrite : Bool) : J (Client.requests b overwrite ps) :=
  hJ.map _ (hJ.mapM fun p hp => hJ.request? (h p hp) overwrite)

theorem compileEntries (encrypt : ∀ plaintext keyId, J (Client.encrypt plaintext keyId))
    (ignoreDisabled : Bool) (m : Yaml.Mapping) :
    J (Document.compileEntries b ignoreDisabled ps m) := by
  induction ps generalizing m with
  | nil => exact hJ.pure _
  | cons p rest ih =>
    have here := h p List.mem_cons_self
    have tail (m : Yaml.Mapping) := ih (fun q hq => h q (List.mem_cons_of_mem _ hq)) m
    rw [Document.compileEntries_cons]
    refine hJ.bind (hJ.skips here ignoreDisabled) fun skip => ?_
    split
    · exact tail m
    · refine hJ.bind (hJ.readName here) fun _ => ?_
      exact hJ.bind (hJ.dumpFields here encrypt) fun _ => tail _

end Judgement

/-! ## What reading keeps -/

theorem keeps_judgement {γ : Type} {f : Client → γ}
    (decrypt : ∀ ciphertext, Keeps f (Client.decrypt ciphertext)) : Judgement (Keeps f) where
  pure := Keeps.pure
  throw _ := Keeps.throw _
  bind := Keeps.bind
  tryCatch := Keeps.tryCatch
  decrypt := decrypt

/-- Reading is steady among clients for which decrypting is. -/
theorem judgement_steady {W : Client → Prop}
    (decrypt : ∀ ciphertext, Steady W (Client.decrypt ciphertext)) : Judgement (Steady W) where
  pure := Steady.pure
  throw _ := Steady.throw _
  bind := Steady.bind
  tryCatch := Steady.tryCatch
  decrypt := decrypt

end ParamFile
