import ParamFile.Proofs.Loaded

/-!
# Bound variables

What a single binding satisfies, all bindings of a document satisfy, and each of its variables is
bound (`meets_bindAll`). The inputs of a document that was built are ready when they are bound
(`meets_bind`), so every variable of a resolved document is (`ready_of_resolve`).
-/

namespace ParamFile

open ParamFile.Action

/-- Reading the variable is not stopped by a missing value. -/
def Binding.Ready : Binding → Prop
  | .input i => i.Ready
  | .builtIn _ => True

/-- A template with references reads its key first, and then its variables with the key. -/
theorem Template.resolve_eq (b : Bindings) (t : Template) :
    t.resolve b =
      if t.pieces.links.isEmpty then pure t.text
      else Parameter.resolveOption b t.keyId >>= fun key =>
        String.ofList <$> t.pieces.substitute fun n => b.read n key := by
  obtain ⟨text, isLiteral, keyId⟩ := t
  rw [resolve]
  cases keyId <;> rfl

/-! ## Binding names -/

section
variable {σ : Type} {W : σ → Prop} {P : Binding → Prop} {E : Error → Prop}
  {bind : String → Action σ Binding}

theorem meets_bindNames (h : ∀ name, Meets W (bind name) P E) {names : List String} {b : Bindings}
    (hb : ∀ n x, b.get? n = some x → P x) :
    Meets W (bindNames bind names b) (fun r => (∀ n x, r.get? n = some x → P x) ∧
      ∀ n, n ∈ names ∨ (b.get? n).isSome → (r.get? n).isSome) E := by
  induction names generalizing b with
  | nil => exact .pure ⟨hb, fun n hn => by simpa using hn⟩
  | cons name rest ih =>
    refine (h name).bind fun x hx => (ih fun n y hy => ?_).mono (fun r hr => ⟨hr.1, ?_⟩) fun _ he => he
    · rw [NameMap.get?_insert] at hy
      split at hy
      · cases hy; exact hx
      · exact hb n y hy
    · intro n hn
      refine hr.2 n ?_
      rw [NameMap.get?_insert]
      rcases hn with hn | hn
      · rcases List.mem_cons.1 hn with rfl | hn
        · exact .inr (by simp)
        · exact .inl hn
      · refine .inr ?_
        split
        · rfl
        · exact hn

/-- What a single binding satisfies, all bindings satisfy, and every name is bound. -/
theorem meets_bindAll (h : ∀ name, Meets W (bind name) P E) (names : NameSet) :
    Meets W (bindAll bind names) (fun r => (∀ n x, r.get? n = some x → P x) ∧
      ∀ n ∈ names.names, (r.get? n).isSome) E :=
  (meets_bindNames h fun _ _ hx => by cases hx).mono
    (fun _ hr => ⟨hr.1, fun n hn => hr.2 n (.inl hn)⟩) fun _ he => he

end

/-! ## Binding inputs -/

namespace Source

theorem meets_ask (i : Input) (echo : Option Bool) :
    Meets (fun s => Inputs.Stored s.inputs) (ask i echo) Input.Ready (fun _ => True) := by
  refine Meets.onPart (V := fun _ => True) ?_ (fun _ _ => trivial) fun _ _ hs _ => hs
  exact (Meets.any (i.askValue echo)).bind fun v _ => .pure (i.ready_setTyped v)

theorem meets_bind (asking : Bool) (echo : Option Bool) (name : String) :
    Meets (fun s => Inputs.Stored s.inputs) (bind asking echo name) Binding.Ready
      (fun _ => True) := by
  unfold bind
  split
  · exact .pure trivial
  · refine Meets.get.bind fun s hs => ?_
    split
    · exact .throw trivial
    · exact (meets_ask { name } echo).map fun i hi => hi
    · rename_i i hi
      refine Meets.bind (Meets.set ?_) fun _ _ => ?_
      · exact hs.erase name
      split
      · rename_i set
        exact .pure ((hs name i hi).ready set)
      · split
        · exact (meets_ask i echo).map fun i hi => hi
        · exact .throw trivial

end Source

/-! ## Resolved documents -/

namespace Document

/-- The document with these bindings. -/
def bound (d : Document) (b : Bindings) : Resolved := ⟨d.parameters, d.flushPaths, b⟩

section
variable {σ : Type} {d : Document} {bind : String → Action σ Binding} {s t : σ} {r : Resolved}

theorem resolveWith_ok (h : (d.resolveWith bind).runOn s = (.ok r, t)) :
    r = d.bound r.bindings ∧ (bindAll bind d.variableNames).runOn s = (.ok r.bindings, t) := by
  obtain ⟨b, u, hb, h⟩ := runOn_bind_ok h
  cases h
  exact ⟨rfl, hb⟩

end

theorem resolve_ok {d : Document} {asking : Bool} {echo : Option Bool} {p q : Prompter}
    {r : Resolved} (h : (d.resolve asking echo).runOn p = (.ok r, q)) :
    ∃ s, (d.resolveWith (Source.bind asking echo)).runOn ⟨d.inputs, p⟩ = (.ok r, s) := by
  unfold resolve at h
  simp only [runOn_mk, Prod.mk.injEq] at h
  exact ⟨_, Prod.ext h.1 rfl⟩

/-- Every variable of a resolved document is bound and ready to be read. -/
theorem ready_of_resolve {d : Document} (hd : Built d) {asking : Bool} {echo : Option Bool}
    {p q : Prompter} {r : Resolved} (h : (d.resolve asking echo).runOn p = (.ok r, q)) :
    r = d.bound r.bindings ∧
      ∀ n ∈ d.variableNames.names, ∃ x, r.bindings.get? n = some x ∧ x.Ready := by
  obtain ⟨s, hs⟩ := resolve_ok h
  obtain ⟨eq, hb⟩ := resolveWith_ok hs
  refine ⟨eq, fun n hn => ?_⟩
  have key := (meets_bindAll (Source.meets_bind asking echo) d.variableNames).ok hd.stored hb
  obtain ⟨x, hx⟩ := Option.isSome_iff_exists.1 (key.2 n hn)
  exact ⟨x, hx, key.1 n x hx⟩

/-! ## Compiling -/

/-- Whether a parameter is left out of what is compiled. -/
def skips (b : Bindings) (ignoreDisabled : Bool) (p : Parameter) : ClientM Bool :=
  if ignoreDisabled then p.readDisabled b else pure false

theorem compileEntries_cons (b : Bindings) (ignoreDisabled : Bool) (p : Parameter)
    (rest : List Parameter) (m : Yaml.Mapping) :
    compileEntries b ignoreDisabled (p :: rest) m = (do
      if ← skips b ignoreDisabled p then compileEntries b ignoreDisabled rest m
      else
        let name ← p.readName b
        let fields ← p.dumpFields b
        compileEntries b ignoreDisabled rest (m.insert name (.map fields))) := by
  cases ignoreDisabled <;> rfl

end Document

namespace Resolved

def readListed (r : Resolved) (includeFlush : Bool) : ClientM (List String) :=
  if includeFlush then r.readFlushPaths else pure []

theorem compile_eq (r : Resolved) (includeFlush ignoreDisabled : Bool) :
    r.compile includeFlush ignoreDisabled = (do
      let paths ← r.readListed includeFlush
      Document.compile r.list paths ignoreDisabled r.bindings) := by
  cases includeFlush <;> rfl

end Resolved

end ParamFile
