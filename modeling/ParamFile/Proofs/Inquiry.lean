import ParamFile.Proofs.Answering
import ParamFile.Proofs.Bound

/-!
# Asking for open variables

A variable is open if it is not built in and its input has no value (`Inputs.isOpen`). What a name is bound
to depends on its own input alone (`Source.bind_answer`); hence taking inputs out when they are bound makes no
difference (`Document.resolve_runOn`), and resolving a document is nothing but a round of questions, one for
each open variable in the order of the names (`Inputs.mapM_answer`).

`Document.resolve_asks_open` says what this comes to: what is asked for, what is shown, how it ends, and what
the variables are bound to.
-/

namespace ParamFile

open ParamFile.Action

/-! ## Actions in a row -/

section
variable {σ α β : Type}

/-- Actions in a row fail with the first that does; those in front of it are done. -/
theorem Action.exists_of_mapM_error {f : α → Action σ β} {l : List α} {s u : σ} {e : Error}
    (h : (l.mapM f).runOn s = (.error e, u)) :
    ∃ front x rest ys t, l = front ++ x :: rest ∧ (front.mapM f).runOn s = (.ok ys, t) ∧
      (f x).runOn t = (.error e, u) := by
  induction l generalizing s with
  | nil => cases h
  | cons x l ih =>
    rw [List.mapM_cons, runOn_bind] at h
    rcases first : (f x).runOn s with ⟨e' | y, t⟩
    · rw [first] at h
      cases h
      exact ⟨[], x, l, [], s, rfl, rfl, first⟩
    · rw [first] at h
      dsimp only at h
      rw [runOn_bind] at h
      rcases later : (l.mapM f).runOn t with ⟨e' | ys, t'⟩
      · rw [later] at h
        cases h
        obtain ⟨front, z, rest, zs, v, rfl, before, failed⟩ := ih later
        refine ⟨x :: front, z, rest, y :: zs, v, rfl, ?_, failed⟩
        rw [List.mapM_cons, runOn_bind_of_ok first, runOn_bind_of_ok before]
        rfl
      · rw [later] at h
        cases h

theorem bindNames_eq (bind : String → Action σ Binding) (names : List String) (b : Bindings) :
    bindNames bind names b =
      (fun es => es.foldl (fun b e => b.insert e.1 e.2) b) <$>
        names.mapM fun name => (name, ·) <$> bind name := by
  induction names generalizing b with
  | nil => rfl
  | cons name rest ih =>
    simp only [bindNames, ih, List.mapM_cons, map_eq_pure_bind, bind_assoc, pure_bind]
    rfl

end

/-! ## Questions -/

namespace Inputs

/-- The input that a variable is bound to: the declared one, or a text of its own. -/
def bearing (m : Inputs) (name : String) : Input := (m.get? name).getD { name }

/-- What a variable is bound to without an answer. -/
def given? (m : Inputs) (name : String) : Option Binding :=
  match BuiltIn.ofName? name with
  | some v => some (.builtIn v)
  | none => if (m.bearing name).isSet then some (.input (m.bearing name)) else none

/-- Whether a variable needs an answer. -/
def isOpen (m : Inputs) (name : String) : Bool := (m.given? name).isNone

/-- Asks for the input of a variable, if asking is allowed. -/
def question (m : Inputs) (asking : Bool) (echo : Option Bool) (name : String) : Action Prompter Input :=
  if asking then (m.bearing name).ask echo else throw (.inputMissing name)

/-- Binds a variable, asking for it if it is open. -/
def answer (m : Inputs) (asking : Bool) (echo : Option Bool) (name : String) : Action Prompter Binding :=
  match m.given? name with
  | some x => pure x
  | none => .input <$> m.question asking echo name

/-- What some variables are bound to, given the inputs of the open ones. -/
def fill (m : Inputs) : (names : List String) → (js : List Input) → List (String × Binding)
  | [], _ => []
  | name :: rest, js =>
    match m.given? name, js with
    | some x, js => (name, x) :: fill m rest js
    | none, j :: js => (name, .input j) :: fill m rest js
    | none, [] => []

section
variable (m : Inputs) (asking : Bool) (echo : Option Bool)

theorem answer_congr {m m' : Inputs} {name : String} (same : m.get? name = m'.get? name) :
    m.answer asking echo name = m'.answer asking echo name := by
  have bearing_eq : m.bearing name = m'.bearing name := by rw [bearing, bearing, same]
  have given_eq : m.given? name = m'.given? name := by rw [given?, given?, bearing_eq]
  rw [answer, answer, given_eq, question, question, bearing_eq]

/-- Binding variables is asking for the open ones, in order. -/
theorem mapM_answer (names : List String) :
    (names.mapM fun name => (name, ·) <$> m.answer asking echo name) =
      m.fill names <$> (names.filter m.isOpen).mapM (m.question asking echo) := by
  induction names with
  | nil => rfl
  | cons name rest ih =>
    rw [List.mapM_cons, ih]
    cases given : m.given? name with
    | some x =>
      have closed : m.isOpen name = false := by rw [isOpen, given]; rfl
      rw [List.filter_cons_of_neg (by simp [closed])]
      simp only [answer, given, fill, map_eq_pure_bind, bind_assoc, pure_bind]
    | none =>
      have pending : m.isOpen name = true := by rw [isOpen, given]; rfl
      rw [List.filter_cons_of_pos pending, List.mapM_cons]
      simp only [answer, given, fill, map_eq_pure_bind, bind_assoc, pure_bind]

end

end Inputs

/-! ## Bound names -/

namespace Source

/-- A name is bound to what its own input answers; the other inputs stay where they are. -/
theorem bind_answer (asking : Bool) (echo : Option Bool) (name : String) (s : Source) :
    ∃ s', (bind asking echo name).runOn s =
        (((s.inputs.answer asking echo name).runOn s.prompter).1, s') ∧
      s'.prompter = ((s.inputs.answer asking echo name).runOn s.prompter).2 ∧
      ∀ other, other ≠ name → s'.inputs.get? other = s.inputs.get? other := by
  have asked (i : Input) (t : Source) : (Binding.input <$> Source.ask i echo).runOn t =
      (((Binding.input <$> i.ask echo).runOn t.prompter).1,
        { t with prompter := ((Binding.input <$> i.ask echo).runOn t.prompter).2 }) := by
    have part : (Source.ask i echo).runOn t = (((i.ask echo).runOn t.prompter).1,
      { t with prompter := ((i.ask echo).runOn t.prompter).2 }) := rfl
    rw [runOn_map, runOn_map, part]
    rcases (i.ask echo).runOn t.prompter with ⟨e | j, p⟩ <;> rfl
  cases builtIn : BuiltIn.ofName? name with
  | some v =>
    refine ⟨s, ?_, ?_, fun _ _ => rfl⟩ <;> simp [bind, Inputs.answer, Inputs.given?, builtIn]
  | none =>
    cases declared : s.inputs.get? name with
    | none =>
      have bearing : s.inputs.bearing name = { name } := by rw [Inputs.bearing, declared]; rfl
      have pending : s.inputs.given? name = none := by rw [Inputs.given?, builtIn, bearing]; rfl
      rw [Inputs.answer, pending, Inputs.question, bearing, bind, builtIn]
      dsimp only
      rw [runOn_bind_of_ok (runOn_get s), declared]
      cases asking with
      | false => exact ⟨s, rfl, rfl, fun _ _ => rfl⟩
      | true => exact ⟨_, asked _ s, rfl, fun _ _ => rfl⟩
    | some i =>
      have bearing : s.inputs.bearing name = i := by rw [Inputs.bearing, declared]; rfl
      have given : s.inputs.given? name = if i.isSet then some (.input i) else none := by
        rw [Inputs.given?, builtIn, bearing]
      have others (other : String) (ne : other ≠ name) :
          (s.inputs.erase name).get? other = s.inputs.get? other := by
        rw [NameMap.get?_erase, if_neg ne]
      rw [Inputs.answer, given, Inputs.question, bearing, bind, builtIn]
      dsimp only
      rw [runOn_bind_of_ok (runOn_get s), declared]
      have taken : (set { s with inputs := s.inputs.erase name } : Action Source Unit).runOn s =
          (.ok (), { s with inputs := s.inputs.erase name }) := rfl
      dsimp only
      rw [runOn_bind_of_ok taken]
      cases i.isSet with
      | true => exact ⟨_, rfl, rfl, others⟩
      | false =>
        cases asking with
        | false => exact ⟨_, rfl, rfl, others⟩
        | true => exact ⟨_, asked i _, rfl, others⟩

/-- Inputs that are taken out are not looked up again. -/
theorem bindNames_answer (asking : Bool) (echo : Option Bool) {m : Inputs} {names : List String}
    (distinct : names.Nodup) {s : Source} (ahead : ∀ n ∈ names, s.inputs.get? n = m.get? n)
    (b : Bindings) :
    ∃ s', (bindNames (bind asking echo) names b).runOn s =
        (((bindNames (m.answer asking echo) names b).runOn s.prompter).1, s') ∧
      s'.prompter = ((bindNames (m.answer asking echo) names b).runOn s.prompter).2 := by
  induction names generalizing s b with
  | nil => exact ⟨s, rfl, rfl⟩
  | cons name rest ih =>
    rw [List.nodup_cons] at distinct
    obtain ⟨s', run, prompter, others⟩ := bind_answer asking echo name s
    rw [Inputs.answer_congr asking echo (ahead name List.mem_cons_self)] at run prompter
    have behind : ∀ n ∈ rest, s'.inputs.get? n = m.get? n := fun n hn =>
      (others n fun same => distinct.1 (same ▸ hn)).trans (ahead n (List.mem_cons_of_mem _ hn))
    rw [bindNames, bindNames, runOn_bind, runOn_bind, run]
    generalize (m.answer asking echo name).runOn s.prompter = outcome at prompter ⊢
    rcases outcome with ⟨e | x, p⟩
    · exact ⟨s', rfl, prompter⟩
    · obtain ⟨s'', rest_run, rest_prompter⟩ := ih distinct.2 behind (b.insert name x)
      dsimp only at prompter ⊢
      rw [prompter] at rest_run rest_prompter
      exact ⟨s'', rest_run, rest_prompter⟩

end Source

/-! ## What is shown -/

namespace Inputs

/-- What is shown for one variable: the prompts for its input. An answer that is secret may be seen only if
that is wanted. -/
structure Dialog (m : Inputs) (echo : Option Bool) (name : String) (shown : List Shown) : Prop where
  prompts : ∃ answers,
    shown = (m.bearing name).dialog (echo.getD (!(m.bearing name).kind.isSecure)) answers
  hidden : (m.bearing name).kind.isSecure = true →
    ∀ text visible, .prompt text visible ∈ shown → (visible = true ↔ echo = some true)

/-- Between two states of the prompter, there is a dialog for each name and nothing else. -/
def Shows (m : Inputs) (echo : Option Bool) (names : List String) (p q : Prompter) : Prop :=
  ∃ dialogs, List.Forall₂ (m.Dialog echo) names dialogs ∧ q.shown = p.shown ++ dialogs.flatten

section
variable {m : Inputs} {echo : Option Bool} {p q r : Prompter}

theorem Shows.nil : m.Shows echo [] p p := ⟨[], .nil, by simp⟩

theorem Shows.append {names others : List String} (h : m.Shows echo names p q)
    (h' : m.Shows echo others q r) : m.Shows echo (names ++ others) p r := by
  obtain ⟨dialogs, each, shown⟩ := h
  obtain ⟨dialogs', each', shown'⟩ := h'
  refine ⟨dialogs ++ dialogs', List.rel_append each each', ?_⟩
  rw [shown', shown, List.flatten_append, List.append_assoc]

/-- Every prompt is shown in the same way. -/
theorem visible_of_mem_dialog {i : Input} {visible shown : Bool} {answers : List String} {text : String}
    (h : .prompt text visible ∈ i.dialog shown answers) : visible = shown := by
  unfold Input.dialog at h
  split at h
  · simp only [List.mem_cons, reduceCtorEq, List.mem_replicate, Shown.prompt.injEq, false_or] at h
    exact h.2.2
  · simp only [List.mem_singleton, Shown.prompt.injEq] at h
    exact h.2

/-- A question shows the dialog of its input. -/
theorem shows_question (m : Inputs) (echo : Option Bool) (name : String) (p : Prompter) :
    m.Shows echo [name] p ((m.question true echo name).runOn p).2 := by
  have run := (m.bearing name).ask_runOn echo p
  refine ⟨[_], .cons ⟨⟨p.answers, rfl⟩, fun secure text visible h => ?_⟩ .nil, ?_⟩
  · rw [visible_of_mem_dialog h, secure]
    cases echo with
    | none => simp
    | some shown => cases shown <;> simp
  · rw [question, if_pos rfl, run]
    simp [Input.behind, Prompter.shown]

theorem shows_mapM {names : List String} {js : List Input}
    (h : (names.mapM (m.question true echo)).runOn p = (.ok js, q)) : m.Shows echo names p q := by
  induction names generalizing p js with
  | nil =>
    cases h
    exact .nil
  | cons name rest ih =>
    rw [List.mapM_cons] at h
    obtain ⟨j, t, first, h⟩ := runOn_bind_ok h
    obtain ⟨js', u, later, h⟩ := runOn_bind_ok h
    cases h
    have here : m.Shows echo [name] p t := by
      have := m.shows_question echo name p
      rwa [first] at this
    exact here.append (ih later)

end

/-! ## What the variables are bound to -/

/-- The inputs are those of the names, with a value typed in. -/
def Typed (m : Inputs) : List String → List Input → Prop :=
  List.Forall₂ fun name j => ∃ value, j = (m.bearing name).setTyped value

/-- What the variables are bound to: built-in ones to the client, whatever inputs there are, and those whose
input has a value to that input. The open ones are bound to the inputs that were asked for. -/
structure Settles (m : Inputs) (names : List String) (js : List Input) (b : Bindings) : Prop where
  isSome : ∀ name, (b.get? name).isSome ↔ name ∈ names
  builtIn : ∀ name ∈ names, ∀ v, BuiltIn.ofName? name = some v → b.get? name = some (.builtIn v)
  supplied : ∀ name ∈ names, BuiltIn.ofName? name = none →
    ∀ i, m.get? name = some i → i.isSet = true → b.get? name = some (.input i)
  asked : List.Forall₂ (fun name j => b.get? name = some (.input j)) (names.filter m.isOpen) js
  typed : m.Typed (names.filter m.isOpen) js

/-- Names with their bindings: the open ones with the inputs, one after the other. -/
inductive Fills (m : Inputs) : List String → List Input → List (String × Binding) → Prop
  | nil : Fills m [] [] []
  | given {name : String} {x : Binding} {names : List String} {js : List Input}
      {l : List (String × Binding)} (h : m.given? name = some x) (rest : Fills m names js l) :
      Fills m (name :: names) js ((name, x) :: l)
  | asked {name : String} {j : Input} {names : List String} {js : List Input}
      {l : List (String × Binding)} (h : m.given? name = none) (rest : Fills m names js l) :
      Fills m (name :: names) (j :: js) ((name, .input j) :: l)

section
variable {m : Inputs} {names : List String} {js : List Input} {l : List (String × Binding)}

theorem isOpen_iff {name : String} :
    m.isOpen name = true ↔
      name ≠ "Region" ∧ name ≠ "Account" ∧ ∀ i, m.get? name = some i → i.isSet = false := by
  have closed : BuiltIn.ofName? name = none ↔ name ≠ "Region" ∧ name ≠ "Account" := by
    unfold BuiltIn.ofName?
    split
    · simp_all
    · split <;> simp_all
  rw [← and_assoc, ← closed, isOpen, given?, bearing]
  cases BuiltIn.ofName? name with
  | some v => simp
  | none =>
    cases m.get? name with
    | none => simp [Input.isSet]
    | some i => cases set : i.isSet <;> simp [set]

theorem isOpen_of_given {name : String} {x : Binding} (h : m.given? name = some x) :
    m.isOpen name = false := by
  rw [isOpen, h]
  rfl

theorem isOpen_of_none {name : String} (h : m.given? name = none) : m.isOpen name = true := by
  rw [isOpen, h]
  rfl

theorem typed_of_mapM {echo : Option Bool} {p q : Prompter}
    (h : (names.mapM (m.question true echo)).runOn p = (.ok js, q)) : m.Typed names js := by
  have each : Meets (fun _ => True) (names.mapM (m.question true echo)) (m.Typed names)
      (fun _ => True) :=
    .mapM fun name _ => (Meets.any ((m.bearing name).askValue echo)).bind fun v _ => .pure ⟨v, rfl⟩
  exact each.ok trivial h

/-- As many inputs as there are open names fill them. -/
theorem fills (enough : js.length = (names.filter m.isOpen).length) :
    m.Fills names js (m.fill names js) := by
  induction names generalizing js with
  | nil =>
    cases List.eq_nil_of_length_eq_zero enough
    exact .nil
  | cons name rest ih =>
    cases h : m.given? name with
    | some x =>
      rw [List.filter_cons_of_neg (by simp [isOpen_of_given h])] at enough
      have here : m.fill (name :: rest) js = (name, x) :: m.fill rest js := by simp only [fill, h]
      rw [here]
      exact .given h (ih enough)
    | none =>
      rw [List.filter_cons_of_pos (isOpen_of_none h)] at enough
      cases js with
      | nil => cases enough
      | cons j js =>
        have here : m.fill (name :: rest) (j :: js) = (name, .input j) :: m.fill rest js := by
          simp only [fill, h]
        rw [here]
        exact .asked h (ih (Nat.succ.inj enough))

theorem Fills.map_fst (h : m.Fills names js l) : l.map (·.1) = names := by
  induction h with
  | nil => rfl
  | given _ _ ih | asked _ _ ih => rw [List.map_cons, ih]

theorem Fills.mem_of_given (h : m.Fills names js l) {name : String} (mem : name ∈ names) {x : Binding}
    (given : m.given? name = some x) : (name, x) ∈ l := by
  induction h with
  | nil => cases mem
  | given here _ ih =>
    rcases List.mem_cons.1 mem with rfl | mem
    · cases here.symm.trans given
      exact List.mem_cons_self
    · exact List.mem_cons_of_mem _ (ih mem)
  | asked here _ ih =>
    rcases List.mem_cons.1 mem with rfl | mem
    · cases here.symm.trans given
    · exact List.mem_cons_of_mem _ (ih mem)

theorem Fills.mem_of_open (h : m.Fills names js l) :
    List.Forall₂ (fun name j => (name, Binding.input j) ∈ l) (names.filter m.isOpen) js := by
  induction h with
  | nil => exact .nil
  | given here _ ih =>
    rw [List.filter_cons_of_neg (by simp [isOpen_of_given here])]
    exact ih.imp fun _ _ => List.mem_cons_of_mem _
  | asked here _ ih =>
    rw [List.filter_cons_of_pos (isOpen_of_none here)]
    exact .cons List.mem_cons_self (ih.imp fun _ _ => List.mem_cons_of_mem _)

theorem get?_foldl_insert {b : Bindings} {name : String} {x : Binding}
    (distinct : (l.map (·.1)).Nodup) :
    NameMap.get? (l.foldl (fun b e => b.insert e.1 e.2) b) name = some x ↔
      (name, x) ∈ l ∨ name ∉ l.map (·.1) ∧ b.get? name = some x := by
  induction l generalizing b with
  | nil => simp
  | cons e l ih =>
    rw [List.map_cons, List.nodup_cons] at distinct
    rw [List.foldl_cons, ih distinct.2, NameMap.get?_insert, List.mem_cons, List.map_cons, List.mem_cons]
    by_cases same : name = e.1
    · subst same
      have absent : (e.1, x) ∉ l := fun mem => distinct.1 (List.mem_map.2 ⟨_, mem, rfl⟩)
      simp [absent, distinct.1, Prod.ext_iff, eq_comm]
    · simp [same, Prod.ext_iff]

theorem Fills.settles (h : m.Fills names js l) (distinct : names.Nodup)
    (typed : m.Typed (names.filter m.isOpen) js) :
    Settles m names js (l.foldl (fun b e => b.insert e.1 e.2) .empty) := by
  have nodup : (l.map (·.1)).Nodup := by rwa [h.map_fst]
  have reads : ∀ name x,
      NameMap.get? (l.foldl (fun b e => b.insert e.1 e.2) .empty) name = some x ↔ (name, x) ∈ l :=
    fun name x => by simp [get?_foldl_insert nodup]
  refine ⟨fun name => ?_, fun name mem v builtIn => ?_, fun name mem none i declared set => ?_,
    h.mem_of_open.imp fun _ _ => (reads _ _).2, typed⟩
  · rw [← h.map_fst, Option.isSome_iff_exists, List.mem_map]
    simp only [reads, Prod.exists, exists_and_right, exists_eq_right]
  · refine (reads name _).2 (h.mem_of_given mem ?_)
    rw [given?, builtIn]
  · refine (reads name _).2 (h.mem_of_given mem ?_)
    rw [given?, none, bearing, declared]
    exact if_pos set

/-- The bindings of some variables, given the inputs of the open ones. -/
def bindings (m : Inputs) (names : List String) (js : List Input) : Bindings :=
  (m.fill names js).foldl (fun b e => b.insert e.1 e.2) .empty

theorem settles_bindings (distinct : names.Nodup) (typed : m.Typed (names.filter m.isOpen) js) :
    Settles m names js (m.bindings names js) :=
  (m.fills typed.length_eq.symm).settles distinct typed

end

end Inputs

/-! ## Resolving a document -/

namespace Document

/-- The document refers to the variable, in a parameter or in a path to flush. -/
def Refers (d : Document) (name : String) : Prop :=
  (∃ p ∈ d.parameters.values, name ∈ p.variableNames) ∨
    ∃ path ∈ d.flushPaths, name ∈ (flushTemplate path).variableNames

/-- The variables that need an answer, in the order of their names. -/
def openNames (d : Document) : List String := d.variableNames.names.filter d.inputs.isOpen

section
variable (d : Document)

theorem mem_variableNames {name : String} : name ∈ d.variableNames.names ↔ d.Refers name := by
  rw [variableNames, NameSet.mem_names_ofList, List.mem_append, List.mem_flatMap, List.mem_flatMap]
  rfl

/-- Resolving a document is asking for its open variables one behind the other. -/
theorem resolve_runOn (asking : Bool) (echo : Option Bool) (p : Prompter) :
    (d.resolve asking echo).runOn p =
      ((fun js => d.bound (d.inputs.bindings d.variableNames.names js)) <$>
        d.openNames.mapM (d.inputs.question asking echo)).runOn p := by
  have distinct : d.variableNames.names.Nodup := d.variableNames.names_sorted.imp String.ne_of_lt
  obtain ⟨s, run, prompter⟩ := Source.bindNames_answer asking echo distinct (m := d.inputs)
    (s := ⟨d.inputs, p⟩) (fun _ _ => rfl) .empty
  have pass : bindNames (d.inputs.answer asking echo) d.variableNames.names .empty =
      d.inputs.bindings d.variableNames.names <$> d.openNames.mapM (d.inputs.question asking echo) := by
    rw [bindNames_eq, Inputs.mapM_answer, ← comp_map]
    rfl
  rw [pass] at run prompter
  rw [resolve, runOn_mk, resolveWith, runOn_bind, bindAll, run, runOn_map]
  dsimp only at prompter ⊢
  rw [runOn_map] at prompter ⊢
  generalize (d.openNames.mapM (d.inputs.question asking echo)).runOn p = r at prompter ⊢
  rcases r with ⟨e | js, q⟩
  · exact Prod.ext rfl prompter
  · exact Prod.ext rfl prompter

/-- Documents with the same inputs that refer to the same variables have the same open names. -/
theorem variableNames_congr {d d' : Document} (refers : ∀ name, d'.Refers name ↔ d.Refers name) :
    d'.variableNames = d.variableNames := by
  refine NameMap.ext_get? fun name => ?_
  have same : (d'.variableNames.get? name).isSome ↔ (d.variableNames.get? name).isSome := by
    rw [← NameMap.mem_names, ← NameMap.mem_names, mem_variableNames, mem_variableNames, refers]
  cases h : d.variableNames.get? name <;> cases h' : d'.variableNames.get? name <;> simp_all

end

/-- Variables are resolved in one pass. Those that are open are asked for in the order of their names, each
once, and the first question without an answer ends the pass; nothing else is shown. Then every variable is
bound. If asking is not allowed, nothing is shown, and the first open variable ends the pass. Of the document
only its inputs and the names that it refers to matter. -/
theorem resolve_asks_open (d : Document) (p : Prompter) (echo : Option Bool) :
    (d.openNames.Pairwise (· < ·) ∧ ∀ name, name ∈ d.openNames ↔
      d.Refers name ∧ name ≠ "Region" ∧ name ≠ "Account" ∧
        ∀ i, d.inputs.get? name = some i → i.isSet = false) ∧
    (match (d.openNames.mapM fun name => (d.inputs.bearing name).ask echo).runOn p with
      | (.ok js, q) => ∃ b, (d.resolve true echo).runOn p = (.ok (d.bound b), q) ∧
          d.inputs.Settles d.variableNames.names js b ∧ d.inputs.Shows echo d.openNames p q
      | (.error e, q) => (d.resolve true echo).runOn p = (.error e, q) ∧
          ∃ front name rest js t, d.openNames = front ++ name :: rest ∧
            (front.mapM fun name => (d.inputs.bearing name).ask echo).runOn p = (.ok js, t) ∧
            ((d.inputs.bearing name).ask echo).runOn t = (.error e, q) ∧
            d.inputs.Shows echo (front ++ [name]) p q) ∧
    (match d.openNames with
      | [] => ∃ b, (d.resolve false echo).runOn p = (.ok (d.bound b), p) ∧
          d.inputs.Settles d.variableNames.names [] b
      | least :: _ => (d.resolve false echo).runOn p = (.error (.inputMissing least), p)) ∧
    ∀ d' : Document, d'.inputs = d.inputs → (∀ name, d'.Refers name ↔ d.Refers name) →
      ∀ asking, (d'.resolve asking echo).runOn p =
        ((fun r => d'.bound r.bindings) <$> d.resolve asking echo).runOn p := by
  have distinct : d.variableNames.names.Nodup := d.variableNames.names_sorted.imp String.ne_of_lt
  have asks : (fun name => (d.inputs.bearing name).ask echo) = d.inputs.question true echo := rfl
  refine ⟨⟨d.variableNames.names_sorted.filter _, fun name => ?_⟩, ?_, ?_, ?_⟩
  · rw [openNames, List.mem_filter, mem_variableNames, Inputs.isOpen_iff]
  · rw [asks, d.resolve_runOn true echo p, runOn_map]
    split
    · rename_i js q run
      rw [run]
      exact ⟨_, rfl, Inputs.settles_bindings distinct (Inputs.typed_of_mapM run),
        Inputs.shows_mapM run⟩
    · rename_i e q run
      rw [run]
      obtain ⟨front, name, rest, js, t, eq, before, failed⟩ := exists_of_mapM_error run
      refine ⟨rfl, front, name, rest, js, t, eq, before, failed, ?_⟩
      have last := d.inputs.shows_question echo name t
      rw [failed] at last
      exact (Inputs.shows_mapM before).append last
  · rw [d.resolve_runOn false echo p, runOn_map]
    split
    · rename_i none
      rw [none]
      refine ⟨_, rfl, Inputs.settles_bindings distinct ?_⟩
      rw [← openNames, none]
      exact .nil
    · rename_i least rest some
      rw [some, List.mapM_cons, runOn_bind]
      rfl
  · intro d' inputs refers asking
    rw [runOn_map, d.resolve_runOn, d'.resolve_runOn, openNames, openNames, variableNames_congr refers,
      inputs, runOn_map, runOn_map]
    rcases ((d.variableNames.names.filter d.inputs.isOpen).mapM
      (d.inputs.question asking echo)).runOn p with ⟨e | js, q⟩ <;> rfl

/-- Documents that refer to a built-in variable with an input, and to one that has a value, one that has none
and one that is not declared. -/
def scattered : Document where
  inputs := .ofList [
    ("Region", { name := "Region", plain := some "mine" }),
    ("Stage", { name := "Stage", plain := some "beta" }),
    ("Hosts", { name := "Hosts", kind := .stringList }),
    ("Unused", { name := "Unused" })]
  flushPaths := ["/$(Region)/$(Team)", "/$(Stage)/$(Hosts)"]

def reordered : Document := { scattered with flushPaths := scattered.flushPaths.reverse }

/-- The list is asked for first, and then the variable that is not declared. -/
theorem resolve_asks_open_reordered :
    scattered.openNames = ["Hosts", "Team"] ∧
    ((reordered.resolve true none).runOn Input.listed).2.shown = [
      .message "Enter StringList Hosts values (blank line when done):",
      .prompt "- " true, .prompt "- " true, .prompt "- " true, .prompt "Enter Team [String]: " true] ∧
    (reordered.resolve false none).runOn Input.listed = (.error (.inputMissing "Hosts"), Input.listed) := by
  have pending : scattered.openNames = ["Hosts", "Team"] := by decide +kernel
  obtain ⟨-, -, missing, same⟩ := resolve_asks_open scattered Input.listed none
  have refers (name : String) : reordered.Refers name ↔ scattered.Refers name := by
    simp [Refers, reordered]
  rw [pending] at missing
  refine ⟨pending, ?_, ?_⟩
  · rw [same reordered rfl refers true]
    decide +kernel
  · rw [same reordered rfl refers false, runOn_map, missing]

end Document

end ParamFile
