import Mathlib.Data.List.Forall2
import ParamFile.Error

/-!
# Reasoning about actions

How an action ends (`Action.runOn`) is computed part by part: `runOn_bind` and its siblings. Four
judgements put this to use, each with one rule for every way of building actions:

* `Meets W a Q E`: from a state of `W`, `a` stays in `W`; its result satisfies `Q`, its error `E`.
* `Keeps f a`: whatever `a` does, `f` of the state stays as it was.
* `Yields W a r`: from every state of `W`, `a` ends with `r` and stays in `W`.
* `Agree I R a b`: two runs from states related by `I` end in related states, with the same error or
  with results related by `R`. `Steady W a`, two runs of one action, makes `Yields` follow from a
  single run (`Steady.yields`).
-/

namespace ParamFile.Action

variable {σ τ α β γ δ : Type}

/-! ## Running -/

@[simp] theorem runOn_pure (x : α) (s : σ) : (pure x : Action σ α).runOn s = (.ok x, s) := rfl

@[simp] theorem runOn_throw (e : Error) (s : σ) :
    (throw e : Action σ α).runOn s = (.error e, s) := rfl

@[simp] theorem runOn_get (s : σ) : (get : Action σ σ).runOn s = (.ok s, s) := rfl

@[simp] theorem runOn_mk (f : σ → Except Error α × σ) (s : σ) :
    Action.runOn (ExceptT.mk f) s = f s := rfl

theorem runOn_bind (a : Action σ α) (f : α → Action σ β) (s : σ) :
    (a >>= f).runOn s = match a.runOn s with
      | (.ok x, t) => (f x).runOn t
      | (.error e, t) => (.error e, t) := by
  change (match (a.runOn s : Except Error α × σ) with
    | (r, t) => (ExceptT.bindCont f r : StateM σ (Except Error β)) t) = _
  rcases a.runOn s with ⟨_ | _, _⟩ <;> rfl

theorem runOn_map (a : Action σ α) (f : α → β) (s : σ) :
    (f <$> a).runOn s = match a.runOn s with
      | (.ok x, t) => (.ok (f x), t)
      | (.error e, t) => (.error e, t) := by
  rw [map_eq_pure_bind, runOn_bind]
  rfl

theorem runOn_mk_bind {ρ : Type} (a : StateM σ ρ) (g : ρ → StateM σ (Except Error α)) (s : σ) :
    Action.runOn (ExceptT.mk (a >>= g)) s = Action.runOn (ExceptT.mk (g (a s).1)) (a s).2 := rfl

theorem runOn_tryCatch (a : Action σ α) (f : Error → Action σ α) (s : σ) :
    Action.runOn (tryCatch a f) s = match a.runOn s with
      | (.ok x, t) => (.ok x, t)
      | (.error e, t) => (f e).runOn t := by
  change Action.runOn (ExceptT.tryCatch a f) s = match (a s : Except Error α × σ) with
      | (.ok x, t) => (.ok x, t)
      | (.error e, t) => (f e).runOn t
  unfold ExceptT.tryCatch
  refine (runOn_mk_bind a _ s).trans ?_
  generalize (a s : Except Error α × σ) = p
  rcases p with ⟨_ | _, _⟩ <;> rfl

theorem runOn_bind_of_ok {a : Action σ α} {f : α → Action σ β} {s t : σ} {x : α}
    (h : a.runOn s = (.ok x, t)) : (a >>= f).runOn s = (f x).runOn t := by rw [runOn_bind, h]

/-- Two actions in a row give a result only if both do. -/
theorem runOn_bind_ok {a : Action σ α} {f : α → Action σ β} {s u : σ} {y : β}
    (h : (a >>= f).runOn s = (.ok y, u)) :
    ∃ x t, a.runOn s = (.ok x, t) ∧ (f x).runOn t = (.ok y, u) := by
  rw [runOn_bind] at h
  split at h
  · exact ⟨_, _, ‹_›, h⟩
  · cases h

theorem runOn_map_ok {a : Action σ α} {f : α → β} {s u : σ} {y : β}
    (h : (f <$> a).runOn s = (.ok y, u)) : ∃ x, a.runOn s = (.ok x, u) ∧ f x = y := by
  rw [runOn_map] at h
  split at h
  · cases h
    exact ⟨_, ‹_›, rfl⟩
  · cases h

theorem exists_of_isOk {a : Action σ α} {s : σ} (h : (a.runOn s).1.isOk = true) :
    ∃ x t, a.runOn s = (.ok x, t) := by
  rcases hr : a.runOn s with ⟨e | x, t⟩
  · rw [hr] at h
    cases h
  · exact ⟨x, t, rfl⟩

/-! ## What an action keeps and how it ends -/

/-- How a run may end: with a result in `Q` or an error in `E`. -/
def Ends (Q : α → Prop) (E : Error → Prop) : Except Error α → Prop
  | .ok x => Q x
  | .error e => E e

/-- The action stays in `W`, and ends with a result in `Q` or an error in `E`. -/
def Meets (W : σ → Prop) (a : Action σ α) (Q : α → Prop) (E : Error → Prop) : Prop :=
  ∀ s, W s → Ends Q E (a.runOn s).1 ∧ W (a.runOn s).2

section
variable {W : σ → Prop} {Q : α → Prop} {S : β → Prop} {E : Error → Prop}

theorem Meets.pure {x : α} (h : Q x) : Meets W (pure x) Q E := fun _ hs => ⟨h, hs⟩

theorem Meets.throw {e : Error} (h : E e) : Meets W (throw e) Q E := fun _ hs => ⟨h, hs⟩

theorem Meets.get : Meets W get W E := fun _ hs => ⟨hs, hs⟩

theorem Meets.set {t : σ} (h : W t) : Meets W (set t) (fun _ => True) E := fun _ _ => ⟨trivial, h⟩

theorem Meets.bind {a : Action σ α} {f : α → Action σ β} (ha : Meets W a Q E)
    (hf : ∀ x, Q x → Meets W (f x) S E) : Meets W (a >>= f) S E := by
  intro s hs
  rw [runOn_bind]
  have h := ha s hs
  generalize a.runOn s = p at h ⊢
  rcases p with ⟨e | x, t⟩
  · exact h
  · exact hf x h.1 t h.2

theorem Meets.map {a : Action σ α} {f : α → β} (ha : Meets W a Q E) (hf : ∀ x, Q x → S (f x)) :
    Meets W (f <$> a) S E := by
  rw [map_eq_pure_bind]
  exact ha.bind fun x hx => .pure (hf x hx)

theorem Meets.tryCatch {a : Action σ α} {f : Error → Action σ α} {F : Error → Prop}
    (ha : Meets W a Q F) (hf : ∀ e, F e → Meets W (f e) Q E) : Meets W (tryCatch a f) Q E := by
  intro s hs
  rw [runOn_tryCatch]
  have h := ha s hs
  generalize a.runOn s = p at h ⊢
  rcases p with ⟨e | x, t⟩
  · exact hf e h.1 t h.2
  · exact h

theorem Meets.mono {a : Action σ α} {Q' : α → Prop} {E' : Error → Prop} (ha : Meets W a Q E)
    (hQ : ∀ x, Q x → Q' x) (hE : ∀ e, E e → E' e) : Meets W a Q' E' := by
  intro s hs
  have h := ha s hs
  generalize a.runOn s = p at h ⊢
  rcases p with ⟨e | x, t⟩
  · exact ⟨hE e h.1, h.2⟩
  · exact ⟨hQ x h.1, h.2⟩

theorem Meets.mapM {f : γ → Action σ α} {R : γ → α → Prop} {l : List γ}
    (hf : ∀ x ∈ l, Meets W (f x) (R x) E) : Meets W (l.mapM f) (List.Forall₂ R l) E := by
  induction l with
  | nil => exact .pure .nil
  | cons x l ih =>
    rw [List.mapM_cons]
    refine (hf x List.mem_cons_self).bind fun y hy => ?_
    refine (ih fun z hz => hf z (List.mem_cons_of_mem _ hz)).bind fun ys hys => ?_
    exact .pure (.cons hy hys)

theorem Meets.onPart {V : τ → Prop} {get : σ → τ} {set : τ → σ → σ} {a : Action τ α}
    (ha : Meets V a Q E) (hget : ∀ s, W s → V (get s)) (hset : ∀ s t, W s → V t → W (set t s)) :
    Meets W (onPart get set a) Q E := by
  intro s hs
  obtain ⟨h, ht⟩ := ha (get s) (hget s hs)
  exact ⟨h, hset s _ hs ht⟩

theorem Meets.any (a : Action σ α) :
    Meets (fun _ => True) a (fun _ => True) (fun _ => True) := by
  intro s _
  refine ⟨?_, trivial⟩
  cases (a.runOn s).1 <;> trivial

theorem Meets.ok {a : Action σ α} (ha : Meets W a Q E) {s t : σ} {x : α} (hs : W s)
    (h : a.runOn s = (.ok x, t)) : Q x := by
  have := (ha s hs).1
  rwa [h] at this

theorem Meets.error {a : Action σ α} (ha : Meets W a Q E) {s : σ} {e : Error} (hs : W s)
    (h : (a.runOn s).1 = .error e) : E e := by
  have := (ha s hs).1
  rwa [h] at this

end

/-- `f` of the state stays as it was. -/
def Keeps (f : σ → γ) (a : Action σ α) : Prop := ∀ s, f (a.runOn s).2 = f s

theorem keeps_iff {f : σ → γ} {a : Action σ α} :
    Keeps f a ↔ ∀ v, Meets (f · = v) a (fun _ => True) (fun _ => True) := by
  constructor
  · exact fun h v s hs => ⟨(Meets.any a s trivial).1, (h s).trans hs⟩
  · exact fun h s => (h (f s) s rfl).2

section
variable {f : σ → γ}

theorem Keeps.pure (x : α) : Keeps f (pure x) := fun _ => rfl

theorem Keeps.throw (e : Error) : Keeps f (throw e : Action σ α) := fun _ => rfl

theorem Keeps.bind {a : Action σ α} {g : α → Action σ β} (ha : Keeps f a)
    (hg : ∀ x, Keeps f (g x)) : Keeps f (a >>= g) :=
  keeps_iff.2 fun v => (keeps_iff.1 ha v).bind fun x _ => keeps_iff.1 (hg x) v

theorem Keeps.mapM {g : α → Action σ β} (hg : ∀ x, Keeps f (g x)) (l : List α) :
    Keeps f (l.mapM g) := by
  induction l with
  | nil => exact .pure _
  | cons x l ih =>
    rw [List.mapM_cons]
    exact (hg x).bind fun _ => ih.bind fun _ => .pure _

theorem Keeps.tryCatch {a : Action σ α} {g : Error → Action σ α} (ha : Keeps f a)
    (hg : ∀ e, Keeps f (g e)) : Keeps f (tryCatch a g) :=
  keeps_iff.2 fun v => (keeps_iff.1 ha v).tryCatch fun e _ => keeps_iff.1 (hg e) v

end

/-! ## Actions with a fixed answer -/

/-- From every state of `W` the action ends with `r`, in a state of `W`. -/
def Yields (W : σ → Prop) (a : Action σ α) (r : Except Error α) : Prop :=
  ∀ s, W s → (a.runOn s).1 = r ∧ W (a.runOn s).2

section
variable {W : σ → Prop}

theorem Yields.pure (x : α) : Yields W (pure x) (.ok x) := fun _ hs => ⟨rfl, hs⟩

theorem Yields.throw (e : Error) : Yields W (throw e : Action σ α) (.error e) :=
  fun _ hs => ⟨rfl, hs⟩

theorem Yields.bind {a : Action σ α} {f : α → Action σ β} {x : α} {r : Except Error β}
    (ha : Yields W a (.ok x)) (hf : Yields W (f x) r) : Yields W (a >>= f) r := by
  intro s hs
  obtain ⟨h, ht⟩ := ha s hs
  rw [runOn_bind]
  generalize a.runOn s = p at h ht ⊢
  obtain ⟨_, t⟩ := p
  cases h
  exact hf t ht

/-- What an action does with the state must not depend on which state of `W` it is. -/
theorem Yields.get_bind {f : σ → Action σ α} {r : Except Error α}
    (hf : ∀ s, W s → Yields W (f s) r) : Yields W (get >>= f) r := by
  intro s hs
  rw [runOn_bind]
  exact hf s hs s hs

/-- The ends of two actions in a row are the two answers in a row. -/
theorem Yields.andThen {a : Action σ α} {f : α → Action σ β} {r : Except Error α}
    {k : α → Except Error β} (ha : Yields W a r) (hf : ∀ x, r = .ok x → Yields W (f x) (k x)) :
    Yields W (a >>= f) (r >>= k) := by
  cases r with
  | ok x => exact ha.bind (hf x rfl)
  | error e =>
    intro s hs
    obtain ⟨h, ht⟩ := ha s hs
    rw [runOn_bind]
    generalize a.runOn s = p at h ht ⊢
    obtain ⟨_, t⟩ := p
    cases h
    exact ⟨rfl, ht⟩

theorem Yields.map {a : Action σ α} (f : α → β) {r : Except Error α} (ha : Yields W a r) :
    Yields W (f <$> a) (r.map f) := by
  rw [map_eq_pure_bind]
  exact ha.andThen (k := fun x => .ok (f x)) fun x _ => .pure _

/-- The answers may be errors; the first one ends the run. -/
theorem Yields.traverse {f : γ → Action σ α} {g : γ → Except Error α} {l : List γ}
    (hf : ∀ x ∈ l, Yields W (f x) (g x)) : Yields W (l.mapM f) (l.mapM g) := by
  induction l with
  | nil => exact .pure _
  | cons x l ih =>
    rw [List.mapM_cons, List.mapM_cons]
    refine (hf x List.mem_cons_self).andThen fun y _ => ?_
    exact (ih fun z hz => hf z (List.mem_cons_of_mem _ hz)).andThen fun ys _ => .pure _

theorem Yields.mapM {f : γ → Action σ α} {g : γ → α} {l : List γ}
    (hf : ∀ x ∈ l, Yields W (f x) (.ok (g x))) : Yields W (l.mapM f) (.ok (l.map g)) := by
  have answers : l.mapM (fun x => (.ok (g x) : Except Error α)) = .ok (l.map g) := List.mapM_pure
  rw [← answers]
  exact .traverse hf

theorem Yields.foldlM {f : β → γ → Action σ β} {g : β → γ → β} {l : List γ} {b : β}
    (hf : ∀ x ∈ l, ∀ b, Yields W (f b x) (.ok (g b x))) : Yields W (l.foldlM f b) (.ok (l.foldl g b)) := by
  induction l generalizing b with
  | nil => exact .pure _
  | cons x l ih =>
    rw [List.foldlM_cons]
    exact (hf x List.mem_cons_self b).bind (ih fun z hz => hf z (List.mem_cons_of_mem _ hz))

theorem Yields.runOn {a : Action σ α} {x : α} (ha : Yields W a (.ok x)) {s : σ} (hs : W s) :
    ∃ t, a.runOn s = (.ok x, t) ∧ W t :=
  ⟨_, Prod.ext (ha s hs).1 rfl, (ha s hs).2⟩

end

/-! ## Answers in a row -/

section
variable {f : α → Except Error β}

theorem exists_error_of_mem {l : List α} {x : α} (mem : x ∈ l) {e : Error} (failed : f x = .error e) :
    ∃ e', l.mapM f = .error e' := by
  induction l with
  | nil => cases mem
  | cons y l ih =>
    rw [List.mapM_cons]
    cases hy : f y with
    | error e' => exact ⟨e', rfl⟩
    | ok z =>
      rcases List.mem_cons.1 mem with rfl | later
      · rw [failed] at hy
        cases hy
      · obtain ⟨e', eq⟩ := ih later
        exact ⟨e', by rw [eq]; rfl⟩

theorem isOk_of_mapM {l : List α} {ys : List β} (h : l.mapM f = .ok ys) :
    ∀ x ∈ l, (f x).isOk = true := by
  intro x mem
  cases hx : f x with
  | ok y => rfl
  | error e =>
    obtain ⟨e', failed⟩ := exists_error_of_mem mem hx
    rw [h] at failed
    cases failed

/-- A list fails at its first element that does. -/
theorem mapM_eq_error {l : List α} {e : Error} :
    l.mapM f = .error e ↔
      ∃ front x rest, l = front ++ x :: rest ∧ (∀ y ∈ front, (f y).isOk = true) ∧
        f x = .error e := by
  induction l with
  | nil =>
    constructor
    · intro h
      cases h
    · rintro ⟨front, x, rest, eq, -⟩
      simp at eq
  | cons x l ih =>
    rw [List.mapM_cons]
    cases hx : f x with
    | error e' =>
      constructor
      · intro h
        cases h
        exact ⟨[], x, l, rfl, List.forall_mem_nil _, hx⟩
      · rintro ⟨front, y, rest, eq, loads, failed⟩
        cases front with
        | nil =>
          cases eq
          rw [hx] at failed
          cases failed
          rfl
        | cons z front =>
          cases eq
          have first := loads x List.mem_cons_self
          rw [hx] at first
          cases first
    | ok y =>
      have tail : (.ok y >>= fun y => l.mapM f >>= fun ys => pure (y :: ys)) = .error e ↔
          l.mapM f = .error e := by
        rcases l.mapM f with e' | ys
        · exact Iff.rfl
        · constructor <;> intro h <;> cases h
      rw [tail, ih]
      constructor
      · rintro ⟨front, z, rest, rfl, loads, failed⟩
        refine ⟨x :: front, z, rest, rfl, List.forall_mem_cons.2 ⟨?_, loads⟩, failed⟩
        rw [hx]
        rfl
      · rintro ⟨front, z, rest, eq, loads, failed⟩
        cases front with
        | nil =>
          cases eq
          rw [hx] at failed
          cases failed
        | cons w front =>
          cases eq
          exact ⟨front, z, rest, rfl, (List.forall_mem_cons.1 loads).2, failed⟩

end

/-! ## Two runs -/

/-- Two ends are the same error, or results related by `R`. -/
inductive SameEnd (R : α → β → Prop) : Except Error α → Except Error β → Prop
  | ok {x : α} {y : β} (h : R x y) : SameEnd R (.ok x) (.ok y)
  | error (e : Error) : SameEnd R (.error e) (.error e)

/-- Two runs from states related by `I` end the same up to `R`, in states related by `I`. -/
def Agree (I : σ → τ → Prop) (R : α → β → Prop) (a : Action σ α) (b : Action τ β) : Prop :=
  ∀ s t, I s t → SameEnd R (a.runOn s).1 (b.runOn t).1 ∧ I (a.runOn s).2 (b.runOn t).2

theorem sameEnd_eq {r r' : Except Error α} : SameEnd (· = ·) r r' ↔ r = r' := by
  constructor
  · rintro (⟨rfl⟩ | _) <;> rfl
  · rintro rfl
    cases r with
    | ok x => exact .ok rfl
    | error e => exact .error e

section
variable {I : σ → τ → Prop} {R : α → β → Prop} {S : γ → δ → Prop}

theorem Agree.pure {x : α} {y : β} (h : R x y) : Agree I R (pure x) (pure y) :=
  fun _ _ hs => ⟨.ok h, hs⟩

theorem Agree.throw (e : Error) : Agree I R (throw e) (throw e) := fun _ _ hs => ⟨.error e, hs⟩

theorem Agree.bind {a : Action σ α} {b : Action τ β} {f : α → Action σ γ} {g : β → Action τ δ}
    (h : Agree I R a b) (hf : ∀ x y, R x y → Agree I S (f x) (g y)) :
    Agree I S (a >>= f) (b >>= g) := by
  intro s t hs
  rw [runOn_bind, runOn_bind]
  obtain ⟨hr, ht⟩ := h s t hs
  generalize a.runOn s = p at hr ht ⊢
  generalize b.runOn t = q at hr ht ⊢
  obtain ⟨r, s'⟩ := p
  obtain ⟨r', t'⟩ := q
  cases hr with
  | ok hxy => exact hf _ _ hxy s' t' ht
  | error e => exact ⟨.error e, ht⟩

theorem Agree.map {a : Action σ α} {b : Action τ β} {f : α → γ} {g : β → δ} (h : Agree I R a b)
    (hf : ∀ x y, R x y → S (f x) (g y)) : Agree I S (f <$> a) (g <$> b) := by
  rw [map_eq_pure_bind, map_eq_pure_bind]
  exact h.bind fun x y hxy => .pure (hf x y hxy)

theorem Agree.tryCatch {a : Action σ α} {b : Action τ β} {f : Error → Action σ α}
    {g : Error → Action τ β} (h : Agree I R a b) (hf : ∀ e, Agree I R (f e) (g e)) :
    Agree I R (tryCatch a f) (tryCatch b g) := by
  intro s t hs
  rw [runOn_tryCatch, runOn_tryCatch]
  obtain ⟨hr, ht⟩ := h s t hs
  generalize a.runOn s = p at hr ht ⊢
  generalize b.runOn t = q at hr ht ⊢
  obtain ⟨r, s'⟩ := p
  obtain ⟨r', t'⟩ := q
  cases hr with
  | ok hxy => exact ⟨.ok hxy, ht⟩
  | error e => exact hf e s' t' ht

theorem Agree.mono {a : Action σ α} {b : Action τ β} {R' : α → β → Prop} (h : Agree I R a b)
    (hR : ∀ x y, R x y → R' x y) : Agree I R' a b := by
  intro s t hs
  obtain ⟨hr, ht⟩ := h s t hs
  refine ⟨?_, ht⟩
  generalize (a.runOn s).1 = r at hr ⊢
  generalize (b.runOn t).1 = r' at hr ⊢
  cases hr with
  | ok hxy => exact .ok (hR _ _ hxy)
  | error e => exact .error e

theorem Agree.reached {a : Action σ α} {b : Action τ β} (h : Agree I R a b) :
    Agree I (fun x y => R x y ∧ ∃ s, (a.runOn s).1 = .ok x) a b := by
  intro s t hs
  obtain ⟨hr, ht⟩ := h s t hs
  refine ⟨?_, ht⟩
  have run : ∃ s', (a.runOn s').1 = (a.runOn s).1 := ⟨s, rfl⟩
  generalize (a.runOn s).1 = r at hr run ⊢
  generalize (b.runOn t).1 = r' at hr ⊢
  cases hr with
  | ok hxy => exact .ok ⟨hxy, run⟩
  | error e => exact .error e

theorem Agree.mapM {f : γ → Action σ α} {g : γ → Action τ β} {l : List γ}
    (hf : ∀ x ∈ l, Agree I R (f x) (g x)) :
    Agree I (List.Forall₂ R) (l.mapM f) (l.mapM g) := by
  induction l with
  | nil => exact .pure .nil
  | cons x l ih =>
    rw [List.mapM_cons, List.mapM_cons]
    refine (hf x List.mem_cons_self).bind fun y z hyz => ?_
    refine (ih fun x' hx' => hf x' (List.mem_cons_of_mem _ hx')).bind fun ys zs hys => ?_
    exact .pure (.cons hyz hys)

theorem Agree.mapM_eq {f g : γ → Action σ α} {J : σ → σ → Prop} {l : List γ}
    (hf : ∀ x ∈ l, Agree J (· = ·) (f x) (g x)) : Agree J (· = ·) (l.mapM f) (l.mapM g) :=
  (Agree.mapM hf).mono fun _ _ h => by rwa [List.forall₂_eq_eq_eq] at h

end

/-- Two runs of the action from states of `W` end alike, in states of `W`. -/
def Steady (W : σ → Prop) (a : Action σ α) : Prop :=
  Agree (fun s t => W s ∧ W t) (· = ·) a a

/-- A single run of a steady action shows its answer. -/
theorem Steady.yields {W : σ → Prop} {a : Action σ α} (h : Steady W a) {s : σ} (hs : W s) :
    Yields W a (a.runOn s).1 :=
  fun t ht => ⟨(sameEnd_eq.1 (h s t ⟨hs, ht⟩).1).symm, (h s t ⟨hs, ht⟩).2.2⟩

theorem Steady.yields_ok {W : σ → Prop} {a : Action σ α} (h : Steady W a) {s t : σ} {x : α}
    (hs : W s) (run : a.runOn s = (.ok x, t)) : Yields W a (.ok x) ∧ W t := by
  have key := h.yields hs
  rw [run] at key
  refine ⟨key, ?_⟩
  have := (key s hs).2
  rwa [run] at this

theorem Steady.meets {W : σ → Prop} {a : Action σ α} (h : Steady W a) :
    Meets W a (fun x => Yields W a (.ok x)) (fun _ => True) := by
  intro s hs
  have key := h.yields hs
  refine ⟨?_, (key s hs).2⟩
  generalize (a.runOn s).1 = r at key
  cases r with
  | error e => trivial
  | ok x => exact key

theorem Steady.pure {W : σ → Prop} (x : α) : Steady W (pure x) := Agree.pure rfl

theorem Steady.throw {W : σ → Prop} (e : Error) : Steady W (throw e : Action σ α) := Agree.throw e

theorem Steady.bind {W : σ → Prop} {a : Action σ α} {f : α → Action σ β} (ha : Steady W a)
    (hf : ∀ x, Steady W (f x)) : Steady W (a >>= f) :=
  Agree.bind ha fun x y e => by
    subst e
    exact hf x

theorem Steady.tryCatch {W : σ → Prop} {a : Action σ α} {f : Error → Action σ α}
    (ha : Steady W a) (hf : ∀ e, Steady W (f e)) : Steady W (tryCatch a f) :=
  Agree.tryCatch ha hf

/-- An action with a fixed answer is steady. -/
theorem Yields.steady {W : σ → Prop} {a : Action σ α} {r : Except Error α} (h : Yields W a r) :
    Steady W a :=
  fun s t hs => ⟨sameEnd_eq.2 ((h s hs.1).1.trans (h t hs.2).1.symm), (h s hs.1).2, (h t hs.2).2⟩

end ParamFile.Action
