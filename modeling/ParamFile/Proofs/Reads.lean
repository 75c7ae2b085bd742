import ParamFile.Proofs.Bound

/-!
# Two readings of a parameter

Two clients read the same parameter, each against its own bindings. If variables that are read without
a key read the same (`PlainReads`), everything without a key does: names, patterns, key ids,
conditions, and values that are not taken from an input (`agree_readName` and its siblings). A value
that is taken from an input is read with a key, and all that is said of it is that both clients get
one or both get the same error (`Reads`).
-/

namespace ParamFile

open ParamFile.Action

/-- Variables that are read without a key read the same. -/
structure PlainReads (I : Client → Client → Prop) (b b' : Bindings) : Prop where
  plain : ∀ name, Agree I (· = ·) (b.read name none) (b'.read name none)

/-- Besides, with a key both readers are answered, or both get the same error. -/
structure Reads (I : Client → Client → Prop) (b b' : Bindings) : Prop extends
    PlainReads I b b' where
  keyed : ∀ name key, Agree I (fun _ _ => True) (b.read name (some key)) (b'.read name (some key))

variable {I : Client → Client → Prop} {b b' : Bindings}

/-! ## Templates -/

theorem Cut.agree_go {read read' : String → ClientM String} {V : String → String → Prop}
    {R : List Char → List Char → Prop} (h : ∀ n, Agree I V (read n) (read' n))
    (step : ∀ done done' v v' behind, R done done' → V v v' →
      R (done ++ v.toList ++ behind) (done' ++ v'.toList ++ behind))
    (links : List (List Char × List Char)) {done done' : List Char} (hd : R done done') :
    Agree I R (Cut.substitute.go read done links) (Cut.substitute.go read' done' links) := by
  induction links generalizing done done' with
  | nil => exact .pure hd
  | cons link rest ih =>
    obtain ⟨name, behind⟩ := link
    exact (h _).bind fun v v' hv => ih (step _ _ _ _ _ hd hv)

section
variable (h : PlainReads I b b')
include h

theorem PlainReads.agree_resolve {t : Template} (ht : t.keyId = none) :
    Agree I (· = ·) (t.resolve b) (t.resolve b') := by
  rw [Template.resolve_eq, Template.resolve_eq, ht]
  split
  · exact .pure rfl
  · simp only [Parameter.resolveOption, pure_bind]
    refine Agree.map (R := (· = ·)) ?_ fun _ _ e => by rw [e]
    exact Cut.agree_go h.plain (fun _ _ _ _ _ hd hv => by rw [hd, hv]) t.pieces.links rfl

theorem PlainReads.agree_resolveOption {t : Option Template} (ht : ∀ u, t = some u → u.keyId = none) :
    Agree I (· = ·) (Parameter.resolveOption b t) (Parameter.resolveOption b' t) := by
  cases t with
  | none => exact .pure rfl
  | some t => exact (h.agree_resolve (ht t rfl)).map fun _ _ e => by rw [e]

/-! ## Parameters -/

variable {p : Parameter} (hp : p.Sound)
include hp

theorem PlainReads.agree_readName : Agree I (· = ·) (p.readName b) (p.readName b') :=
  h.agree_resolve hp.name

theorem PlainReads.agree_readPattern : Agree I (· = ·) (p.readPattern b) (p.readPattern b') :=
  h.agree_resolveOption hp.pattern

theorem PlainReads.agree_readKeyId : Agree I (· = ·) (p.readKeyId b) (p.readKeyId b') :=
  h.agree_resolveOption hp.keyId

theorem PlainReads.agree_readDisabled : Agree I (· = ·) (p.readDisabled b) (p.readDisabled b') := by
  unfold Parameter.readDisabled
  split
  · exact .pure rfl
  · exact .pure rfl
  · rename_i t ht
    exact (h.agree_resolve (hp.disable t ht)).map fun _ _ e => by rw [e]

theorem PlainReads.agree_readRaw (hi : p.isFromInput = false) :
    Agree I (· = ·) (p.readRaw b) (p.readRaw b') := by
  unfold Parameter.readRaw
  split
  · exact .pure rfl
  · rename_i t ht
    have keyless : t.keyId = none := by simpa [Parameter.isFromInput, ht] using hi
    exact (h.agree_resolve keyless).map fun _ _ e => by rw [e]
  · rename_i items hitems
    exact (Agree.mapM_eq fun t ht => h.agree_resolve (hp.items items hitems t ht)).bind
      fun _ _ e => .pure (by rw [e])

theorem PlainReads.agree_reportName : Agree I (· = ·) (p.reportName b) (p.reportName b') :=
  (h.agree_readName hp).tryCatch fun _ => .pure rfl

theorem PlainReads.agree_readValue (he : p.isEncrypted = false) (hi : p.isFromInput = false) :
    Agree I (· = ·) (p.readValue b) (p.readValue b') := by
  refine (h.agree_readRaw hp hi).bind fun raw raw' e => ?_
  subst e
  split
  · refine (h.agree_readDisabled hp).bind fun disabled disabled' e => ?_
    subst e
    split
    · exact .pure rfl
    · refine (h.agree_reportName hp).bind fun name name' e => ?_
      subst e
      exact .throw _
  · rw [he]
    exact .pure rfl

end

/-! ## Values that are taken from inputs -/

section
variable (h : Reads I b b')
include h

/-- A template that carries a key is read by both, or fails for both. -/
theorem Reads.agree_resolve_keyed {t key : Template} (ht : t.keyId = some key)
    (hk : key.keyId = none) : Agree I (fun _ _ => True) (t.resolve b) (t.resolve b') := by
  rw [Template.resolve_eq, Template.resolve_eq, ht]
  split
  · exact .pure trivial
  · have keys : Agree I (fun k k' => k = k' ∧ k.isSome) (some <$> key.resolve b)
        (some <$> key.resolve b') := (h.agree_resolve hk).map fun _ _ e => ⟨by rw [e], rfl⟩
    refine keys.bind fun k k' hkk => ?_
    obtain ⟨rfl, isSome⟩ := hkk
    obtain ⟨k, rfl⟩ := Option.isSome_iff_exists.1 isSome
    refine Agree.map (R := fun _ _ => True) ?_ fun _ _ _ => trivial
    exact Cut.agree_go (fun n => h.keyed n k) (fun _ _ _ _ _ _ _ => trivial) t.pieces.links trivial

variable {p : Parameter} (hp : p.Sound)
include hp

/-- A value that is taken from an input is there for both readers. -/
theorem Reads.agree_readRaw_input (hi : p.isFromInput = true) :
    Agree I (fun x y => x.isSome ∧ y.isSome) (p.readRaw b) (p.readRaw b') := by
  obtain ⟨-, -, t, key, ht, hkey, own⟩ := hp.of_isFromInput hi
  unfold Parameter.readRaw
  rw [ht]
  exact (h.agree_resolve_keyed hkey (hp.keyId key own)).map
    fun _ _ _ => ⟨rfl, rfl⟩

/-- A value that is taken from an input is there for both readers. -/
theorem Reads.agree_readValue_input (hi : p.isFromInput = true) :
    Agree I (fun x y => x.isSome ∧ y.isSome) (p.readValue b) (p.readValue b') := by
  have he := (hp.of_isFromInput hi).1
  refine (h.agree_readRaw_input hp hi).bind fun raw raw' e => ?_
  obtain ⟨hr, hr'⟩ := e
  obtain ⟨v, rfl⟩ := Option.isSome_iff_exists.1 hr
  obtain ⟨v', rfl⟩ := Option.isSome_iff_exists.1 hr'
  simp only [he]
  exact .pure ⟨rfl, rfl⟩

end

end ParamFile
