import Mathlib.Data.List.Induction
import Mathlib.Data.List.Nodup
import ParamFile.Proofs.Loaded

/-!
# Keys of trees that were read

No two keys of a mapping are equal in a tree that was read, at any depth (`Value.distinct_ofText`).
-/

namespace ParamFile.Yaml

/-- No two keys of a mapping in the tree are equal. -/
inductive Value.Distinct : Value → Prop
  | null : Distinct .null
  | bool (b : Bool) : Distinct (.bool b)
  | number (n : Numeral) : Distinct (.number n)
  | string (s : String) : Distinct (.string s)
  | seq {items : List Value} (h : ∀ v ∈ items, Distinct v) : Distinct (.seq items)
  | map {m : Mapping} (keys : (m.map (·.1)).Nodup) (inKeys : ∀ e ∈ m, Distinct e.1)
    (inValues : ∀ e ∈ m, Distinct e.2) : Distinct (.map m)
  | tagged (tag : String) {v : Value} (h : Distinct v) : Distinct (.tagged tag v)

theorem Value.Distinct.nodup {m : Mapping} (h : Value.Distinct (.map m)) : (m.map (·.1)).Nodup := by
  cases h with
  | map keys _ _ => exact keys

theorem Value.Distinct.of_mem {m : Mapping} (h : Value.Distinct (.map m)) {e : Value × Value}
    (there : e ∈ m) : e.2.Distinct := by
  cases h with
  | map _ _ inValues => exact inValues e there

/-! ## Scalars -/

theorem Scalar.plain_distinct {text : String} {v : Value} (h : Scalar.plain text = .ok v) :
    v.Distinct := by
  unfold Scalar.plain at h
  split at h <;> cases h <;> constructor

theorem Scalar.demanded?_distinct {tag text : String} {v : Value}
    (h : Scalar.demanded? tag text = some (.ok v)) : v.Distinct := by
  unfold Scalar.demanded? at h
  split at h
  · split at h <;> cases h; constructor
  · split at h <;> cases h; constructor
  · split at h <;> cases h; constructor
  · split at h <;> cases h; constructor
  · cases h

theorem scalarValue_distinct {p : Properties} {text : String} {isPlain : Bool} {v : Value}
    (h : scalarValue p text isPlain = .ok v) : v.Distinct := by
  have untagged {w : Value}
      (hw : (if isPlain then Scalar.plain text else .ok (.string text)) = .ok w) : w.Distinct := by
    split at hw
    · exact Scalar.plain_distinct hw
    · cases hw
      exact .string text
  unfold scalarValue at h
  dsimp only at h
  split at h
  · obtain ⟨w, hw, rfl⟩ := ok_of_map h
    exact .tagged _ (untagged hw)
  · rename_i tag _ _
    cases demanded : Scalar.demanded? tag text with
    | none =>
      rw [demanded] at h
      cases h
      exact .string text
    | some r =>
      rw [demanded, Option.getD_some] at h
      exact Scalar.demanded?_distinct (demanded.trans (congrArg some h))
  · exact untagged h

theorem withTag_distinct {v : Value} (h : v.Distinct) (p : Properties) :
    (withTag p v).Distinct := by
  unfold withTag
  split
  · exact .tagged _ h
  · exact h

/-! ## Mappings -/

/-- Entries are a mapping only if no two keys are equal. -/
theorem distinct_ok {entries m : Mapping} (h : distinct entries = .ok m) :
    m = entries ∧ (m.map (·.1)).Nodup := by
  induction entries using List.reverseRecOn generalizing m with
  | nil =>
    cases h
    exact ⟨rfl, List.nodup_nil⟩
  | append_singleton entries e ih =>
    have unfolded : distinct (entries ++ [e]) = (do
        let seen ← distinct entries
        if seen.any fun other => other.1.same e.1 then .error .duplicateKey
        else return seen ++ [e]) := by
      unfold distinct
      rw [List.foldl_append]
      rfl
    obtain ⟨seen, before, checked⟩ := ok_of_bind (unfolded.symm.trans h)
    obtain ⟨rfl, nodup⟩ := ih before
    split at checked
    · cases checked
    · rename_i fresh
      cases checked
      refine ⟨rfl, ?_⟩
      rw [List.map_append, List.nodup_append]
      refine ⟨nodup, List.nodup_singleton _, ?_⟩
      rintro _ ha _ hb rfl
      obtain ⟨other, there, same⟩ := List.mem_map.1 ha
      refine fresh (List.any_eq_true.2 ⟨other, there, ?_⟩)
      rw [same, List.mem_singleton.1 hb]
      exact Value.same_refl _

/-! ## Nodes -/

theorem mem_of_mapM {α β : Type} {f : α → Unfolding β} {l : List α} {ys : List β} {i j : Nat}
    (h : (l.mapM f).run i = .ok (ys, j)) {y : β} (hy : y ∈ ys) :
    ∃ x ∈ l, ∃ i j, (f x).run i = .ok (y, j) := by
  induction l generalizing i ys with
  | nil =>
    cases h
    cases hy
  | cons x l ih =>
    rw [List.mapM_cons, StateT.run_bind] at h
    obtain ⟨⟨z, k⟩, first, h⟩ := ok_of_bind h
    rw [StateT.run_bind] at h
    obtain ⟨⟨zs, k'⟩, later, h⟩ := ok_of_bind h
    cases h
    rcases List.mem_cons.1 hy with rfl | hy
    · exact ⟨x, List.mem_cons_self, i, k, first⟩
    · obtain ⟨x', hx', read⟩ := ih later hy
      exact ⟨x', List.mem_cons_of_mem _ hx', read⟩

theorem run_lift {α : Type} {r : Except Fault α} {i j : Nat} {x : α}
    (h : (liftM r : Unfolding α).run i = .ok (x, j)) : r = .ok x := by
  cases r with
  | error e => cases h
  | ok y =>
    cases h
    rfl

theorem Aliases.value_distinct (a : Aliases) {depth : Nat} {n : Node} {v : Value} {i j : Nat}
    (h : (a.value depth n).run i = .ok (v, j)) : v.Distinct := by
  induction depth generalizing n v i j with
  | zero =>
    unfold Aliases.value at h
    rw [StateT.run_bind] at h
    obtain ⟨⟨node, k⟩, -, h⟩ := ok_of_bind h
    cases node with
    | «alias» number => cases h
    | scalar p text isPlain => exact scalarValue_distinct (run_lift h)
    | seq p items => cases h
    | map p entries => cases h
  | succ depth ih =>
    unfold Aliases.value at h
    rw [StateT.run_bind] at h
    obtain ⟨⟨node, k⟩, -, h⟩ := ok_of_bind h
    cases node with
    | «alias» number => cases h
    | scalar p text isPlain => exact scalarValue_distinct (run_lift h)
    | seq p items =>
      dsimp only at h
      rw [StateT.run_bind] at h
      obtain ⟨⟨items', k'⟩, read, h⟩ := ok_of_bind h
      cases h
      refine withTag_distinct (.seq fun w hw => ?_) p
      obtain ⟨n, -, i, j, here⟩ := mem_of_mapM read hw
      exact ih here
    | map p entries =>
      dsimp only at h
      rw [StateT.run_bind] at h
      obtain ⟨⟨entries', k'⟩, read, h⟩ := ok_of_bind h
      rw [StateT.run_bind] at h
      obtain ⟨⟨m, k''⟩, unique, h⟩ := ok_of_bind h
      cases h
      obtain ⟨rfl, nodup⟩ := distinct_ok (run_lift unique)
      have below : ∀ e ∈ m, e.1.Distinct ∧ e.2.Distinct := by
        intro e he
        obtain ⟨⟨key, value⟩, -, i, j, here⟩ := mem_of_mapM read he
        dsimp only at here
        rw [StateT.run_bind] at here
        obtain ⟨⟨l, i'⟩, first, here⟩ := ok_of_bind here
        rw [StateT.run_bind] at here
        obtain ⟨⟨w, i''⟩, second, here⟩ := ok_of_bind here
        cases here
        exact ⟨ih first, ih second⟩
      exact withTag_distinct (.map nodup (fun e he => (below e he).1) fun e he => (below e he).2) p

/-! ## Documents -/

theorem Value.distinct_ofText {text : String} {v : Value} (h : Value.ofText text = .ok v) :
    v.Distinct := by
  obtain ⟨tokens, -, h⟩ := ok_of_bind h
  obtain ⟨root?, -, h⟩ := ok_of_bind h
  cases root? with
  | none =>
    cases h
    exact .null
  | some root =>
    obtain ⟨⟨w, i⟩, read, rfl⟩ := ok_of_map h
    exact Aliases.value_distinct _ read

end ParamFile.Yaml
