import ParamFile.Command.Run
import ParamFile.Proofs.Loaded

/-!
# Files that were written

A text is written where its path leads, unless a directory stands there (`write_ok`). Every directory is
still one behind it (`entry?_put_directory`), so the path leads there again, and the text is what is read
(`read_write`).
-/

namespace ParamFile.Command.Files

variable {f g : Files} {k l : Location} {path text : String}

/-- The files with a text at a place. -/
def put (f : Files) (l : Location) (text : String) : Files :=
  { f with texts := f.texts.insert l.key text }

/-- A text is written at the place that its path leads to, and not over a directory. -/
theorem write_ok (h : f.write path text = .ok g) :
    ∃ l, f.locate path.toList = .ok l ∧ f.entry? l ≠ some .directory ∧ g = f.put l text := by
  obtain ⟨l, located, h⟩ := ok_of_bind h
  split at h
  · cases h
  · rename_i fits
    cases h
    simp only [Bool.or_eq_true, decide_eq_true_eq, beq_iff_eq, not_or] at fits
    refine ⟨l, ?_, fits.2, rfl⟩
    split at located
    · exact located
    · rcases List.eq_nil_or_concat path.toList with empty | ⟨front, last, eq⟩
      · rwa [empty] at located ⊢
      · rw [eq, List.concat_eq_append] at located fits ⊢
        rw [List.getLast?_concat] at fits
        have kept : Text.dropEnd (· == '/') (front ++ [last]) = front ++ [last] :=
          Text.dropEnd_append_singleton _ front last (by simpa using fits.1)
        rwa [kept] at located

theorem entry?_put_self (notDirectory : f.entry? l ≠ some .directory) :
    entry? (f.put l text) l = some (.file text) := by
  unfold entry? at notDirectory ⊢
  split
  · rename_i top
    exact absurd (if_pos top) notDirectory
  · simp [put]

theorem entry?_put_directory (notDirectory : f.entry? l ≠ some .directory)
    (directory : f.entry? k = some .directory) : entry? (f.put l text) k = some .directory := by
  unfold entry? at notDirectory directory ⊢
  split
  · rfl
  · rename_i inside
    rw [if_neg inside] at directory
    split at notDirectory
    · exact absurd rfl notDirectory
    · have other : k.key ≠ l.key := fun same => notDirectory (same ▸ directory)
      split at directory
      · cases directory
      · rename_i absent
        dsimp only at directory
        split at directory
        · rename_i below
          have stays : (f.put l text).texts.get? k.key = none := by
            rw [put, NameMap.get?_insert, if_neg other, absent]
          rw [stays]
          dsimp only
          refine if_pos ?_
          rw [Bool.or_eq_true, List.any_eq_true] at below ⊢
          refine below.imp_right fun ⟨name, there, starts⟩ => ⟨name, ?_, starts⟩
          exact NameMap.mem_names_insert.2 (.inr there)
        · cases directory

/-- A path that led somewhere leads there still. -/
theorem foldlM_step_put (notDirectory : f.entry? l ≠ some .directory) {names : List String}
    {start place : Location} (located : names.foldlM f.step start = .ok place) :
    names.foldlM (f.put l text).step start = .ok place := by
  induction names generalizing start with
  | nil => exact located
  | cons name rest ih =>
    rw [List.foldlM_cons] at located ⊢
    obtain ⟨next, stepped, located⟩ := ok_of_bind located
    have same : (f.put l text).step start name = .ok next := by
      unfold step at stepped ⊢
      split at stepped
      · cases stepped
      · cases stepped
      · rename_i directory
        rw [entry?_put_directory notDirectory directory]
        exact stepped
    rw [same, ok_bind]
    exact ih located

/-- What was written to a path is what is read there. -/
theorem read_write (h : f.write path text = .ok g) : g.read path = .ok text := by
  obtain ⟨l, located, notDirectory, rfl⟩ := write_ok h
  have again : (f.put l text).locate path.toList = .ok l := by
    unfold locate at located ⊢
    split at located
    · cases located
    · exact foldlM_step_put notDirectory located
    · exact foldlM_step_put notDirectory located
  rw [read, again, ok_bind, entry?_put_self notDirectory]

end ParamFile.Command.Files
