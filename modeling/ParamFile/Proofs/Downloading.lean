import ParamFile.Proofs.Encrypting
import ParamFile.Proofs.Pushing
import ParamFile.Proofs.RoundTrip

/-!
# Downloads

A download that encrypts secret values again leaves its client as reading the document of the paths
does (`Client.snapshot`). It fails if that fails, and otherwise writes out the text of the document
(`Session.download_snapshot`). Up to then it says which paths it reads, but not on its output, and it
leaves the files alone (`Session.keeps_collected`).
-/

namespace ParamFile.Command

open ParamFile.Action Yaml

namespace World

theorem text_print (channel : Channel) (text : String) (w : World) (other : Channel) :
    ((print channel text).runOn w).2.text other =
      if channel = other then w.text other ++ text else w.text other := by
  show World.text { w with printed := (channel, text) :: w.printed } other = _
  unfold World.text
  rw [List.reverse_cons, List.filter_append, List.map_append]
  by_cases same : channel = other
  · simp [same, String.join, List.foldl_append]
  · simp [same]

end World

namespace Session

open World

/-! ## Reading -/

/-- What comes before anything is written: how many parameters there are, and their document. -/
def collected (paths : List String) : Action Session (Nat × Mapping) := do
  let listings ← paths.mapM fun path => do
    onWorld (progress "Reading" path)
    onClient (Client.getPath path { full := true })
  let parameters := listings.flatMap Listing.toParameters
  let document ← onClient (Document.compile parameters paths false .empty)
  return (parameters.length, document)

theorem does_collected (paths : List String) :
    Does (Prod.snd <$> collected paths) (Client.snapshot paths .empty) := by
  unfold collected Client.snapshot
  simp only [map_bind, map_pure, bind_pure]
  refine Does.bind (.mapM (fun path => ?_) paths) fun listings => does_onClient _
  exact Does.printing (does_onClient _) .errors _

/-- Reading leaves the files and the output alone. -/
theorem keeps_collected (paths : List String) :
    Keeps (fun s => (s.world.files, s.world.text .output)) (collected paths) := by
  have said (path : String) : Keeps (fun s : Session => (s.world.files, s.world.text .output))
      (onWorld (progress "Reading" path)) := by
    intro s
    show (s.world.files, ((print .errors _).runOn s.world).2.text .output) = _
    rw [text_print, if_neg (by decide)]
  have asked {α : Type} (a : ClientM α) :
      Keeps (fun s : Session => (s.world.files, s.world.text .output)) (onClient a) := fun _ => rfl
  unfold collected
  refine Keeps.bind (.mapM (fun path => (said path).bind fun _ => asked _) paths) fun listings => ?_
  exact (asked _).bind fun document => .pure _

/-! ## Writing -/

/-- Writing the document out, to a file if one is given. -/
def delivered (output : Option String) (count : Nat) (document : Mapping) : Action Session Unit :=
  match output with
  | none => onWorld (print .output (Value.map document).toText)
  | some file => do
    onWorld (writeFile file (Value.map document).toText)
    onWorld (printLine .errors (mark ++ toString count ++ " parameters written to " ++ file))

theorem download_eq (paths : List String) (output : Option String) :
    download paths output true =
      collected paths >>= fun p => delivered output p.1 p.2 := by
  unfold collected
  simp only [bind_assoc, pure_bind]
  rfl

section
variable (count : Nat) (document : Mapping) (s : Session)

theorem delivered_none :
    let run := (delivered none count document).runOn s
    run.1 = .ok () ∧ run.2.client = s.client ∧ run.2.world.files = s.world.files ∧
      run.2.world.text .output = s.world.text .output ++ (Value.map document).toText := by
  refine ⟨rfl, rfl, rfl, ?_⟩
  show ((print .output _).runOn s.world).2.text .output = _
  rw [text_print, if_pos rfl]

theorem delivered_some (file : String) :
    let run := (delivered (some file) count document).runOn s
    run.2.client = s.client ∧ run.2.world.text .output = s.world.text .output ∧
      (run.1, run.2.world.files) =
        match s.world.files.write file (Value.map document).toText with
        | .error fault => (.error (.file fault), s.world.files)
        | .ok files => (.ok (), files) := by
  have wrote := onWorld_runOn (writeFile file (Value.map document).toText) s
  rw [writeFile_runOn] at wrote
  intro run
  cases ends : s.world.files.write file (Value.map document).toText with
  | error fault =>
    rw [ends] at wrote
    have failed : run = (.error (.file fault), s) := by
      show (delivered (some file) count document).runOn s = _
      rw [delivered, runOn_bind, wrote]
    simp [failed]
  | ok files =>
    rw [ends] at wrote
    have done : run = (onWorld (printLine .errors (mark ++ toString count ++
        " parameters written to " ++ file))).runOn { s with world := { s.world with files } } := by
      show (delivered (some file) count document).runOn s = _
      rw [delivered, runOn_bind_of_ok wrote]
    rw [done]
    refine ⟨rfl, ?_, rfl⟩
    show ((print .errors _).runOn { s.world with files }).2.text .output = _
    rw [text_print, if_neg (by decide)]
    rfl

end

/-- Take a download that encrypts secret values again. Its client is left as by reading the document of
the paths. If that fails, the download fails with the same error and leaves the files and the output as
they were. Otherwise the text of the document is what it prints, or what it writes to the file that it
is given; only writing the file may fail. -/
theorem download_snapshot (paths : List String) (output : Option String) (s : Session) :
    let read := (Client.snapshot paths .empty).runOn s.client
    let run := (download paths output true).runOn s
    run.2.client = read.2 ∧
    (∀ e, read.1 = .error e → run.1 = .error e ∧ run.2.world.files = s.world.files ∧
      run.2.world.text .output = s.world.text .output) ∧
    ∀ document, read.1 = .ok document →
      (output = none → run.1 = .ok () ∧ run.2.world.files = s.world.files ∧
        run.2.world.text .output = s.world.text .output ++ (Value.map document).toText) ∧
      ∀ file, output = some file → run.2.world.text .output = s.world.text .output ∧
        (run.1, run.2.world.files) =
          match s.world.files.write file (Value.map document).toText with
          | .error fault => (.error (.file fault), s.world.files)
          | .ok files => (.ok (), files) := by
  obtain ⟨ends, leaves⟩ := does_collected paths s
  have lasting := keeps_collected paths s
  rw [runOn_map] at ends leaves
  simp only [Prod.mk.injEq] at lasting
  intro read run
  rcases collects : (collected paths).runOn s with ⟨e | ⟨count, document⟩, t⟩
  · rw [collects] at ends leaves lasting
    have failed : run = (.error e, t) := by
      show (download paths output true).runOn s = _
      rw [download_eq, runOn_bind, collects]
    rw [failed]
    refine ⟨leaves, fun e' same => ?_, fun document found => ?_⟩
    · cases ends.trans same
      exact ⟨rfl, lasting⟩
    · cases ends.trans found
  · rw [collects] at ends leaves lasting
    obtain ⟨files, text⟩ : t.world.files = s.world.files ∧
        t.world.text .output = s.world.text .output := lasting
    have written : run = (delivered output count document).runOn t := by
      show (download paths output true).runOn s = _
      rw [download_eq, runOn_bind_of_ok collects]
    rw [written]
    cases output with
    | none =>
      obtain ⟨done, client, kept, printed⟩ := delivered_none count document t
      refine ⟨client.trans leaves, fun e failed => ?_, fun document' found => ?_⟩
      · cases ends.trans failed
      · cases ends.trans found
        exact ⟨fun _ => ⟨done, kept.trans files, by rw [printed, text]⟩, nofun⟩
    | some file =>
      obtain ⟨client, printed, stored⟩ := delivered_some count document t file
      refine ⟨client.trans leaves, fun e failed => ?_, fun document' found => ?_⟩
      · cases ends.trans failed
      · cases ends.trans found
        refine ⟨nofun, fun file' same => ?_⟩
        cases same
        exact ⟨printed.trans text, by rw [stored, files]⟩

end Session

end ParamFile.Command
