import ParamFile.Command.Run
import ParamFile.Proofs.Distinct
import ParamFile.Proofs.Filing
import ParamFile.Proofs.SealedEntries

/-!
# Encrypting into a file

Encrypting takes the entries of the file (`Files.HoldsEntries`) and the values that are given
(`Provides`), seals them under the key in full form (`Client.qualifiedKey`), and writes the file
last. So an error leaves all files as they were (`Session.files_of_encrypt_error`), and apart from the
writing only a call can fail (`Session.encrypt_ends`).
-/

namespace ParamFile

open ParamFile.Action Yaml

/-! ## Keys in full form -/

namespace Client

/-- The key id in full form, as it is with this store. -/
def qualifiedKey (s : Store) (keyId : String) : String :=
  if isFullKeyId keyId then keyId else fullKeyId s.region s.account keyId

theorem separator_notMem_qualifiedKey {s : Store} (region : Cipher.separator ∉ s.region.toList)
    (account : Cipher.separator ∉ s.account.toList) {keyId : String}
    (free : Cipher.separator ∉ keyId.toList) : Cipher.separator ∉ (qualifiedKey s keyId).toList := by
  have append {a b : String} (ha : Cipher.separator ∉ a.toList)
      (hb : Cipher.separator ∉ b.toList) : Cipher.separator ∉ (a ++ b).toList := by
    rw [String.toList_append, List.mem_append, not_or]
    exact ⟨ha, hb⟩
  have start : Cipher.separator ∉ "arn:aws:kms:".toList := by decide
  have colon : Cipher.separator ∉ ":".toList := by decide
  rw [qualifiedKey]
  split
  · exact free
  · exact append (append (append (append (append start region) colon) account) colon) free

/-- A key id is completed unless the region or the account cannot be had. -/
theorem meets_formatKeyId {s : Store} {failing : List Call} (keyId : String) :
    Meets (Recalling s failing) (Client.formatKeyId keyId) (· = qualifiedKey s keyId)
      (fun e => ∃ call ∈ [Call.region, .account], call ∈ failing ∧ e = injected call) := by
  refine (meets_ask (q := .formatKeyId keyId) trivial).mono (fun key answer => ?_) fun e failed => ?_
  · exact (Except.ok.inj answer).symm
  · rcases failed with answer | failed
    · cases answer
    · exact failed

end Client

namespace Command

/-! ## What is in the file -/

/-- The entries that a file is taken to hold: those of its mapping, or none. -/
inductive Files.HoldsEntries (f : Files) (path : String) : Mapping → Prop
  | missing (h : f.exists? path = false) : HoldsEntries f path []
  | empty {text : String} (read : f.read path = .ok text)
    (tree : Document.treeOfText text = .ok .null) : HoldsEntries f path []
  | mapping {text : String} {m : Mapping} (read : f.read path = .ok text)
    (tree : Document.treeOfText text = .ok (.map m)) : HoldsEntries f path m

theorem Files.exists?_of_read {f : Files} {path text : String} (h : f.read path = .ok text) :
    f.exists? path = true := by
  obtain ⟨l, located, h⟩ := ok_of_bind h
  rw [Files.exists?, located]
  dsimp only
  split at h
  · cases h
  · cases h
  · rename_i there
    rw [there]
    rfl

theorem Files.HoldsEntries.distinct {f : Files} {path : String} {m : Mapping}
    (h : f.HoldsEntries path m) : Value.Distinct (.map m) := by
  have nothing : Value.Distinct (.map []) := .map List.nodup_nil (by simp) (by simp)
  rcases h with _ | _ | ⟨-, tree⟩
  · exact nothing
  · exact nothing
  · unfold Document.treeOfText at tree
    split at tree
    · rename_i read
      cases tree
      exact Value.distinct_ofText read
    · cases tree

theorem World.readFile_runOn {w : World} {path text : String} (h : w.files.read path = .ok text) :
    (World.readFile path).runOn w = (.ok text, w) := by
  have reads : (World.readFile path).runOn w = ((w.files.read path).mapError .file, w) := rfl
  rw [reads, h]
  rfl

theorem World.readEntries_runOn {w : World} {file : String} {m : Mapping}
    (h : w.files.HoldsEntries file m) : (World.readEntries file).runOn w = (.ok m, w) := by
  have tree {text : String} {v : Value} (tree : Document.treeOfText text = .ok v) :
      (Action.ofExcept (Document.treeOfText text) : Action World Value).runOn w = (.ok v, w) := by
    rw [tree]
    rfl
  rw [World.readEntries, runOn_bind, runOn_get]
  cases h with
  | missing absent =>
    simp only [absent]
    rfl
  | empty read null =>
    simp only [Files.exists?_of_read read, Bool.not_true, Bool.false_eq_true, if_false]
    rw [runOn_bind_of_ok (World.readFile_runOn read), runOn_bind_of_ok (tree null)]
    rfl
  | mapping read root =>
    simp only [Files.exists?_of_read read, Bool.not_true, Bool.false_eq_true, if_false]
    rw [runOn_bind_of_ok (World.readFile_runOn read), runOn_bind_of_ok (tree root)]
    rfl

/-! ## What is given -/

/-- The names and values that some arguments and lines make up: each name is followed by its value, or
the values are asked for. -/
inductive Provides : (asking : Bool) → (arguments lines : List String) → List (String × String) → Prop
  | written (values : List (String × String)) (lines : List String) :
    Provides false (values.flatMap fun e => [e.1, e.2]) lines values
  | asked (values : List (String × String)) (rest : List String) :
    Provides true (values.map (·.1)) (values.map (·.2) ++ rest) values

namespace Session

theorem pairUp_written (values : List (String × String)) :
    pairUp (values.flatMap fun e => [e.1, e.2]) = .ok values := by
  induction values with
  | nil => rfl
  | cons e rest ih => simp [pairUp, ih]

theorem askEach_cons (name : String) (names : List String) (echo : Bool) :
    askEach (name :: names) echo = (do
      let value ← Prompter.ask name (name ++ ": ") echo
      let values ← askEach names echo
      return (name, value) :: values) := by
  simp only [askEach, List.mapM_cons, bind_assoc, pure_bind]

theorem askEach_runOn (values : List (String × String)) (rest : List String) (echo : Bool)
    {p : Prompter} (answers : p.answers = values.map (·.2) ++ rest) :
    ∃ q, (askEach (values.map (·.1)) echo).runOn p = (.ok values, q) := by
  induction values generalizing p with
  | nil => exact ⟨p, rfl⟩
  | cons e values ih =>
    have first := Prompter.runOn_ask_cons e.1 (e.1 ++ ": ") echo p e.2 (values.map (·.2) ++ rest)
      answers
    obtain ⟨q, others⟩ := ih (p := { p with
      answers := values.map (·.2) ++ rest, log := .prompt (e.1 ++ ": ") echo :: p.log }) rfl
    refine ⟨q, ?_⟩
    rw [List.map_cons, askEach_cons, runOn_bind_of_ok first, runOn_bind_of_ok others]
    rfl

def gathered (arguments : List String) (asking echo : Bool) : Action World (List (String × String)) :=
  if asking then World.answering (askEach arguments echo) else Action.ofExcept (pairUp arguments)

theorem gathered_runOn {arguments : List String} {asking : Bool} {values : List (String × String)}
    {w : World} (given : Provides asking arguments w.lines values) (echo : Bool) :
    ∃ v, (gathered arguments asking echo).runOn w = (.ok values, v) ∧ v.files = w.files := by
  generalize lines : w.lines = answers at given
  cases given with
  | written =>
    refine ⟨w, ?_, rfl⟩
    rw [gathered, pairUp_written]
    rfl
  | asked values rest =>
    obtain ⟨q, ran⟩ := askEach_runOn values rest echo
      (p := { answers := w.lines, isScript := false }) lines
    have ends : (gathered (values.map (·.1)) true echo).runOn w =
        (((askEach (values.map (·.1)) echo).runOn { answers := w.lines, isScript := false }).1,
          { w with
            lines := ((askEach (values.map (·.1)) echo).runOn
              { answers := w.lines, isScript := false }).2.answers
            printed := ((askEach (values.map (·.1)) echo).runOn
              { answers := w.lines, isScript := false }).2.log.map World.printedOf ++ w.printed }) := rfl
    rw [ran] at ends
    exact ⟨_, ends, rfl⟩

/-! ## Encrypting -/

theorem onWorld_runOn {α : Type} (a : Action World α) (s : Session) :
    (onWorld a).runOn s = ((a.runOn s.world).1, { s with world := (a.runOn s.world).2 }) := rfl

theorem onClient_runOn {α : Type} (a : ClientM α) (s : Session) :
    (onClient a).runOn s = ((a.runOn s.client).1, { s with client := (a.runOn s.client).2 }) := rfl

/-- What comes before the file is written: the values that are given, and the document with them. -/
def prepared (file keyId : String) (arguments : List String) (asking echo : Bool) :
    Action Session (List (String × String) × Mapping) := do
  let m ← onWorld (World.readEntries file)
  let key ← onClient (Client.formatKeyId keyId)
  let values ← onWorld (gathered arguments asking echo)
  let m' ← onClient (Document.sealAll key values m)
  return (values, m')

def stored (file : String) (values : List (String × String)) (m : Mapping) : Action Session Unit := do
  onWorld (World.writeFile file (Value.map m).toText)
  onWorld (World.printLine .errors
    (World.mark ++ toString values.length ++ " values encrypted into " ++ file))

section
variable {file keyId : String} {arguments : List String} {asking echo : Bool} {s t : Session}

theorem encrypt_eq :
    encrypt file keyId arguments asking echo =
      prepared file keyId arguments asking echo >>= fun p => stored file p.1 p.2 := by
  unfold prepared
  simp only [bind_assoc, pure_bind]
  rfl

theorem writeFile_runOn (w : World) (path text : String) :
    (World.writeFile path text).runOn w =
      match w.files.write path text with
      | .error fault => (.error (.file fault), w)
      | .ok files => (.ok (), { w with files }) := by
  rw [World.writeFile, runOn_bind, runOn_get]
  dsimp only
  cases w.files.write path text <;> rfl

theorem stored_runOn (file : String) (values : List (String × String)) (m : Mapping) (s : Session) :
    (∃ fault, s.world.files.write file (Value.map m).toText = .error fault ∧
      (stored file values m).runOn s = (.error (.file fault), s)) ∨
    (∃ t, s.world.files.write file (Value.map m).toText = .ok t.world.files ∧
      (stored file values m).runOn s = (.ok (), t)) := by
  have written := onWorld_runOn (World.writeFile file (Value.map m).toText) s
  rw [writeFile_runOn] at written
  cases ends : s.world.files.write file (Value.map m).toText with
  | error fault =>
    rw [ends] at written
    refine .inl ⟨fault, rfl, ?_⟩
    rw [stored, runOn_bind, written]
  | ok files =>
    rw [ends] at written
    exact .inr ⟨_, rfl, runOn_bind_of_ok written⟩

theorem keeps_onWorld {α : Type} {a : Action World α} (h : Keeps (fun w => w.files) a) :
    Keeps (fun s : Session => s.world.files) (onWorld a) := fun s => h s.world

theorem keeps_onClient {α : Type} (a : ClientM α) :
    Keeps (fun s : Session => s.world.files) (onClient a) := fun _ => rfl

theorem keeps_files_readEntries : Keeps (fun w => w.files) (World.readEntries file) := by
  unfold World.readEntries
  refine Keeps.bind (fun _ => rfl) fun w => ?_
  split
  · exact .pure _
  · have read : Keeps (fun w => w.files) (World.readFile file) := fun w => rfl
    refine read.bind fun text => Keeps.bind (fun _ => rfl) fun v => ?_
    split
    · exact .pure _
    · exact .pure _
    · exact .throw _

theorem keeps_files_gathered : Keeps (fun w => w.files) (gathered arguments asking echo) := by
  unfold gathered
  split <;> exact fun _ => rfl

/-- Nothing but the last step changes a file. -/
theorem keeps_files_prepared :
    Keeps (fun s => s.world.files) (prepared file keyId arguments asking echo) := by
  apply Keeps.bind (keeps_onWorld keeps_files_readEntries)
  intro m
  apply Keeps.bind (keeps_onClient _)
  intro key
  apply Keeps.bind (keeps_onWorld keeps_files_gathered)
  intro values
  exact Keeps.bind (keeps_onClient _) fun _ => .pure _

/-- Encrypting that fails leaves every file as it was. -/
theorem files_of_encrypt_error {e : Error}
    (failed : (encrypt file keyId arguments asking echo).runOn s = (.error e, t)) :
    t.world.files = s.world.files := by
  have kept : ((prepared file keyId arguments asking echo).runOn s).2.world.files = s.world.files :=
    keeps_files_prepared s
  rw [encrypt_eq, runOn_bind] at failed
  generalize (prepared file keyId arguments asking echo).runOn s = run at failed kept
  rcases run with ⟨_ | p, u⟩
  · cases failed
    exact kept
  · rcases stored_runOn file p.1 p.2 u with ⟨fault, -, ran⟩ | ⟨v, -, ran⟩
    · cases failed.symm.trans ran
      exact kept
    · cases failed.symm.trans ran

/-- With the entries of the file and the values that are given, only a call can fail before the file is
written. -/
theorem prepared_ends {st : Store} (recalls : s.client.Recalls st)
    (free : Cipher.separator ∉ (Client.qualifiedKey st keyId).toList) {m : Mapping}
    (held : s.world.files.HoldsEntries file m) {values : List (String × String)}
    (given : Provides asking arguments s.world.lines values) :
    Ends (· = (values, Document.sealedAll (Client.qualifiedKey st keyId) values m))
      (fun e => ∃ call ∈ [Call.region, .account, .encrypt],
        call ∈ s.client.backend.failing ∧ e = Client.injected call)
      ((prepared file keyId arguments asking echo).runOn s).1 := by
  have read : (onWorld (World.readEntries file)).runOn s = (.ok m, s) := by
    rw [onWorld_runOn, World.readEntries_runOn held]
  have asked := Client.meets_formatKeyId keyId s.client ⟨recalls, rfl⟩
  rw [prepared, runOn_bind_of_ok read, runOn_bind, onClient_runOn]
  generalize (Client.formatKeyId keyId).runOn s.client = run at asked ⊢
  obtain ⟨ends, recalling⟩ := asked
  rcases run with ⟨e | key, c⟩
  · obtain ⟨call, hc, failing, rfl⟩ := ends
    exact ⟨call, List.mem_append_left [Call.encrypt] hc, failing, rfl⟩
  · obtain rfl : key = Client.qualifiedKey st keyId := ends
    obtain ⟨v, gathers, -⟩ := gathered_runOn given echo
    have ran : (onWorld (gathered arguments asking echo)).runOn ⟨s.world, c⟩ =
        (.ok values, ⟨v, c⟩) := by
      rw [onWorld_runOn, gathers]
    have sealed := Document.meets_sealAll free values m c recalling
    dsimp only
    rw [runOn_bind_of_ok ran, runOn_bind, onClient_runOn]
    generalize (Document.sealAll (Client.qualifiedKey st keyId) values m).runOn c = run at sealed ⊢
    obtain ⟨ends, -⟩ := sealed
    rcases run with ⟨e | m', c'⟩
    · exact ⟨.encrypt, by simp, ends⟩
    · exact congrArg (values, ·) ends

/-- How encrypting ends: it fails where a call or the writing does, and otherwise the file is written with
all values sealed. -/
theorem encrypt_ends {st : Store} (recalls : s.client.Recalls st)
    (free : Cipher.separator ∉ (Client.qualifiedKey st keyId).toList) {m : Mapping}
    (held : s.world.files.HoldsEntries file m) {values : List (String × String)}
    (given : Provides asking arguments s.world.lines values) {r : Except Error Unit}
    (ran : (encrypt file keyId arguments asking echo).runOn s = (r, t)) :
    let text := (Value.map (Document.sealedAll (Client.qualifiedKey st keyId) values m)).toText
    (∃ call ∈ [Call.region, .account, .encrypt],
      call ∈ s.client.backend.failing ∧ r = .error (Client.injected call)) ∨
    (∃ fault, s.world.files.write file text = .error fault ∧ r = .error (.file fault)) ∨
    s.world.files.write file text = .ok t.world.files ∧ r = .ok () := by
  intro text
  have ends : Ends (· = (values, _)) _ ((prepared file keyId arguments asking echo).runOn s).1 :=
    prepared_ends recalls free held given
  have kept : ((prepared file keyId arguments asking echo).runOn s).2.world.files = s.world.files :=
    keeps_files_prepared s
  rw [encrypt_eq, runOn_bind] at ran
  generalize (prepared file keyId arguments asking echo).runOn s = run at ran ends kept
  rcases run with ⟨e | p, u⟩
  · obtain ⟨call, hc, failing, rfl⟩ := ends
    cases ran
    exact .inl ⟨call, hc, failing, rfl⟩
  · obtain rfl : p = _ := ends
    have files : u.world.files = s.world.files := kept
    rcases stored_runOn file values _ u with ⟨fault, written, stops⟩ | ⟨v, written, stops⟩
    · cases ran.symm.trans stops
      exact .inr (.inl ⟨fault, files ▸ written, rfl⟩)
    · cases ran.symm.trans stops
      exact .inr (.inr ⟨files ▸ written, rfl⟩)

/-- What encrypting leaves in the file, if it does not fail. -/
theorem written_of_encrypt {st : Store} (recalls : s.client.Recalls st)
    (free : Cipher.separator ∉ (Client.qualifiedKey st keyId).toList) {m : Mapping}
    (held : s.world.files.HoldsEntries file m) {values : List (String × String)}
    (given : Provides asking arguments s.world.lines values)
    (ran : (encrypt file keyId arguments asking echo).runOn s = (.ok (), t)) :
    s.world.files.write file
      (Value.map (Document.sealedAll (Client.qualifiedKey st keyId) values m)).toText =
        .ok t.world.files := by
  rcases encrypt_ends recalls free held given ran with ⟨_, _, _, failed⟩ | ⟨_, _, failed⟩ | ends
  · cases failed
  · cases failed
  · exact ends.1

end

end Session

end Command

end ParamFile
