import ParamFile.Proofs.Given
import ParamFile.Proofs.Loaded

/-!
# Asking for the value of an input

The answers that are left decide everything that happens when an input is asked for: the text they give
and the answers behind it (`Input.gathered?`), what is shown (`Input.dialog`), and whether the text is
accepted (`Input.settled`). The run of a question is put together from these (`Input.ask_runOn`).

A question whose text is accepted takes just the answers that make up the text, and the input reads as that
text afterwards. One that fails leaves the input as it was (`Input.ask_exact`).
-/

namespace ParamFile.Input

open ParamFile.Action

/-! ## What answers give -/

/-- The text that some answers give, and the answers behind it; none if they do not suffice. A list is
given by a single answer with commas or none, or by all answers up to an empty one. -/
def gathered? (i : Input) (answers : List String) : Option (String × List String) :=
  match answers with
  | [] => none
  | first :: rest =>
    if i.kind = .stringList ∧ first ≠ "" ∧ ',' ∉ first.toList then
      match answers.dropWhile (· ≠ "") with
      | [] => none
      | _ :: left => some (",".intercalate (answers.takeWhile (· ≠ "")), left)
    else some (first, rest)

/-- The answers that are not taken. -/
def unread (i : Input) (answers : List String) : List String :=
  ((i.gathered? answers).map (·.2)).getD []

def lastPrompt (i : Input) : String :=
  match i.kind with
  | .stringList => itemPrompt
  | _ => i.promptText

def countItems : List String → Nat
  | [] => 1
  | first :: rest =>
    if first ≠ "" ∧ ',' ∉ first.toList then (rest.takeWhile (· ≠ "")).length + 2 else 1

/-- What is shown when the value is asked for. -/
def dialog (i : Input) (echo : Bool) (answers : List String) : List Shown :=
  match i.kind with
  | .stringList =>
    .message i.listMessage :: List.replicate (countItems answers) (.prompt itemPrompt echo)
  | _ => [.prompt i.promptText echo]

/-- The value that a text means, or why it is none. -/
def settled (i : Input) (text : String) : Except Error String :=
  match text.isEmpty, i.default with
  | true, some default => .ok default
  | _, _ => (i.check text).map fun _ => text

/-- What answers lead to. -/
def outcome (i : Input) (p : Prompter) : Except Error String :=
  match i.gathered? p.answers with
  | some (text, _) => i.settled text
  | none => .error (.promptFailed i.name (p.exhaustion i.lastPrompt))

/-- The prompter behind a question. -/
def behind (i : Input) (echo : Bool) (p : Prompter) : Prompter := { p with
  answers := i.unread p.answers
  log := (i.dialog echo p.answers).reverse ++ p.log }

/-! ## Runs -/

def gather (i : Input) (echo : Bool) : Action Prompter String :=
  match i.kind with
  | .stringList => i.askList echo
  | _ => i.askText echo

theorem askValue_eq (i : Input) (echo : Option Bool) :
    i.askValue echo = i.gather (echo.getD (!i.kind.isSecure)) >>= fun text =>
      Action.ofExcept (i.settled text) := by
  have tail : ∀ text : String, (match text.isEmpty, i.default with
      | true, some default => pure default
      | _, _ => do
        Action.ofExcept (i.check text)
        pure text : Action Prompter String) = Action.ofExcept (i.settled text) := by
    intro text
    unfold settled
    split
    · rfl
    · cases i.check text <;> rfl
  unfold askValue gather
  cases i.kind <;> exact bind_congr tail

def askedItems (echo : Bool) (count : Nat) (left : List String) (p : Prompter) : Prompter := { p with
  answers := left
  log := List.replicate count (.prompt itemPrompt echo) ++ p.log }

/-- Items are read up to the first empty answer. -/
theorem askItems_runOn (i : Input) (echo : Bool) (fuel : Nat) (p : Prompter)
    (enough : p.answers.length < fuel) :
    (i.askItems echo fuel).runOn p =
      (match p.answers.dropWhile (· ≠ "") with
        | [] => .error (.promptFailed i.name (p.exhaustion itemPrompt))
        | _ :: _ => .ok (p.answers.takeWhile (· ≠ "")),
      askedItems echo ((p.answers.takeWhile (· ≠ "")).length + 1)
        (p.answers.dropWhile (· ≠ "")).tail p) := by
  induction fuel generalizing p with
  | zero => omega
  | succ fuel ih =>
    obtain ⟨answers, log, isScript⟩ := p
    cases answers with
    | nil => rfl
    | cons item rest =>
      rw [askItems, runOn_bind_of_ok (Prompter.runOn_ask_cons _ _ _ _ item rest rfl)]
      by_cases blank : item = ""
      · subst blank
        rfl
      · have shown : item.isEmpty = false := by simpa using blank
        simp only [List.length_cons, Nat.add_lt_add_iff_right] at enough
        have later := ih ⟨rest, .prompt itemPrompt echo :: log, isScript⟩ enough
        simp only [shown, Bool.false_eq_true, if_false, runOn_bind, later]
        simp only [List.dropWhile_cons, List.takeWhile_cons, blank, decide_true, ne_eq,
          not_false_eq_true, if_true, List.length_cons, askedItems]
        rw [List.replicate_succ' (n := _ + 1), List.append_assoc]
        cases rest.dropWhile (· ≠ "") <;> rfl

theorem askText_runOn (i : Input) (echo : Bool) (p : Prompter) (single : i.kind ≠ .stringList) :
    (i.askText echo).runOn p =
      (match i.gathered? p.answers with
        | some (text, _) => .ok text
        | none => .error (.promptFailed i.name (p.exhaustion i.promptText)),
      { p with
        answers := i.unread p.answers
        log := .prompt i.promptText echo :: p.log }) := by
  obtain ⟨answers, log, isScript⟩ := p
  cases answers with
  | nil => rfl
  | cons first rest =>
    have all : i.gathered? (first :: rest) = some (first, rest) := if_neg fun h => single h.1
    simp only [unread, all]
    rfl

theorem askList_runOn (i : Input) (echo : Bool) (p : Prompter) (list : i.kind = .stringList) :
    (i.askList echo).runOn p =
      (match i.gathered? p.answers with
        | some (text, _) => .ok text
        | none => .error (.promptFailed i.name (p.exhaustion itemPrompt)),
      { p with
        answers := i.unread p.answers
        log := List.replicate (countItems p.answers) (.prompt itemPrompt echo) ++
          .message i.listMessage :: p.log }) := by
  obtain ⟨answers, log, isScript⟩ := p
  cases answers with
  | nil => rfl
  | cons first rest =>
    have told : (Prompter.tell i.listMessage).runOn ⟨first :: rest, log, isScript⟩ =
        (.ok (), ⟨first :: rest, .message i.listMessage :: log, isScript⟩) := rfl
    rw [askList, runOn_bind_of_ok told,
      runOn_bind_of_ok (Prompter.runOn_ask_cons _ _ _ _ first rest rfl)]
    by_cases items : first ≠ "" ∧ ',' ∉ first.toList
    · have more : (first.isEmpty || first.toList.contains ',') = false := by simpa using items
      rw [more, if_neg Bool.false_ne_true, runOn_bind_of_ok (runOn_get _), runOn_bind,
        i.askItems_runOn echo (rest.length + 1) _ (Nat.lt_succ_self _)]
      have listed : i.gathered? (first :: rest) =
          match rest.dropWhile (· ≠ "") with
          | [] => none
          | _ :: left => some (",".intercalate (first :: rest.takeWhile (· ≠ "")), left) := by
        simp [gathered?, list, items]
      have count : countItems (first :: rest) = (rest.takeWhile (· ≠ "")).length + 1 + 1 := if_pos items
      -- the first item was asked for before the others
      rw [unread, listed, count, List.replicate_succ' (n := _ + 1), List.append_assoc, askedItems]
      cases rest.dropWhile (· ≠ "") <;> rfl
    · have one : (first.isEmpty || first.toList.contains ',') = true := by
        simpa [Classical.or_iff_not_imp_left] using items
      have all : i.gathered? (first :: rest) = some (first, rest) := if_neg fun h => items h.2
      simp only [unread, all, one, if_true, countItems, items, if_false]
      rfl

theorem gather_runOn (i : Input) (echo : Bool) (p : Prompter) :
    (i.gather echo).runOn p =
      (match i.gathered? p.answers with
        | some (text, _) => .ok text
        | none => .error (.promptFailed i.name (p.exhaustion i.lastPrompt)),
      i.behind echo p) := by
  unfold gather behind dialog lastPrompt
  split
  · rename_i list
    rw [i.askList_runOn echo p list, List.reverse_cons, List.append_assoc, List.reverse_replicate]
    rfl
  · rename_i single
    rw [i.askText_runOn echo p single]
    rfl

theorem askValue_runOn (i : Input) (echo : Option Bool) (p : Prompter) :
    (i.askValue echo).runOn p = (i.outcome p, i.behind (echo.getD (!i.kind.isSecure)) p) := by
  rw [askValue_eq, runOn_bind, gather_runOn]
  unfold outcome
  cases i.gathered? p.answers <;> rfl

theorem ask_runOn (i : Input) (echo : Option Bool) (p : Prompter) :
    (i.ask echo).runOn p =
      ((i.outcome p).map i.setTyped, i.behind (echo.getD (!i.kind.isSecure)) p) := by
  rw [ask, runOn_bind, askValue_runOn]
  cases i.outcome p <;> rfl

/-! ## What is accepted -/

/-- The answers give this text, and leave some behind. -/
inductive Gathers (i : Input) : (answers : List String) → (text : String) → (left : List String) → Prop
  | single {text : String} {left : List String}
      (whole : i.kind = .stringList → text = "" ∨ ',' ∈ text.toList) :
      Gathers i (text :: left) text left
  | items {first : String} {items left : List String} (list : i.kind = .stringList)
      (filled : ∀ item ∈ first :: items, item ≠ "") (plain : ',' ∉ first.toList) :
      Gathers i (first :: items ++ "" :: left) (",".intercalate (first :: items)) left

/-- The text has a match of the pattern, if there is one. -/
def Passes (i : Input) (text : String) : Prop :=
  ∀ pattern, i.pattern = some pattern → Pattern.occurs pattern text = .ok true

/-- The answers give this value, and leave some behind: the default, or a text that passes. -/
inductive Takes (i : Input) : (answers : List String) → (value : String) → (left : List String) → Prop
  | default {value : String} {left : List String} (declared : i.default = some value) :
      Takes i ("" :: left) value left
  | text {answers : List String} {text : String} {left : List String}
      (gathered : i.Gathers answers text left)
      (filled : answers.head? = some "" → i.default = none) (passes : i.Passes text) :
      Takes i answers text left

/-- The answers give no value, and why. -/
inductive Refuses (i : Input) (p : Prompter) : Error → Prop
  | short (h : ∀ text left, ¬ i.Gathers p.answers text left) :
      Refuses i p (.promptFailed i.name (p.exhaustion i.lastPrompt))
  | mismatch {text : String} {left : List String} {pattern : String}
      (gathered : i.Gathers p.answers text left)
      (filled : p.answers.head? = some "" → i.default = none) (hp : i.pattern = some pattern)
      (h : Pattern.occurs pattern text = .ok false) : Refuses i p (.invalidInput i.name pattern)
  | invalid {text : String} {left : List String} {pattern : String} {fault : Pattern.Fault}
      (gathered : i.Gathers p.answers text left)
      (filled : p.answers.head? = some "" → i.default = none) (hp : i.pattern = some pattern)
      (h : Pattern.occurs pattern text = .error fault) : Refuses i p (.pattern fault)

section
variable {i : Input} {p : Prompter} {answers left : List String} {text value : String} {e : Error}

theorem Gathers.gathered? (h : i.Gathers answers text left) :
    i.gathered? answers = some (text, left) := by
  cases h with
  | single whole => exact if_neg fun h => (whole h.1).elim h.2.1 h.2.2
  | @items first items _ list filled plain =>
    have all : ∀ item ∈ first :: items, decide (item ≠ "") = true := by simpa using filled
    have more : i.kind = .stringList ∧ first ≠ "" ∧ ',' ∉ first.toList :=
      ⟨list, filled first List.mem_cons_self, plain⟩
    show (if _ then _ else _) = _
    rw [if_pos more, List.dropWhile_append_of_pos all, List.takeWhile_append_of_pos all]
    simp

/-- The text is what a list of answers gives. -/
theorem gathers_of_gathered? (h : i.gathered? answers = some (text, left)) :
    i.Gathers answers text left := by
  cases answers with
  | nil => cases h
  | cons first rest =>
    by_cases more : i.kind = .stringList ∧ first ≠ "" ∧ ',' ∉ first.toList
    · rw [Input.gathered?, if_pos more] at h
      have cut := List.takeWhile_append_dropWhile (p := (· ≠ "")) (l := first :: rest)
      have closing := List.head?_dropWhile_not (· ≠ "") (first :: rest)
      have items : ∀ item ∈ (first :: rest).takeWhile (· ≠ ""), item ≠ "" := fun item hm => by
        simpa using List.all_eq_true.1 List.all_takeWhile item hm
      have take : (first :: rest).takeWhile (· ≠ "") = first :: rest.takeWhile (· ≠ "") := by
        simp [more.2.1]
      split at h
      · cases h
      · rename_i blank left drop
        cases h
        rw [drop] at cut closing
        have blank : blank = "" := by simpa using closing
        rw [take] at items cut ⊢
        rw [← cut, blank]
        exact .items more.1 items more.2.2
    · rw [Input.gathered?, if_neg more] at h
      cases h
      exact .single fun list => by
        by_contra plain
        rw [not_or] at plain
        exact more ⟨list, plain⟩

/-- Only an empty first answer gives an empty text. -/
theorem Gathers.blank_iff (h : i.Gathers answers text left) :
    text = "" ↔ answers.head? = some "" := by
  cases h with
  | single => simp
  | @items first items _ _ filled =>
    have some : first ≠ "" := filled first List.mem_cons_self
    have joined : ",".intercalate (first :: items) ≠ "" := by
      cases items <;> simp [String.intercalate_cons_cons, some]
    simp [joined, some]

theorem settled_default (declared : i.default = some value) : i.settled "" = .ok value := by
  rw [settled, declared]
  rfl

theorem settled_filled (filled : text = "" → i.default = none) :
    i.settled text = (i.check text).map fun _ => text := by
  unfold settled
  split
  · rename_i value empty declared
    rw [filled (String.isEmpty_iff.1 empty)] at declared
    cases declared
  · rfl

theorem check_passes (passes : i.Passes text) : i.check text = .ok () := by
  unfold check
  split
  · rfl
  · rename_i pattern hp
    rw [passes pattern hp]

theorem check_pattern {pattern : String} (hp : i.pattern = some pattern) :
    i.check text = match Pattern.occurs pattern text with
      | .error fault => .error (.pattern fault)
      | .ok true => .ok ()
      | .ok false => .error (.invalidInput i.name pattern) := by
  rcases h : Pattern.occurs pattern text with fault | _ | _ <;> simp only [check, hp, h]

theorem outcome_of_gathers (gathered : i.Gathers p.answers text left) :
    i.outcome p = i.settled text := by
  rw [outcome, gathered.gathered?]

theorem unread_of_gathers (gathered : i.Gathers answers text left) : i.unread answers = left := by
  rw [unread, gathered.gathered?]
  rfl

theorem Takes.gathered (h : i.Takes answers value left) : ∃ text, i.Gathers answers text left := by
  cases h with
  | default => exact ⟨"", .single fun _ => .inl rfl⟩
  | text gathered => exact ⟨_, gathered⟩

theorem Takes.outcome (h : i.Takes p.answers value left) :
    i.outcome p = .ok value ∧ i.unread p.answers = left := by
  generalize eq : p.answers = answers at h
  cases h with
  | default declared =>
    have gathered : i.Gathers ("" :: left) "" left := .single fun _ => .inl rfl
    exact ⟨by rw [outcome_of_gathers (eq ▸ gathered), settled_default declared],
      unread_of_gathers gathered⟩
  | text gathered filled passes =>
    refine ⟨?_, unread_of_gathers gathered⟩
    rw [outcome_of_gathers (eq ▸ gathered), settled_filled fun blank => filled (gathered.blank_iff.1 blank),
      check_passes passes]
    rfl

theorem Refuses.outcome (h : i.Refuses p e) : i.outcome p = .error e := by
  cases h with
  | short none =>
    unfold Input.outcome
    split
    · rename_i text left gathered
      exact absurd (gathers_of_gathered? gathered) (none text left)
    · rfl
  | mismatch gathered filled hp h | invalid gathered filled hp h =>
    rw [outcome_of_gathers gathered, settled_filled fun blank => filled (gathered.blank_iff.1 blank),
      check_pattern hp, h]
    rfl

/-- Answers give a value, or there is a reason why they do not. -/
theorem takes_or_refuses (i : Input) (p : Prompter) :
    (∃ value left, i.Takes p.answers value left) ∨ ∃ e, i.Refuses p e := by
  cases given : i.gathered? p.answers with
  | none =>
    refine .inr ⟨_, .short fun text left gathered => ?_⟩
    rw [gathered.gathered?] at given
    cases given
  | some gathered =>
    obtain ⟨text, left⟩ := gathered
    have gathered := gathers_of_gathered? given
    by_cases filled : p.answers.head? = some "" → i.default = none
    · cases hp : i.pattern with
      | none => exact .inl ⟨text, left, .text gathered filled fun pattern h => by cases hp.symm.trans h⟩
      | some pattern =>
        rcases h : Pattern.occurs pattern text with fault | _ | _
        · exact .inr ⟨_, .invalid gathered filled hp h⟩
        · exact .inr ⟨_, .mismatch gathered filled hp h⟩
        · refine .inl ⟨text, left, .text gathered filled fun pattern' h' => ?_⟩
          cases hp.symm.trans h'
          exact h
    · rw [Classical.not_imp, ← ne_eq, Option.ne_none_iff_exists'] at filled
      obtain ⟨blank, value, declared⟩ := filled
      obtain ⟨rest, eq⟩ := List.head?_eq_some_iff.1 blank
      exact .inl ⟨value, rest, eq ▸ .default declared⟩

theorem outcome_eq_ok : i.outcome p = .ok value ↔ ∃ left, i.Takes p.answers value left := by
  constructor
  · intro h
    rcases takes_or_refuses i p with ⟨value', left, takes⟩ | ⟨e, refuses⟩
    · rw [takes.outcome.1] at h
      cases h
      exact ⟨left, takes⟩
    · rw [refuses.outcome] at h
      cases h
  · exact fun ⟨_, takes⟩ => takes.outcome.1

theorem outcome_eq_error : i.outcome p = .error e ↔ i.Refuses p e := by
  constructor
  · intro h
    rcases takes_or_refuses i p with ⟨value, left, takes⟩ | ⟨e', refuses⟩
    · rw [takes.outcome.1] at h
      cases h
    · rw [refuses.outcome] at h
      cases h
      exact refuses
  · exact Refuses.outcome

end

/-! ## What prompts take -/

def isPrompt : Shown → Bool
  | .prompt .. => true
  | .message _ => false

theorem length_prompts (p : Prompter) : p.prompts.length = p.log.countP isPrompt := by
  rw [Prompter.prompts, List.length_filterMap_eq_countP, Prompter.shown, List.countP_reverse]
  refine List.countP_congr fun s _ => ?_
  cases s <;> rfl

/-- Each prompt takes one answer. -/
theorem Gathers.prompts {i : Input} {p : Prompter} {text : String} {left : List String}
    (gathered : i.Gathers p.answers text left) (echo : Bool) :
    (i.behind echo p).prompts.length + left.length = p.prompts.length + p.answers.length := by
  have shown : (i.dialog echo p.answers).countP isPrompt + left.length = p.answers.length := by
    generalize p.answers = answers at gathered
    cases gathered with
    | @single text left whole =>
      unfold dialog
      split
      · rename_i list
        have one : countItems (text :: left) = 1 := if_neg fun h => (whole list).elim h.1 h.2
        rw [one, List.length_cons, Nat.add_comm]
        rfl
      · rw [List.length_cons, Nat.add_comm]
        rfl
    | @items first items left list filled plain =>
      have some : first ≠ "" ∧ ',' ∉ first.toList := ⟨filled first List.mem_cons_self, plain⟩
      have all : ∀ item ∈ items, decide (item ≠ "") = true := fun item hm => by
        simpa using filled item (List.mem_cons_of_mem _ hm)
      have count : countItems (first :: (items ++ "" :: left)) = items.length + 2 := by
        rw [countItems, if_pos some, List.takeWhile_append_of_pos all]
        simp
      rw [dialog, list]
      simp [count, isPrompt, List.countP_replicate]
      omega
  rw [length_prompts, length_prompts, behind, List.countP_append, List.countP_reverse]
  omega

/-! ## Inputs that can be there -/

/-- The inputs that there are: new ones, and what comes of them by uses and by merging. -/
inductive Reached : Input → Prop
  | new {i : Input} (unset : i.isSet = false) : Reached i
  | use {i : Input} (h : Reached i) (u : Use) : Reached (i.use u)
  | merged {name : String} {a b c : Input} (ha : Reached a) (h : merge name a b = .ok c) : Reached c

theorem Stored.setTyped {i : Input} (h : i.Stored) (value : String) : (i.setTyped value).Stored := by
  unfold Input.setTyped
  split
  · rename_i secure
    intro exposed
    cases secure.symm.trans exposed
  · exact h

/-- Only a ciphertext is kept in plain text behind a read. -/
theorem Stored.keeping {i : Input} (h : i.Stored) (keyId : Option String) (value : String) :
    (i.keeping keyId value).Stored := by
  unfold Input.keeping
  split
  · rename_i decrypted
    intro exposed
    simp [(h exposed).1] at decrypted
  · exact h

theorem Reached.stored {i : Input} (h : Reached i) : i.Stored := by
  induction h with
  | new unset =>
    simp only [isSet, Bool.or_eq_false_iff, Option.isSome_eq_false_iff, Option.isNone_iff_eq_none] at unset
    exact fun _ => ⟨unset.1.2, unset.2⟩
  | @use i _ u ih =>
    cases u with
    | give value encrypted => exact ih.setValue value encrypted
    | ask prompter echo =>
      rw [use_ask]
      split
      · exact ih.setTyped _
      · exact ih
    | read client keyId =>
      rw [use_read]
      split
      · exact ih.keeping keyId _
      · exact ih
  | merged _ h ih => exact ih.merge h

theorem value_setTyped {i : Input} (stored : i.Stored) (text : String) (c : Client) :
    (∀ key, ((i.setTyped text).value (some key)).runOn c = (.ok text, c)) ∧
      (i.kind.isSecure = false → ((i.setTyped text).value none).runOn c = (.ok text, c)) := by
  unfold setTyped value
  cases secure : i.kind.isSecure with
  | true => exact ⟨fun _ => rfl, fun h => by cases h⟩
  | false =>
    obtain ⟨ciphertext, typed⟩ := stored secure
    simp [ciphertext, typed, secure]

/-- A question is answered exactly if the answers give the default or a text that passes. It takes the answers
that the text is made of, one for each prompt, and what was typed in is what readers get. If it is not
answered, the input stays as it was; then the answers run out, or the text has no match of the pattern, or the
pattern is none. -/
theorem ask_exact {i : Input} (reached : Reached i) (p : Prompter) (echo : Option Bool) :
    (((i.ask echo).runOn p).1.isOk = true ↔ ∃ text left, i.Takes p.answers text left) ∧
    (∀ text left, i.Takes p.answers text left →
      ∃ q, (i.ask echo).runOn p = (.ok (i.use (.ask p echo)), q) ∧ q.answers = left ∧
        q.prompts.length + left.length = p.prompts.length + p.answers.length ∧
        (i.use (.ask p echo)).isSet = true ∧
        ∀ c, (∀ key, ((i.use (.ask p echo)).value (some key)).runOn c = (.ok text, c)) ∧
          (i.kind.isSecure = false → ((i.use (.ask p echo)).value none).runOn c = (.ok text, c))) ∧
    (∀ e, ((i.ask echo).runOn p).1 = .error e ↔ i.Refuses p e) ∧
    (((i.ask echo).runOn p).1.isOk = false → i.use (.ask p echo) = i) := by
  have run := ask_runOn i echo p
  rw [run, use_ask, askValue_runOn]
  refine ⟨?_, fun text left takes => ?_, fun e => ?_, fun failed => ?_⟩
  · cases value : i.outcome p with
    | ok text =>
      obtain ⟨left, takes⟩ := outcome_eq_ok.1 value
      exact ⟨fun _ => ⟨text, left, takes⟩, fun _ => rfl⟩
    | error e =>
      refine ⟨(by cases ·), fun ⟨text, left, takes⟩ => ?_⟩
      rw [takes.outcome.1] at value
      cases value
  · obtain ⟨value, unread⟩ := takes.outcome
    obtain ⟨_, gathered⟩ := takes.gathered
    simp only [value]
    exact ⟨_, rfl, unread, gathered.prompts _, (i.ready_setTyped text).1,
      value_setTyped reached.stored text⟩
  · rw [← outcome_eq_error]
    cases i.outcome p <;> simp [Except.map]
  · cases value : i.outcome p with
    | ok text =>
      rw [value] at failed
      cases failed
    | error e => rfl

/-- A list with a pattern that was given a value before. -/
def tags : Input :=
  use { name := "Tags", kind := .stringList, pattern := some "^[a-z,]+$", default := some "none" }
    (.give "old" none)

/-- Two items and the empty answer behind them, and one answer too many. -/
def listed : Prompter := { answers := ["a", "b", "", "c"] }

/-- The two items replace the value, and the last answer is left. -/
theorem ask_exact_list :
    Reached tags ∧ tags.Takes listed.answers "a,b" ["c"] ∧
    ((tags.use (.ask listed none)).value none).runOn {} = (.ok "a,b", {}) := by
  have reached : Reached tags := .use (.new rfl) _
  have passes : tags.Passes "a,b" := by
    intro pattern h
    cases h
    decide +kernel
  have gathered : tags.Gathers listed.answers "a,b" ["c"] :=
    @Gathers.items tags "a" ["b"] ["c"] rfl (by decide) (by decide)
  have takes : tags.Takes listed.answers "a,b" ["c"] := .text gathered (by decide) passes
  obtain ⟨q, -, -, -, -, reads⟩ := (ask_exact reached listed none).2.1 "a,b" ["c"] takes
  exact ⟨reached, takes, (reads {}).2 rfl⟩

end ParamFile.Input
