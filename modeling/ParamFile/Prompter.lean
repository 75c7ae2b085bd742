import ParamFile.Error
import ParamFile.Text.Blank

/-!
# Asking for answers

A prompter shows prompts and messages and gives one answer for each prompt, the next of those that it
has. `runOn_ask_cons` says that asking takes exactly one answer.
-/

namespace ParamFile

/-- Something that was shown. -/
inductive Shown where
  /-- A prompt, and whether the answer may be seen. -/
  | prompt (text : String) (echo : Bool)
  | message (text : String)
  deriving DecidableEq, Repr

/-- The answers that are left, and what has been shown so far. -/
structure Prompter where
  answers : List String := []
  /-- What has been shown, the last first. -/
  log : List Shown := []
  /-- Whether the answers are a script, rather than lines of a terminal. -/
  isScript : Bool := true
  deriving Repr, Inhabited

namespace Prompter

def exhaustion (p : Prompter) (prompt : String) : PromptFault :=
  if p.isScript then .noAnswer (.ofList (Text.dropEnd Text.isBlank prompt.toList)) else .endOfInput

def ask (name prompt : String) (echo : Bool) : Action Prompter String := do
  modify fun p => { p with log := .prompt prompt echo :: p.log }
  let p ← get
  match p.answers with
  | answer :: rest =>
    set { p with answers := rest }
    return answer
  | [] => throw (.promptFailed name (p.exhaustion prompt))

def tell (text : String) : Action Prompter Unit :=
  modify fun p => { p with log := .message text :: p.log }

def shown (p : Prompter) : List Shown := p.log.reverse

def prompts (p : Prompter) : List (String × Bool) :=
  p.shown.filterMap fun
    | .prompt text echo => some (text, echo)
    | .message _ => none

def messages (p : Prompter) : List String :=
  p.shown.filterMap fun
    | .message text => some text
    | .prompt .. => none

/-- Asking takes the first answer and shows the prompt. -/
theorem runOn_ask_cons (name prompt : String) (echo : Bool) (p : Prompter) (a : String)
    (rest : List String) (h : p.answers = a :: rest) :
    (ask name prompt echo).runOn p =
      (.ok a, { p with answers := rest, log := .prompt prompt echo :: p.log }) := by
  obtain ⟨answers, log, isScript⟩ := p
  cases h
  rfl

end Prompter

end ParamFile
