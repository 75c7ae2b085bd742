import ParamFile.Command.Files
import ParamFile.Prompter

/-!
# The surroundings of a command

A command reads and writes files, takes lines from its standard input, and prints to two channels: what
it was asked for goes to the output, and everything else to the other one. Prompts and messages are
printed there, too, and answers are taken from the lines (`World.answering`).
-/

namespace ParamFile.Command

/-- Where text is printed. -/
inductive Channel where
  | output
  | errors
  deriving DecidableEq, Repr, Inhabited

/-- The surroundings of a command. -/
structure World where
  files : Files := {}
  /-- The lines that can still be read. -/
  lines : List String := []
  /-- What has been printed, the last first. -/
  printed : List (Channel × String) := []
  deriving Inhabited

namespace World

/-- What has been printed to a channel. -/
def text (w : World) (channel : Channel) : String :=
  String.join ((w.printed.reverse.filter (·.1 == channel)).map (·.2))

def print (channel : Channel) (text : String) : Action World Unit :=
  modify fun w => { w with printed := (channel, text) :: w.printed }

def printLine (channel : Channel) (text : String) : Action World Unit := print channel (text ++ "\n")

def progress (verb subject : String) : Action World Unit :=
  printLine .errors ("→ " ++ verb ++ " " ++ subject ++ "...")

def readFile (path : String) : Action World String := do
  Action.ofExcept (((← get).files.read path).mapError .file)

def writeFile (path text : String) : Action World Unit := do
  let files ← Action.ofExcept (((← get).files.write path text).mapError .file)
  modify fun w => { w with files }

/-- How something that a prompter shows is printed. -/
def printedOf : Shown → Channel × String
  | .prompt text _ => (.errors, text)
  | .message text => (.errors, text ++ "\n")

/-- Does something that asks for answers; the lines are the answers. -/
def answering {α : Type} (a : Action Prompter α) : Action World α :=
  a.onPart (fun w => { answers := w.lines, isScript := false }) fun p w =>
    { w with lines := p.answers, printed := p.log.map printedOf ++ w.printed }

end World

/-- The lines of a text without the line ends, to which carriage returns belong. -/
def linesOf (text : String) : List String :=
  (go [] text.toList).map fun line => .ofList (Text.dropEnd (fun c => c == '\n' || c == '\r') line)
where
  /-- The remaining lines; the first one begins with `reversed`. -/
  go (reversed : List Char) : List Char → List (List Char)
    | [] => if reversed.isEmpty then [] else [reversed.reverse]
    | c :: rest => if c = '\n' then reversed.reverse :: go [] rest else go (c :: reversed) rest

end ParamFile.Command
