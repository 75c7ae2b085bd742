import ParamFile.Command.Arguments

/-!
# Invocations

What a command line asks for: a job with its options, and how to reach the store. Some options
exclude each other, and asking for values may be shown only where there is asking; words that break
these rules do not fit, like words that are no option at all.
-/

namespace ParamFile.Command

/-! ## Jobs -/

/-- What the command line says about asking for inputs; the settings say the rest. -/
structure Interaction where
  asking : Option Bool := none
  echo : Option Bool := none
  deriving DecidableEq, Repr, Inhabited

/-- Documents, and the values of inputs that the command line supplies for them. -/
structure Material where
  files : List String
  /-- Names with values in the clear. -/
  inputs : List (String × String) := []
  /-- Names with ciphertexts. -/
  secureInputs : List (String × String) := []
  interaction : Interaction := {}
  deriving DecidableEq, Repr, Inhabited

/-- How documents are pushed. -/
structure PushOptions where
  /-- Whether stored parameters are overwritten; as the settings say if there is no word on it. -/
  overwrite : Option Bool := none
  /-- Whether the paths to flush are deleted first. -/
  flush : Bool := false
  /-- Whether the parameters are only shown. -/
  dryRun : Bool := false
  deriving DecidableEq, Repr, Inhabited

/-- What to do. -/
inductive Job where
  | push (material : Material) (options : PushOptions)
  | delete (material : Material)
  | download (paths : List String) (output : Option String) (reencrypt : Bool)
      (reencryptKey : Option String)
  /-- The values behind the paths are arguments, or are asked for; then they may be shown. -/
  | encrypt (file keyId : String) (arguments : List String) (asking echo : Bool)
  | decrypt (file : String)
  | diff (material : Material)
  | validate (files : List String)
  deriving DecidableEq, Repr, Inhabited

/-- The files that a job reads or writes. -/
def Job.files : Job → List String
  | .push m _ | .delete m | .diff m => m.files
  | .download _ output _ _ => output.toList
  | .encrypt file .. | .decrypt file => [file]
  | .validate files => files

/-- What a command line asks for. -/
structure Invocation where
  backend : String := "aws"
  profile : Option String := none
  region : Option String := none
  endpointUrl : Option String := none
  job : Job
  deriving DecidableEq, Repr, Inhabited

/-! ## Grammar -/

/-- The options that may stand anywhere. -/
def sharedOptions : List OptionSpec :=
  [⟨"backend", none, .value⟩, ⟨"profile", none, .value⟩, ⟨"region", none, .value⟩,
    ⟨"endpoint-url", none, .value⟩, ⟨"verbose", some 'v', .count⟩]

def flags (names : List String) : List OptionSpec := names.map fun name => { name }

/-- The options about asking for inputs. -/
def interactionOptions : List OptionSpec := flags ["echo", "no-echo", "prompt", "no-prompt"]

/-- The option that supplies a value in the clear. -/
def inputOption : OptionSpec := ⟨"input", none, .pair⟩

def secureInputOption : OptionSpec := ⟨"secure-input", none, .pair⟩

/-- The words that this command line takes. -/
def grammar : Grammar where
  shared := sharedOptions
  subcommands :=
    [("push", {
        options := inputOption :: secureInputOption :: interactionOptions ++
          flags ["overwrite", "no-overwrite", "delete", "dry-run"]
        more := some true }),
      ("delete", { options := inputOption :: interactionOptions, more := some true }),
      ("download", {
        options := [⟨"output", some 'o', .path⟩, ⟨"no-reencrypt", none, .flag⟩,
          ⟨"reencrypt-key", none, .value⟩]
        more := some false }),
      ("encrypt", {
        options := flags ["prompt", "echo"]
        positionals := [("file", true), ("key_id", false)]
        more := some false }),
      ("decrypt", { positionals := [("file", true)] }),
      ("diff", {
        options := inputOption :: secureInputOption :: interactionOptions, more := some true }),
      ("validate", { more := some true })]

/-! ## Reading -/

/-- What two options that exclude each other say. -/
def choice (g : Given) (yes no : String) : Except Stop (Option Bool) :=
  match g.has yes, g.has no with
  | true, true => .error .usage
  | true, false => .ok (some true)
  | false, true => .ok (some false)
  | false, false => .ok none

/-- The documents with what is supplied for them. -/
def material (g : Given) : Except Stop Material := do
  let echo ← choice g "echo" "no-echo"
  let asking ← choice g "prompt" "no-prompt"
  return ⟨g.values, g.pairs "input", g.pairs "secure-input", ⟨asking, echo⟩⟩

/-- The job that a subcommand means with what was given behind it. -/
def Job.ofGiven (name : String) (g : Given) : Except Stop Job :=
  match name, g.values with
  | "push", _ => do
    let overwrite ← choice g "overwrite" "no-overwrite"
    return .push (← material g) ⟨overwrite, g.has "delete", g.has "dry-run"⟩
  | "delete", _ => do return .delete (← material g)
  | "download", paths =>
    if g.has "no-reencrypt" && g.has "reencrypt-key" then .error .usage
    else .ok (.download paths (g.value? "output") (!g.has "no-reencrypt") (g.value? "reencrypt-key"))
  | "encrypt", file :: keyId :: arguments =>
    if g.has "echo" && !g.has "prompt" then .error .usage
    else .ok (.encrypt file keyId arguments (g.has "prompt") (g.has "echo"))
  | "decrypt", [file] => .ok (.decrypt file)
  | "diff", _ => do return .diff (← material g)
  | "validate", files => .ok (.validate files)
  | _, _ => .error .usage

/-- What the words of a command line ask for. An option that may stand anywhere counts as given behind
the subcommand if it is given on both sides. -/
def Invocation.ofWords (words : List String) : Except Stop Invocation := do
  let (before, name, behind) ← grammar.read words
  let job ← Job.ofGiven name behind
  let shared (option : String) := (behind.value? option).orElse fun _ => before.value? option
  let base : Invocation := { job }
  return { base with
    backend := (shared "backend").getD base.backend
    profile := shared "profile"
    region := shared "region"
    endpointUrl := shared "endpoint-url" }

end ParamFile.Command
