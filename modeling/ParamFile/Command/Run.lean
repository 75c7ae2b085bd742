import ParamFile.Client.Diff
import ParamFile.Client.Write
import ParamFile.Command.Invocation
import ParamFile.Command.World
import ParamFile.Document.Resolved
import ParamFile.Document.Sealed
import ParamFile.Settings
import ParamFile.Yaml.Printer

/-!
# Running commands

A command line is read, then the settings, then the job is done; every job but the one that only checks
documents connects to the store before it reads a file. The first error ends the run: it is
printed with what to do about it, and what was done before it stays done. `Outcome.code` is 0 after a
run without error, 1 after one that an error ended, and 2 if the words of the command line do not fit.
-/

namespace ParamFile.Command

open Yaml

/-- What a job works on once it is connected. -/
structure Session where
  world : World
  client : Client

namespace Session

def onWorld {α : Type} (a : Action World α) : Action Session α :=
  a.onPart (·.world) fun w s => { s with world := w }

def onClient {α : Type} (a : ClientM α) : Action Session α :=
  a.onPart (·.client) fun c s => { s with client := c }

/-- Runs a session with a client that is given up at its end. -/
def start {α : Type} (client : Client) (a : Action Session α) : Action World α :=
  ExceptT.mk fun world =>
    let (r, s) := a.runOn ⟨world, client⟩
    (r, s.world)

end Session

/-! ## Settings -/

/-- The settings with what the command line says. -/
def Invocation.override (i : Invocation) (s : Settings) : Settings :=
  { s with
    profile := i.profile.orElse fun _ => s.profile
    region := i.region.orElse fun _ => s.region
    endpointUrl := i.endpointUrl.orElse fun _ => s.endpointUrl }

/-- A client of a backend, as the settings want it. -/
def connect (backend : String) (s : Settings) : Except Error Client := do
  let backend ← (Backend.named backend).mapError fun f => .settings (.backend f)
  let client := ({ backend } : Client).withBatchSize s.batchSize
  return s.reencryptKey.elim client fun key => client.setReencryptKey (some key) none

/-! ## Documents -/

namespace World

def loadInto : List String → Document → Action World Document
  | [], d => return d
  | file :: rest, d => do
    progress "Loading" file
    let text ← readFile file
    let merged ← Action.ofExcept do d.merge (← Document.ofText {} text)
    loadInto rest merged

def load (files : List String) : Action World Document := loadInto files {}

/-- The document with all values that are supplied for it. -/
def supplyAll (m : Material) (d : Document) : Except Error Document := do
  let d ← m.inputs.foldlM (fun d (name, value) => d.supply name value false) d
  m.secureInputs.foldlM (fun d (name, value) => d.supply name value true) d

/-- Reads documents and binds their variables. -/
def prepare (m : Material) (s : Settings) : Action World Resolved := do
  let d ← load m.files
  let d ← Action.ofExcept (supplyAll m d)
  progress "Processing" "inputs"
  answering (d.resolve (m.interaction.asking.getD s.prompt) (m.interaction.echo.orElse fun _ => s.echo))

def mark : String := "✓ "

/-- Reads documents and counts what they hold. -/
def validate (files : List String) : Action World Unit := do
  let d ← load files
  printLine .output (mark ++ toString files.length ++ " file(s) valid")
  printLine .output ("  Parameters: " ++ toString d.parameters.size)
  printLine .output ("  Inputs: " ++ toString d.inputs.size)
  printLine .output ("  Variables: " ++ toString d.variableNames.size)
  printLine .output ("  Flush paths: " ++ toString d.flushPaths.length)

/-- The entries of a file that need not be there. -/
def readEntries (file : String) : Action World Mapping := do
  if !(← get).files.exists? file then return []
  else
    match ← Action.ofExcept (Document.treeOfText (← readFile file)) with
    | .null => return []
    | .map m => return m
    | _ => throw (.invalidDocument (.fileNotMapping file))

end World

/-! ## Jobs -/

namespace Session

open World

/-- Deletes what lies under the paths to flush. -/
def flush (r : Resolved) : Action Session Unit := do
  for path in ← onClient r.readFlushPaths do
    onWorld (progress "Flushing" path)
    let _ ← onClient (Client.deletePath path true [])

/-- Shows the parameters that would be written. -/
def dryRun (r : Resolved) (includeFlush : Bool) : Action Session Unit := do
  let document ← onClient (r.compile includeFlush true)
  onWorld (printLine .output "*** PARAMETERS TO PUSH ***")
  onWorld (print .output (Value.map document).toText)

def push (r : Resolved) (overwrite flushing : Bool) : Action Session Unit := do
  if flushing then flush r
  onWorld (progress "Putting" "parameters")
  let written ← onClient (Client.putAll r.list r.bindings overwrite)
  onWorld (printLine .output (mark ++ toString written ++ " parameters written"))

/-- Deletes what lies under the paths to flush, and the parameters. -/
def delete (r : Resolved) : Action Session Unit := do
  flush r
  onWorld (progress "Deleting" "parameters")
  let deleted ← onClient do Client.deleteNames (← r.readNames)
  onWorld (printLine .output (mark ++ toString deleted ++ " parameters deleted"))

/-- Encrypts all secret values with this key when they are read. -/
def useKey (keyId : String) : Action Session Unit :=
  modify fun s => { s with client := s.client.setReencryptKey (some keyId) none }

/-- Writes what is stored under some paths as a document. -/
def download (paths : List String) (output : Option String) (reencrypt : Bool) :
    Action Session Unit := do
  let listings ← paths.mapM fun path => do
    onWorld (progress "Reading" path)
    onClient (Client.getPath path { full := true, reencrypt })
  let parameters := listings.flatMap Listing.toParameters
  let document ← onClient (Document.compile parameters paths false .empty)
  let text := (Value.map document).toText
  match output with
  | none => onWorld (print .output text)
  | some file =>
    onWorld (writeFile file text)
    onWorld (printLine .errors
      (mark ++ toString parameters.length ++ " parameters written to " ++ file))

def pairUp : List String → Except Error (List (String × String))
  | [] => .ok []
  | [_] => .error (.invalidOptions .missingValue)
  | name :: value :: rest => do return (name, value) :: (← pairUp rest)

def askEach (names : List String) (echo : Bool) : Action Prompter (List (String × String)) :=
  names.mapM fun name => do return (name, ← Prompter.ask name (name ++ ": ") echo)

/-- Puts values into a file as ciphertext. The file is written last, so an error leaves it as it was. -/
def encrypt (file keyId : String) (arguments : List String) (asking echo : Bool) :
    Action Session Unit := do
  let document ← onWorld (readEntries file)
  let keyId ← onClient (Client.formatKeyId keyId)
  let values ← onWorld
    (if asking then answering (askEach arguments echo) else Action.ofExcept (pairUp arguments))
  let document ← onClient (Document.sealAll keyId values document)
  onWorld (writeFile file (Value.map document).toText)
  onWorld (printLine .errors (mark ++ toString values.length ++ " values encrypted into " ++ file))

def decrypt (file : String) : Action Session Unit := do
  match ← onWorld do Action.ofExcept (Document.treeOfText (← readFile file)) with
  | .map m =>
    for (name, ciphertext) in Document.ciphertexts m do
      let plaintext ← onClient (Client.decrypt ciphertext)
      onWorld (printLine .output (name ++ ": " ++ plaintext))
  | _ => return

def diff (r : Resolved) : Action Session Unit := do
  let paths ← onClient r.readFlushPaths
  let names ← onClient r.readNames
  let d ← onClient (Client.diffPaths paths names)
  let list (sign : String) (names : NameSet) : Action Session Unit :=
    names.names.forM fun name => onWorld (printLine .output (sign ++ " " ++ name))
  list "+" d.add
  list "~" d.overwrite
  list "-" d.remove
  onWorld (printLine .errors (toString d.add.size ++ " to add, " ++ toString d.overwrite.size ++
    " to overwrite, " ++ toString d.remove.size ++ " to remove"))

end Session

/-- Does something with a client that the settings describe. -/
def Session.connected (backend : String) (s : Settings) (a : Action Session Unit) : Action World Unit := do
  let client ← Action.ofExcept (connect backend s)
  start client a

def Job.run (backend : String) (s : Settings) : Job → Action World Unit
  | .push m o => Session.connected backend s do
    let r ← Session.onWorld (World.prepare m s)
    if o.dryRun then Session.dryRun r o.flush
    else Session.push r (s.mayOverwrite o.overwrite) o.flush
  | .delete m => Session.connected backend s do
    Session.delete (← Session.onWorld (World.prepare m s))
  | .download paths output reencrypt key => Session.connected backend s do
    if let some key := key then Session.useKey key
    Session.download paths output reencrypt
  | .encrypt file keyId arguments asking echo => Session.connected backend s do
    Session.encrypt file keyId arguments asking echo
  | .decrypt file => Session.connected backend s do Session.decrypt file
  | .diff m => Session.connected backend s do
    Session.diff (← Session.onWorld (World.prepare m s))
  | .validate files => World.validate files

/-! ## Whole runs -/

/-- What a run takes from its surroundings besides files and lines. -/
structure Setup where
  settings : Settings.Place := .missing
  environment : Settings.Environment := []
  deriving Inhabited

def Invocation.run (i : Invocation) (setup : Setup) : Action World Unit := do
  let s ← Action.ofExcept (Settings.load setup.settings)
  i.job.run i.backend (i.override (s.withEnvironment setup.environment))

/-- How a run ended. -/
structure Outcome where
  code : Nat
  world : World
  /-- The error that ended the run. -/
  error : Option Error := none
  deriving Inhabited

def programName : String := "ssm-ctl"

def version : String := "0.1.0"

def usage : String :=
  "Usage: " ++ programName ++ " [OPTIONS] <COMMAND>\n\nCommands: " ++
    ", ".intercalate (grammar.subcommands.map (·.1)) ++ "\n"

def report (e : Error) : String :=
  "Error: " ++ e.message ++ "\n" ++ e.fix?.elim "" fun fix => "  Fix: " ++ fix ++ "\n"

def run (words : List String) (setup : Setup) (world : World) : Outcome :=
  let say (code : Nat) (channel : Channel) (text : String) (w : World) : Outcome :=
    { code, world := ((World.print channel text).runOn w).2 }
  match Invocation.ofWords words with
  | .error .help => say 0 .output usage world
  | .error .version => say 0 .output (programName ++ " " ++ version ++ "\n") world
  | .error .usage => say 2 .errors usage world
  | .ok invocation =>
    match (invocation.run setup).runOn world with
    | (.ok (), world) => { code := 0, world }
    | (.error e, world) => { say 1 .errors (report e) world with error := some e }

end ParamFile.Command
