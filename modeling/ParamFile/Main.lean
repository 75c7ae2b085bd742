import ParamFile.Command.Run

/-!
# The program

Takes the files that a command line names from the disk, runs the command line, and puts the files that
the run changed back. Lines of the standard input are read one by one: a run that ends because it has no
line left is run again with one more, and only what is new is printed.
-/

namespace ParamFile

open Command

/-- The codes of the errors that say what stands at a path. -/
def isADirectoryCode : UInt32 := 21

/-- The text of a file on disk, or `none` for a directory; nothing if neither stands there. -/
def readEntry (path : String) : IO (Option (Option String)) := do
  try
    return some (some (← IO.FS.readFile path))
  catch
    | .noFileOrDirectory .. => return none
    | .inappropriateType _ code _ => return if code = isADirectoryCode then some none else none
    | .resourceVanished .. => return none
    | e => throw e

/-- All beginnings of a path that end in front of a slash, and the path. -/
def beginnings (path : String) : List String :=
  let p := path.toList
  ((List.range p.length).filter fun i => i ≠ 0 ∧ p[i]? = some '/').map (fun i => .ofList (p.take i)) ++
    [path]

/-- The place that a path leads to as it is written. -/
def placeOf (path : String) : Location :=
  match path.toList with
  | '/' :: rest => (pathNames rest).foldl Location.move [""]
  | names => (pathNames names).foldl Location.move []

def addPath (f : Files) (path : String) : IO Files := do
  let key := (placeOf path).key
  match ← readEntry path with
  | none => return f
  | some none => return { f with directories := f.directories.add key }
  | some (some text) => return { f with texts := f.texts.insert key text }

/-- The files on disk that a command line names. -/
def filesOf (words : List String) : IO Files :=
  match Invocation.ofWords words with
  | .error _ => return {}
  | .ok i => (i.job.files.flatMap beginnings).foldlM addPath {}

/-- Writes the files that are not as they were. -/
def saveChanges (before after : Files) : IO Unit :=
  for (path, text) in after.texts.entries do
    if before.texts.get? path != some text then IO.FS.writeFile path text

/-- The directory of the settings of all programs. -/
def settingsDirectory : IO String := do
  match ← IO.getEnv "XDG_CONFIG_HOME", ← IO.getEnv "HOME" with
  | some path, home =>
    if path.startsWith "/" then return path else return home.elim "." (· ++ "/.config")
  | none, home => return home.elim "." (· ++ "/.config")

/-- What the surroundings of the program say about its settings. -/
def readSetup : IO Setup := do
  let entry ← readEntry ((← settingsDirectory) ++ "/" ++ programName ++ "/config.toml")
  let settings : Settings.Place := match entry with
    | none => .missing
    | some none => .directory
    | some (some text) => .file text
  let environment ← Settings.environmentNames.filterMapM fun name => do
    return (← IO.getEnv name).map (name, ·)
  return { settings, environment }

def printAll (pieces : List (Channel × String)) : IO Unit :=
  for (channel, text) in pieces do
    match channel with
    | .output => IO.print text; (← IO.getStdout).flush
    | .errors => IO.eprint text

/-- Whether a run ended because there was no line left. -/
def isStarved (o : Outcome) : Bool :=
  match o.error with
  | some (.promptFailed _ .endOfInput) => true
  | _ => false

/-- Runs a command line, reading one more line whenever there is none left. -/
partial def converse (words : List String) (setup : Setup) (files : Files) (lines : List String)
    (done : Nat) : IO Outcome := do
  let o := run words setup { files, lines }
  let pieces := o.world.printed.reverse
  if !isStarved o then
    printAll (pieces.drop done)
    return o
  else
    let ready := pieces.dropLast
    printAll (ready.drop done)
    let line ← (← IO.getStdin).getLine
    if line.isEmpty then
      printAll (pieces.drop ready.length)
      return o
    else converse words setup files (lines ++ linesOf line) ready.length

end ParamFile

open ParamFile in
def main (words : List String) : IO UInt32 := do
  let files ← filesOf words
  let o ← converse words (← readSetup) files [] 0
  saveChanges files o.world.files
  return o.code.toUInt32
