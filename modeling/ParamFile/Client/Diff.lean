import ParamFile.Client.Read

/-!
# Comparing names with the store

The names of some documents are compared with what is stored under some paths: names to add, names to
overwrite, and names that only the store has. Here a path holds the name that is the path itself, too.
-/

namespace ParamFile

/-- What would change if the store were made to match some documents. -/
structure Diff where
  add : NameSet := .empty
  overwrite : NameSet := .empty
  remove : NameSet := .empty
  deriving Inhabited

namespace Diff

/-- Whether a name is a path, whose trailing slashes do not count, or lies below it. -/
def isWithin (path name : String) : Bool :=
  let start := Text.dropEnd (· == '/') path.toList
  let n := name.toList
  start.isPrefixOf n &&
    match n.drop start.length with
    | [] => true
    | c :: _ => c == '/'

def addTo (s : NameSet) (names : List String) : NameSet := names.foldl NameSet.add s

/-- The comparison with one more path, under which some names are stored. -/
def compare (names : NameSet) (d : Diff) (path : String) (stored : List String) : Diff :=
  let stored := NameSet.ofList stored
  let here := names.names.filter (isWithin path)
  { add := addTo d.add (here.filter fun n => !stored.contains n)
    overwrite := addTo d.overwrite (here.filter fun n => stored.contains n)
    remove := addTo d.remove (stored.names.filter fun n => !here.contains n) }

/-- The comparison in which names that no path accounts for are to be added. -/
def complete (names : NameSet) (d : Diff) : Diff :=
  { d with
    add := addTo d.add
      (names.names.filter fun n => !d.overwrite.contains n && !d.remove.contains n) }

end Diff

namespace Client

/-- Compares names with what is stored under some paths. -/
def diffPaths (paths names : List String) : ClientM Diff := do
  let names := NameSet.ofList names
  let step (d : Diff) (path : String) : ClientM Diff := do
    return d.compare names path (← namesUnder path)
  return Diff.complete names (← paths.foldlM step {})

end Client

end ParamFile
