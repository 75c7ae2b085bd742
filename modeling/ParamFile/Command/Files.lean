import ParamFile.Error
import ParamFile.NameMap
import ParamFile.Text.Blank

/-!
# Files

The files that a command can reach, by their paths from the working directory. A path is followed name
by name: one period stays where it is, two go up, and every name but the last must be that of a
directory. A file is written only where its directory exists.
-/

namespace ParamFile.Command

/-- A place in the tree of files: the names that lead to it. The first name of a place that is counted
from the top of the tree is empty. -/
abbrev Location := List String

/-- Files with their texts, and directories besides those that hold a file. -/
structure Files where
  texts : NameMap String := .empty
  directories : NameSet := .empty
  deriving Inhabited

/-- What stands at a place. -/
inductive Entry where
  | directory
  | file (text : String)
  deriving DecidableEq, Repr, Inhabited

namespace Location

/-- The name under which a place is filed. -/
def key (l : Location) : String := "/".intercalate l

/-- The place that a name leads to. -/
def move (l : Location) (name : String) : Location :=
  if name = "" ∨ name = "." then l
  else if name = ".." then
    match l.getLast? with
    | none | some ".." => l ++ [".."]
    | some "" => l
    | some _ => l.dropLast
  else l ++ [name]

end Location

def pathNames : List Char → List String
  | path => go [] path
where
  /-- The remaining names; the first one begins with `reversed`. -/
  go (reversed : List Char) : List Char → List String
    | [] => [.ofList reversed.reverse]
    | c :: rest =>
      if c = '/' then .ofList reversed.reverse :: go [] rest else go (c :: reversed) rest

namespace Files

/-- Some files, by their paths from the working directory. -/
def ofList (files : List (String × String)) : Files where
  texts := files.foldl
    (fun m file => m.insert (((pathNames file.1.toList).foldl Location.move []).key) file.2) .empty

/-- What stands at a place. The working directory, those above it and the top of the tree exist. -/
def entry? (f : Files) (l : Location) : Option Entry :=
  if l.all (· == "..") || l == [""] then some .directory
  else
    match f.texts.get? l.key with
    | some text => some (.file text)
    | none =>
      let start := l.key.toList ++ ['/']
      if f.directories.contains l.key || f.texts.names.any (fun n => start.isPrefixOf n.toList) then
        some .directory
      else none

/-- Goes on from a place, which must be a directory. -/
def step (f : Files) (l : Location) (name : String) : Except FileFault Location :=
  match f.entry? l with
  | none => .error .notFound
  | some (.file _) => .error .notADirectory
  | some .directory => .ok (l.move name)

/-- The place that a path leads to; nothing need stand there. -/
def locate (f : Files) (path : List Char) : Except FileFault Location :=
  match path with
  | [] => .error .notFound
  | '/' :: rest => (pathNames rest).foldlM f.step [""]
  | path => (pathNames path).foldlM f.step []

def exists? (f : Files) (path : String) : Bool :=
  match f.locate path.toList with
  | .ok l => (f.entry? l).isSome
  | .error _ => false

def read (f : Files) (path : String) : Except FileFault String := do
  match f.entry? (← f.locate path.toList) with
  | none => .error .notFound
  | some .directory => .error .isADirectory
  | some (.file text) => .ok text

/-- The files after a text was written to one of them. A path with a slash at its end means a
directory. -/
def write (f : Files) (path text : String) : Except FileFault Files := do
  let p := path.toList
  let l ← f.locate (if p.all (· == '/') then p else Text.dropEnd (· == '/') p)
  if p.getLast? = some '/' || f.entry? l == some .directory then .error .isADirectory
  else .ok { f with texts := f.texts.insert l.key text }

end Files

end ParamFile.Command
