import ParamFile.Error
import ParamFile.Toml.Reader

/-!
# Settings

Settings come from a file, which need not be there, and from environment variables, which win where
they are not empty. Settings that the file does not name keep their defaults, and names that are not
settings do not count; a setting with a value of the wrong type is refused.
-/

namespace ParamFile

open Toml

/-- The settings. -/
structure Settings where
  /-- Whether parameters that are stored already are overwritten. -/
  overwrite : Bool := false
  /-- Whether inputs without a value are asked for. -/
  prompt : Bool := true
  /-- Whether answers are shown; secret ones are not unless this says so. -/
  echo : Option Bool := none
  /-- How many names one call lists. -/
  batchSize : Nat := greatestBatch
  profile : Option String := none
  region : Option String := none
  endpointUrl : Option String := none
  /-- The key that secret values are encrypted with when they are read. -/
  reencryptKey : Option String := none
  deriving DecidableEq, Repr, Inhabited

namespace Settings

/-! ## Settings in a file -/

/-- The values of the named settings of a section, which is a table, or an array with the values in
order. -/
def sectionValues (keys : List String) (name : String) (root : Table) :
    Except SettingsFault (List (String × Value)) :=
  match root.get? name with
  | none => .ok []
  | some (.table _ entries) => .ok (keys.filterMap fun k => (Table.get? entries k).map (k, ·))
  | some (.array items) => .ok (keys.zip items)
  | some (.tables reversed) => .ok (keys.zip (reversed.reverse.map (.table .opened)))
  | some _ => .error (.mistyped name)

def boolSetting (values : List (String × Value)) (key : String) : Except SettingsFault (Option Bool) :=
  match values.lookup key with
  | none => .ok none
  | some (.bool b) => .ok (some b)
  | some _ => .error (.mistyped key)

def textSetting (values : List (String × Value)) (key : String) :
    Except SettingsFault (Option String) :=
  match values.lookup key with
  | none => .ok none
  | some (.string s) => .ok (some s)
  | some _ => .error (.mistyped key)

def sizeSetting (values : List (String × Value)) (key : String) : Except SettingsFault (Option Nat) :=
  match values.lookup key with
  | none => .ok none
  | some (.integer n) => if 0 ≤ n then .ok (some n.toNat) else .error (.mistyped key)
  | some _ => .error (.mistyped key)

/-- A section whose settings have no defaults cannot be an array that is too short for them. -/
def checkComplete (keys : List String) (name : String) (root : Table) : Except SettingsFault Unit :=
  match root.get? name with
  | some (.array items) => if items.length < keys.length then .error (.mistyped name) else .ok ()
  | some (.tables reversed) => if reversed.length < keys.length then .error (.mistyped name) else .ok ()
  | _ => .ok ()

def defaultKeys : List String := ["overwrite", "prompt", "echo", "batch_size"]

def awsKeys : List String := ["profile", "region", "endpoint_url"]

def cryptoKeys : List String := ["reencrypt_key"]

def ofTable (root : Table) : Except SettingsFault Settings := do
  let base : Settings := {}
  let run ← sectionValues defaultKeys "defaults" root
  let overwrite ← boolSetting run "overwrite"
  let prompt ← boolSetting run "prompt"
  let echo ← boolSetting run "echo"
  let batchSize ← sizeSetting run "batch_size"
  let aws ← sectionValues awsKeys "aws" root
  checkComplete awsKeys "aws" root
  let profile ← textSetting aws "profile"
  let region ← textSetting aws "region"
  let endpointUrl ← textSetting aws "endpoint_url"
  let crypto ← sectionValues cryptoKeys "crypto" root
  checkComplete cryptoKeys "crypto" root
  let reencryptKey ← textSetting crypto "reencrypt_key"
  return {
    overwrite := overwrite.getD base.overwrite, prompt := prompt.getD base.prompt, echo
    batchSize := batchSize.getD base.batchSize, profile, region, endpointUrl, reencryptKey }

def ofText (text : String) : Except SettingsFault Settings :=
  match Table.ofText text with
  | .error fault => .error (.malformed fault)
  | .ok root => ofTable root

/-- The place where the settings are looked for. -/
inductive Place where
  | missing
  | directory
  | file (text : String)
  deriving DecidableEq, Repr, Inhabited

/-- The settings found at a place; the defaults if there is nothing. -/
def load : Place → Except Error Settings
  | .missing => .ok {}
  | .directory => .error (.settings (.unreadable .isADirectory))
  | .file text => (ofText text).mapError .settings

/-! ## Environment -/

abbrev Environment := List (String × String)

/-- The first of some variables that is not empty. -/
def firstSet (env : Environment) (names : List String) : Option String :=
  (names.filterMap fun n => env.lookup n).find? (· ≠ "")

/-- The variables that name a profile, those that count first in front. -/
def profileVariables : List String := ["SSMCTL_PROFILE", "AWS_PROFILE"]

def regionVariables : List String := ["SSMCTL_REGION", "AWS_REGION"]

def endpointVariables : List String := ["SSMCTL_ENDPOINT_URL"]

/-- The variables that name the key to encrypt with. -/
def reencryptKeyVariables : List String := ["SSMCTL_REENCRYPT_KEY"]

def environmentNames : List String :=
  profileVariables ++ regionVariables ++ endpointVariables ++ reencryptKeyVariables

/-- The settings with what the environment says. -/
def withEnvironment (s : Settings) (env : Environment) : Settings :=
  { s with
    profile := (firstSet env profileVariables).orElse fun _ => s.profile
    region := (firstSet env regionVariables).orElse fun _ => s.region
    endpointUrl := (firstSet env endpointVariables).orElse fun _ => s.endpointUrl
    reencryptKey := (firstSet env reencryptKeyVariables).orElse fun _ => s.reencryptKey }

/-- Whether stored parameters are overwritten: as the command says, or as the settings do. -/
def mayOverwrite (s : Settings) (flag : Option Bool) : Bool := flag.getD s.overwrite

end Settings

end ParamFile
