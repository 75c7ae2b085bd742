import ParamFile.Kind

/-!
# Records of a parameter store

A record is one version of a stored parameter, a put request asks for another version, and a filter
selects records by one of their fields.
-/

namespace ParamFile

/-- One version of a stored parameter. -/
structure Record where
  name : String
  kind : Kind
  value : String
  keyId : Option String := none
  allowedPattern : Option String := none
  description : Option String := none
  version : Int := 0
  /-- When it was written, in seconds. -/
  date : Option Int := none
  user : Option String := none
  deriving DecidableEq, Repr, Inhabited

/-- A request to write a parameter. -/
structure PutRequest where
  name : String
  kind : Kind
  value : String
  allowedPattern : Option String := none
  description : Option String := none
  keyId : Option String := none
  /-- Whether the name may be stored already. -/
  overwrite : Bool := false
  deriving DecidableEq, Repr, Inhabited

/-- A condition on records: a field is one of some values, or begins with one. -/
structure Filter where
  key : String
  /-- How the field is compared; equality unless it says otherwise. -/
  option : Option String := none
  values : List String := []
  deriving DecidableEq, Repr, Inhabited

/-- Some records of a listing, and where the next ones begin if there are more. -/
structure Page where
  records : List Record
  next : Option Nat
  deriving DecidableEq, Repr, Inhabited

end ParamFile
