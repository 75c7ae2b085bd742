/-!
# Tokens of a document text

The words of which a document is made. Blocks open and close by indentation, so their beginnings and
ends are tokens too, although no character stands for them.
-/

namespace ParamFile.Yaml

/-- A token of a document text. -/
inductive Token where
  /-- The version that a document asks for. -/
  | version (major minor : Nat)
  /-- What a handle in tags stands for. -/
  | handle (name : String) (expansion : List UInt8)
  | documentStart
  | documentEnd
  | blockSequence
  | blockMapping
  | blockEnd
  | flowSequence
  | flowSequenceEnd
  | flowMapping
  | flowMappingEnd
  /-- The hyphen before an item. -/
  | item
  | comma
  | key
  | value
  | alias (name : String)
  | anchor (name : String)
  /-- A tag as a handle and the bytes behind it. -/
  | tag (handle : String) (suffix : List UInt8)
  /-- A scalar, and whether it is written without quotes and not as a block. -/
  | scalar (text : String) (isPlain : Bool)
  deriving DecidableEq, Repr, Inhabited

end ParamFile.Yaml
