/-!
# Why a text is not a document

The causes for which a text is refused, from single characters up to whole documents.
-/

namespace ParamFile.Yaml

/-- Why a text is not a document. -/
inductive Fault where
  /-- A character that no document may hold. -/
  | forbiddenCharacter
  | unknownDirective
  | malformedDirective
  | incompatibleVersion
  | duplicateDirective
  | malformedAnchor
  | malformedTag
  | undefinedTagHandle
  | malformedBlockHeader
  /-- A tab stands where indentation was expected. -/
  | tabInIndentation
  | unclosedQuote
  /-- A document indicator inside a quoted scalar. -/
  | indicatorInQuote
  | malformedEscape
  /-- A colon before a flow indicator. -/
  | misplacedColon
  /-- A sequence item, key or value where none may begin. -/
  | misplacedIndicator
  /-- A key that must be followed by a colon is not. -/
  | missingColon
  | unknownToken
  | missingDocumentStart
  | missingNode
  | missingSeparator
  | missingBlockEnd
  | severalDocuments
  | unknownAnchor
  /-- Aliases that unfold to too many nodes. -/
  | tooManyAliases
  | tooDeep
  | duplicateKey
  /-- A scalar that is not of the type its tag names. -/
  | mistypedScalar
  /-- A whole number beyond 64 bits. -/
  | numberTooLarge
  deriving DecidableEq, Repr, Inhabited

def Fault.message : Fault → String
  | .forbiddenCharacter => "control characters are not allowed"
  | .unknownDirective => "found unknown directive name"
  | .malformedDirective => "did not find expected directive value"
  | .incompatibleVersion => "found incompatible YAML document"
  | .duplicateDirective => "found duplicate directive"
  | .malformedAnchor => "did not find expected alphabetic or numeric character"
  | .malformedTag => "did not find expected tag"
  | .undefinedTagHandle => "found undefined tag handle"
  | .malformedBlockHeader => "did not find expected comment or line break"
  | .tabInIndentation => "found a tab character where an indentation space is expected"
  | .unclosedQuote => "found unexpected end of stream"
  | .indicatorInQuote => "found unexpected document indicator"
  | .malformedEscape => "found unknown escape character"
  | .misplacedColon => "found unexpected ':'"
  | .misplacedIndicator => "mapping values are not allowed in this context"
  | .missingColon => "could not find expected ':'"
  | .unknownToken => "found character that cannot start any token"
  | .missingDocumentStart => "did not find expected <document start>"
  | .missingNode => "did not find expected node content"
  | .missingSeparator => "did not find expected ',' or closing bracket"
  | .missingBlockEnd => "did not find expected key or end of block"
  | .severalDocuments => "deserializing from YAML containing more than one document is not supported"
  | .unknownAnchor => "unknown anchor"
  | .tooManyAliases => "repetition limit exceeded"
  | .tooDeep => "recursion limit exceeded"
  | .duplicateKey => "duplicate entry"
  | .mistypedScalar => "invalid value for its tag"
  | .numberTooLarge => "invalid type: integer out of range"

end ParamFile.Yaml
