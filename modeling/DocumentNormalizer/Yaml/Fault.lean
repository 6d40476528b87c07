import DocumentNormalizer.Yaml.Reader

namespace DocumentNormalizer.Yaml

/-- Why a text is not a YAML document. -/
inductive Fault where
  | forbiddenCharacter (c : Char)
  | strayCharacter (c : Char)
  | keyWithoutValue
  | misplacedEntry
  | misplacedKey
  | misplacedValue
  | unclosedQuote
  | separatorInQuote
  | unknownEscape
  | blockHeader
  | anchorName
  | tagText
  | directive
  | unopened
  | misplacedToken
  | unknownHandle (handle : String)
  | unknownAnchor (name : String)
  | repeatedAnchor (name : String)
  | severalDocuments
  | unknownTag (tag : String)
  | unfitTag (tag : String)
  | collectionAsKey
  | unmergeable
deriving DecidableEq

def Fault.message : Fault → String
  | .forbiddenCharacter _ => "a character is not allowed"
  | .strayCharacter c => "the character " ++ c.toString ++ " cannot start anything"
  | .keyWithoutValue => "a key has no colon"
  | .misplacedEntry => "a sequence entry is not allowed here"
  | .misplacedKey => "a key is not allowed here"
  | .misplacedValue => "a value is not allowed here"
  | .unclosedQuote => "a quoted scalar does not end"
  | .separatorInQuote => "a document separator is inside a quoted scalar"
  | .unknownEscape => "an escape is unknown"
  | .blockHeader => "the header of a block scalar is malformed"
  | .anchorName => "the name of an anchor is malformed"
  | .tagText => "a tag is malformed"
  | .directive => "a directive is malformed"
  | .unopened => "a bracket was not opened"
  | .misplacedToken => "the structure is malformed"
  | .unknownHandle handle => "the tag handle " ++ handle ++ " is not declared"
  | .unknownAnchor name => "the anchor " ++ name ++ " is not defined"
  | .repeatedAnchor name => "the anchor " ++ name ++ " is defined twice"
  | .severalDocuments => "there is more than one document"
  | .unknownTag tag => "the tag " ++ tag ++ " has no meaning"
  | .unfitTag tag => "the tag " ++ tag ++ " does not fit its node"
  | .collectionAsKey => "a collection is used as a key"
  | .unmergeable => "what is merged is not a mapping"

end DocumentNormalizer.Yaml
