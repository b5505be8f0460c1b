/-!
Why a text is not a document.
-/
namespace FlutterInstaller.Yaml

inductive Error
  | controlCharacter
  | unexpectedCharacter
  | badIndentation
  | badDirective
  | badProperty
  | badEscape
  | unclosedText
  | missingColon
  | unexpectedToken
  | unknownTagHandle
  | unknownAnchor
  | badScalar (type : String)
  | numberTooWide
  | repeatedKey
  | tooManyAliases
  | nestedTooDeep
  | severalDocuments
  deriving DecidableEq, Repr

def Error.message : Error → String
  | .controlCharacter => "control characters are not allowed"
  | .unexpectedCharacter => "a character cannot start any token here"
  | .badIndentation => "the indentation does not fit"
  | .badDirective => "a directive is malformed or unknown"
  | .badProperty => "a tag or an anchor is malformed"
  | .badEscape => "an escape sequence is malformed or unknown"
  | .unclosedText => "a quoted text is not closed"
  | .missingColon => "a key is not followed by a colon"
  | .unexpectedToken => "the structure of the document is broken"
  | .unknownTagHandle => "a tag uses an undefined handle"
  | .unknownAnchor => "an alias names an unknown anchor"
  | .badScalar type => "a scalar is not " ++ type
  | .numberTooWide => "an integer is out of range"
  | .repeatedKey => "a mapping repeats a key"
  | .tooManyAliases => "aliases repeat too much"
  | .nestedTooDeep => "collections nest too deeply"
  | .severalDocuments => "more than one document"

end FlutterInstaller.Yaml
