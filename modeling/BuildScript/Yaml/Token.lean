import BuildScript.Text.Point

/-!
The tokens of a YAML text, and what can be wrong with one. A flaw of the text is told apart from a
scalar that does not read as a value of its type: the first makes the text no YAML, the second is an
error of the value that is asked for.
-/

namespace BuildScript.Yaml

open Text (Point)

/-- What makes a text no YAML. -/
inductive Flaw where
  | unprintable (c : Char)
  | unexpectedCharacter (c : Char)
  | unfinishedKey
  | misplacedEntry
  | misplacedKey
  | misplacedValue
  | badDirective
  | badName
  | badTag
  | badBlockHeader
  | badEscape
  | unfinishedQuote
  | unexpectedToken
  | undefinedHandle (handle : String)
  | undefinedAlias (name : String)
  | repeatedAnchor (name : String)
  | severalDocuments
  | tooDeep
  | unknownTag (tag : String)
  | wrongKind (tag : String)
  | unhashableKey
  | badMerge
  | badBinary
  deriving Repr, DecidableEq

/-- Why there is no value. -/
inductive LoadError where
  | flaw (f : Flaw)
  /-- An error of the class with the message. -/
  | scalar (className message : String)
  deriving Repr, DecidableEq

/-- The tokens. -/
inductive Token where
  | version (major minor : Int)
  | handle (handle stem : String)
  | directive
  | documentStart
  | documentEnd
  | streamEnd
  | blockSequenceStart
  | blockMappingStart
  | blockEnd
  | flowSequenceStart
  | flowSequenceEnd
  | flowMappingStart
  | flowMappingEnd
  | blockEntry
  | flowEntry
  | key
  | value
  | alias (name : String)
  | anchor (name : String)
  | tag (handle : Option String) (suffix : String)
  | scalar (text : List Point) (plain : Bool)
  /-- Where the text cannot be cut into tokens any further. -/
  | broken (e : LoadError)
  deriving Repr, DecidableEq

/-- Whether the token begins a directive. -/
def Token.isDirective : Token → Bool
  | version _ _ | handle _ _ | directive => true
  | _ => false

/-- A flaw as a result. -/
def flawed {α : Type} (f : Flaw) : Except LoadError α := .error (.flaw f)

end BuildScript.Yaml
