/-!
# YAML tokens

A YAML text is first cut into tokens. Indentation shows as tokens of its own: a block collection
starts with one token and ends with another, and each key of a mapping has a token before it.
-/

namespace Rulebook.Yaml

/-- A tag as it is written: with a handle that stands for the start of the full tag, or in full. -/
structure WrittenTag where
  handle : Option String
  rest : String
  deriving DecidableEq, Repr, Inhabited

/-- What a directive line says. -/
inductive Directive where
  /-- The version of YAML. -/
  | version (major : Nat)
  /-- What a tag handle stands for. -/
  | handle (name meaning : String)
  /-- A directive that is not known, and passed over. -/
  | other
  deriving DecidableEq, Repr, Inhabited

/-- A token of YAML. The end of the text is the end of the list of tokens. -/
inductive Token where
  | directive (d : Directive)
  | documentStart
  | documentEnd
  | blockSequenceStart
  | blockMappingStart
  | blockEnd
  | flowSequenceStart
  | flowSequenceEnd
  | flowMappingStart
  | flowMappingEnd
  | blockEntry
  | flowEntry
  | key
  | value
  | alias (name : String)
  | anchor (name : String)
  | tag (written : WrittenTag)
  /-- A scalar, and whether it is written without quotes or marks. -/
  | scalar (text : String) (plain : Bool)
  deriving DecidableEq, Repr, Inhabited

end Rulebook.Yaml
