import ChatCommand.Yaml.Scalar

/-!
# Tokens

The marks and texts of which a document consists. Where indentation structures it, the start
and the end of a list or record are tokens too, and a key that is not marked as one gets its
mark.
-/

namespace ChatCommand.Yaml

/-- A token. -/
inductive Token where
  | streamEnd
  /-- The directive that tells the version of the notation. -/
  | version (major minor : Nat)
  /-- The directive that tells what a tag handle stands for. -/
  | tagHandle (handle meaning : String)
  | documentStart
  | documentEnd
  | blockSequenceStart
  | blockMappingStart
  | blockEnd
  | flowSequenceStart
  | flowSequenceEnd
  | flowMappingStart
  | flowMappingEnd
  | blockEntry
  | flowEntry
  | key
  | value
  | alias (name : String)
  | anchor (name : String)
  | tag (handle suffix : String)
  | scalar (style : Style) (text : String)
  deriving DecidableEq, Repr

end ChatCommand.Yaml
