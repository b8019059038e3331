import DaoForge.Yaml.Fault

/-!
# DaoForge.Yaml.Token

The tokens of a YAML text. Indentation has become tokens of its own: a block collection has a token
where it starts and one where it ends.
-/

namespace DaoForge.Yaml

inductive TokenKind where
  | textEnd
  | documentStart
  | documentEnd
  | blockSequenceStart
  | blockMappingStart
  | blockEnd
  | flowSequenceStart
  | flowSequenceEnd
  | flowMappingStart
  | flowMappingEnd
  | blockEntry
  | flowEntry
  | key
  | value
  /-- A plain scalar is written without quotes. -/
  | scalar (text : String) (isPlain : Bool)
  deriving DecidableEq, Repr

/-- A token and where it is. -/
structure Token where
  kind : TokenKind
  start : Position
  finish : Position
  deriving DecidableEq, Repr

/-- The tokens of a text, up to the first fault of form. -/
structure TokenText where
  tokens : List Token
  fault : Option FormFault
  deriving Repr

end DaoForge.Yaml
