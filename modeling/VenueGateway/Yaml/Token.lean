namespace VenueGateway.Yaml

inductive ScalarStyle where
  | plain
  | quoted
  | literal
  | folded
deriving DecidableEq

inductive Bracket where
  | square
  | curly
deriving DecidableEq

/-- The beginning and the end of a block are tokens of their own, which the indentation gives. -/
inductive Token where
  | version (major minor : Nat)
  | tagHandle (handle start : String)
  | documentStart
  | documentEnd
  | streamEnd
  | blockSequence
  | blockMapping
  | blockEnd
  | opening (b : Bracket)
  | closing (b : Bracket)
  | comma
  | entry
  | key
  | value
  | anchor (name : String)
  | reference (name : String)
  | tag (handle suffix : String)
  | scalar (style : ScalarStyle) (text : String)
deriving DecidableEq

end VenueGateway.Yaml
