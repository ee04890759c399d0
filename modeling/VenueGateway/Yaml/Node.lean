import VenueGateway.Yaml.Token

namespace VenueGateway.Yaml

/-- A node as it is written. Tags are whole and aliases refer to nodes by number. -/
inductive Node where
  | scalar (tag : Option String) (style : ScalarStyle) (text : String)
  | sequence (tag : Option String) (items : List Node)
  | mapping (tag : Option String) (entries : List (Node × Node))
  | reference (anchor : Nat)

/-- A document, its nodes with an anchor, and how many anchors, aliases and parts it has. -/
structure Document where
  root : Node
  anchored : List (Nat × Node)
  anchors : Nat
  references : Nat
  parts : Nat

namespace Document

/-- The node itself or that which an alias stands for. -/
def resolve (d : Document) : Node → Option Node
  | .reference anchor => d.anchored.lookup anchor
  | n => some n

def maxFreeReferences : Nat := 100

/-- Many aliases need many anchors. -/
def isModest (d : Document) : Bool :=
  d.references < maxFreeReferences || (d.anchors ≠ 0 && d.references ≤ 10 * d.anchors)

end Document

end VenueGateway.Yaml
