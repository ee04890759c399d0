import VenueGateway.Json.Basic

namespace VenueGateway

structure Environment where
  entries : List (String × String) := []

namespace Environment

def get? (e : Environment) (name : String) : Option String := Json.lookup name e.entries

def valueOr (e : Environment) (name : String) (default : List Char) : List Char :=
  match e.get? name with
  | some value => if value.isEmpty then default else value.toList
  | none => default

def isNameStart (c : Char) : Bool := c.isAlpha || c == '_'

def isNameChar (c : Char) : Bool := c.isAlphanum || c == '_'

/-- A variable between braces: its name, its default and what follows. -/
def reference? (cs : List Char) : Option (String × List Char × List Char) :=
  let (name, rest) := cs.span isNameChar
  if !(name.head?.any isNameStart) then none
  else
    match rest with
    | '\x7d' :: rest => some (String.ofList name, [], rest)
    | ':' :: '-' :: rest =>
      match rest.span (· != '\x7d') with
      | (default, _ :: rest) => some (String.ofList name, default, rest)
      | (_, []) => none
    | _ => none

/-- The number bounds the steps, and a step for each character is enough. -/
def interpolateFrom (e : Environment) : Nat → List Char → List Char
  | 0, cs => cs
  | _, [] => []
  | fuel + 1, '$' :: '\x7b' :: cs =>
    match reference? cs with
    | some (name, default, rest) => e.valueOr name default ++ interpolateFrom e fuel rest
    | none => '$' :: interpolateFrom e fuel ('\x7b' :: cs)
  | fuel + 1, c :: cs => c :: interpolateFrom e fuel cs

/-- Puts in the variables that are named in a text: `$` and the name in braces, with a default after
`:-`. A variable that is unset or empty gives the default, and without one nothing. -/
def interpolate (e : Environment) (text : String) : String :=
  String.ofList (e.interpolateFrom text.length text.toList)

end Environment

end VenueGateway
