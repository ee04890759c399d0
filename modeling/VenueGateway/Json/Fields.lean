import VenueGateway.Json.Basic

namespace VenueGateway.Json

/-- The fields of a record: a required one must be there and fit its type, an optional one may be
absent or null, and those that nobody asks for are ignored. -/
abbrev Fields := List (String × Json)

/-- The fields of a record: an object's by name, an array's in the declared order, none missing. -/
def record? (names : List String) : Json → Option Fields
  | .object fields => some fields
  | .array items => if items.length = names.length then some (names.zip items) else none
  | _ => none

/-- The name of a constant: the text, or an object whose only field is the name, with null. -/
def constant? : Json → Option String
  | .string s => some s
  | .object [(s, .null)] => some s
  | _ => none

namespace Fields

def required (fields : Fields) (key : String) (f : Json → Option α) : Option α :=
  (lookup key fields).bind f

def optional (fields : Fields) (key : String) (f : Json → Option α) : Option (Option α) :=
  match lookup key fields with
  | none => some none
  | some j => if j.isNull then some none else (f j).map some

/-- An absent field takes the default; one that is there must fit. -/
def defaulted (fields : Fields) (key : String) (default : α) (f : Json → Option α) : Option α :=
  match lookup key fields with
  | none => some default
  | some j => f j

end Fields

def list? (f : Json → Option α) (j : Json) : Option (List α) :=
  j.array?.bind (·.mapM f)

/-- A pair of texts. -/
def textPair? : Json → Option (String × String)
  | .array [.string k, .string v] => some (k, v)
  | _ => none

end VenueGateway.Json
