import VenueGateway.Digest.Fnv
import VenueGateway.Json.Lenient
import VenueGateway.WebSocket.Codec

namespace VenueGateway

namespace Bytes

def shownWhole : Nat := 256

def shownEnds : Nat := 16

def outline (bytes : Bytes) : Json :=
  .object [("len", .ofNat bytes.length), ("head", Text.hexOf (bytes.take shownEnds)),
    ("tail", Text.hexOf (bytes.drop (bytes.length - shownEnds))),
    ("fnv1a", Text.hexOf (Frame.bytesOfNat 8 (Digest.fnv1a bytes).toNat))]

def toJson (bytes : Bytes) : Json :=
  if shownWhole < bytes.length then outline bytes else Text.hexOf bytes

/-- A text, or the outline of its bytes if they are many. -/
def textToJson (s : String) : Json :=
  let bytes := Text.utf8 s
  if shownWhole < bytes.length then outline bytes else s

mutual

/-- Hex digits, a text, a repeated unit, or several of these one after the other. -/
def ofJson : Json → Bytes
  | .string s => (Text.bytesOfHex s).getD []
  | .array items => ofItems items
  | j =>
    match j.get "text" with
    | .string s => Text.utf8 s
    | _ =>
      (List.replicate (j.natAt "count") ((Text.bytesOfHex (j.textAt "repeat")).getD [])).flatten

def ofItems : List Json → Bytes
  | [] => []
  | j :: rest => ofJson j ++ ofItems rest

end

end Bytes

namespace Frame

def toJson (f : Frame) : Json :=
  .object [("fin", .bool f.fin), ("opcode", f.opcode.name), ("payload", Bytes.toJson f.payload)]

/-- An opcode that nobody knows is taken for text. -/
def ofJson (j : Json) : Frame :=
  ⟨j.boolOr "fin" true, (Opcode.ofName? (j.textAt "opcode")).getD .text,
    Bytes.ofJson (j.get "payload")⟩

end Frame

end VenueGateway
