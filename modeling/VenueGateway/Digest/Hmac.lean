import VenueGateway.Digest.Sha
import VenueGateway.Text.Hex
import VenueGateway.Text.Utf8

namespace VenueGateway.Digest

/-- A key longer than a block is digested first; a short one is filled with zeros. -/
def blockKey (key : List UInt8) : List UInt8 :=
  let k := if key.length > 64 then Sha256.digest key else key
  k ++ List.replicate (64 - k.length) 0

def hmacSha256 (key message : List UInt8) : List UInt8 :=
  let k := blockKey key
  let inner := Sha256.digest (k.map (· ^^^ 0x36) ++ message)
  Sha256.digest (k.map (· ^^^ 0x5c) ++ inner)

def hmacSha256Hex (secret message : String) : String :=
  Text.hexOf (hmacSha256 (Text.utf8 secret) (Text.utf8 message))

end VenueGateway.Digest
