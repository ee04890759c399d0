namespace VenueGateway.Digest

/-- FNV-1a with 64 bits: each byte is taken in before the multiplication. -/
def fnv1a (bytes : List UInt8) : UInt64 :=
  bytes.foldl (fun h b => (h ^^^ b.toUInt64) * 0x100000001b3) 0xcbf29ce484222325

end VenueGateway.Digest
