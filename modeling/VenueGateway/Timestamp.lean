import VenueGateway.Text.Blank
import VenueGateway.Text.Integer

namespace VenueGateway.Timestamp

/-- Above this count of milliseconds, past the year 2099, a number is read as nanoseconds. -/
def nanosThreshold : Int := 4100000000000

def saturate (n : Int) : Int := max (-(Text.signedBound64 : Int)) (min n ((Text.signedBound64 : Int) - 1))

def toMicros (raw : Int) : Int :=
  if raw > nanosThreshold then raw.tdiv 1000 else saturate (raw * 1000)

def read (s : String) : Option Int :=
  (Text.readInt64 (Text.trimChars s.toList)).map toMicros

end VenueGateway.Timestamp
