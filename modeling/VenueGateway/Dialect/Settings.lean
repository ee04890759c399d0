import VenueGateway.Dialect.Basic
import VenueGateway.Json.Lenient
import VenueGateway.Record.Encoding

namespace VenueGateway

def Venue.ofJson (j : Json) : Venue := (Venue.ofJson? j).getD .binance

def Channel.ofJson (j : Json) : Channel := (j.constant?.bind Channel.ofName?).getD .public

def Dialect.ofJson (venue : Venue) (j : Json) : Dialect :=
  match venue with
  | .binance => .binance (j.natOr "recv_window_ms" Dialect.defaultReceiveWindowMs)
  | .deribit => .deribit
  | .grvt =>
    .grvt ((Envelope.ofName? (j.textAt "envelope")).getD .full) (j.textAt "sub_account_id")
      (j.textOr "auth_url" Dialect.defaultAuthUrl)

end VenueGateway
