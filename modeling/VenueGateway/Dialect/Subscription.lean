import VenueGateway.Dialect.Basic
import VenueGateway.Json.Writer
import VenueGateway.Text.Blank

namespace VenueGateway

def textArray (ss : List String) : Json := .array (ss.map .string)

namespace Deribit

def request (id : Nat) (method : String) (params : Json) : String :=
  (Json.object [("id", .ofNat id), ("jsonrpc", "2.0"), ("method", method), ("params", params)]).text

/-- A request that names a user channel goes to the private side as a whole. -/
def scope (channels : List String) : String :=
  if channels.any (·.startsWith "user.") then "private" else "public"

/-- The currency of a symbol, up to its first dash or underscore. -/
def currencyOf (symbol : String) : String :=
  String.ofList (symbol.toList.takeWhile fun c => c != '-' && c != '_')

end Deribit

namespace Grvt

def request (envelope : Envelope) (id : Nat) (method stream : String) (selectors : List String) :
    String :=
  match envelope with
  | .full =>
    (Json.object [("id", .ofNat id), ("jsonrpc", "2.0"), ("method", method),
      ("params", .object [("selectors", textArray selectors), ("stream", stream)])]).text
  | .lite =>
    (Json.object [("i", .ofNat id), ("j", "2.0"), ("m", method),
      ("p", .object [("s", stream), ("s1", textArray selectors)])]).text

/-- The stream and the selector of a channel, which its first colon parts. -/
def splitChannel (channel : String) : String × String :=
  match Text.splitOnce ':' channel.toList with
  | some (stream, selector) => (String.ofList stream, String.ofList selector)
  | none => (channel, "")

/-- Groups are kept in the order of their streams; an empty selector adds none. -/
def addSelector (stream selector : String) :
    List (String × List String) → List (String × List String)
  | [] => [(stream, [selector].filter (!·.isEmpty))]
  | (s, sels) :: rest =>
    if stream < s then (stream, [selector].filter (!·.isEmpty)) :: (s, sels) :: rest
    else if stream = s then (s, sels ++ [selector].filter (!·.isEmpty)) :: rest
    else (s, sels) :: addSelector stream selector rest

def groups (channels : List String) : List (String × List String) :=
  channels.foldl (fun acc c => addSelector (splitChannel c).1 (splitChannel c).2 acc) []

/-- One request for each group, numbered from `id` on. -/
def numbered (envelope : Envelope) (method : String) :
    Nat → List (String × List String) → List String
  | _, [] => []
  | id, (stream, selectors) :: rest =>
    request envelope id method stream selectors :: numbered envelope method (id + 1) rest

end Grvt

namespace Dialect

/-- The channel of a stream, where the venue has one to subscribe to. -/
def channel? (d : Dialect) (stream : StreamKind) (symbol : String) : Option String :=
  match d, stream with
  | .binance _, .trades => some (symbol.toLower ++ "@aggTrade")
  | .binance _, .orderBook => some (symbol.toLower ++ "@depth20@100ms")
  | .binance _, _ => none
  | .deribit, .trades => some ("trades." ++ symbol ++ ".100ms")
  | .deribit, .orderBook => some ("book." ++ symbol ++ ".none.10.100ms")
  | .deribit, .orders => some ("user.orders." ++ symbol ++ ".raw")
  | .deribit, .positions => some ("user.changes." ++ symbol ++ ".raw")
  | .deribit, .balances => some ("user.portfolio." ++ (Deribit.currencyOf symbol).toLower)
  | .grvt .., .trades => some ("v1.trade:" ++ symbol ++ "@500")
  | .grvt .., .orderBook => some ("v1.book.s:" ++ symbol ++ "@500-10")
  | .grvt _ account _, .orders => some ("v1.order:" ++ account ++ "-" ++ symbol)
  | .grvt _ account _, .positions => some ("v1.position:" ++ account ++ "-" ++ symbol)
  | .grvt .., .balances => none

/-- The frames that change the subscription to some channels, numbered from `id` on. -/
def subscriptionFrames (d : Dialect) (channels : List String) (action : SubscriptionAction)
    (id : Nat) : List String :=
  match d with
  | .binance _ =>
    if channels.isEmpty then []
    else
      [(Json.object [("id", .ofNat id), ("method", action.name.toUpper),
        ("params", textArray channels)]).text]
  | .deribit =>
    if channels.isEmpty then []
    else
      [Deribit.request id (Deribit.scope channels ++ "/" ++ action.name)
        (.object [("channels", textArray channels)])]
  | .grvt envelope _ _ => Grvt.numbered envelope action.name id (Grvt.groups channels)

/-- The frame that subscribes to one stream. -/
def subscriptionFrame? (d : Dialect) (stream : StreamKind) (symbol : String) (id : Nat) :
    Option String :=
  (d.channel? stream symbol).bind fun c => (d.subscriptionFrames [c] .subscribe id).head?

end Dialect

end VenueGateway
