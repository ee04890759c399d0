import VenueGateway.Resilience.Encoding
import VenueGateway.Session.Encoding
import VenueGateway.Simulation.Run
import VenueGateway.WebSocket.Encoding

namespace VenueGateway.Simulation

open Json

/-- A response as a text, in which the accept key may be asked for, or as bytes. -/
def responseOfJson (j : Json) (accept : String) : Bytes :=
  match j with
  | .string s => Text.utf8 (s.replace "\x7baccept\x7d" accept)
  | j => Bytes.ofJson j

def AcceptMode.ofJson (j : Json) : AcceptMode :=
  match j with
  | .string "drop" => .drop
  | .string "silent" => .silent
  | .object _ => .respond (responseOfJson (j.get "response")) (j.boolAt "close")
  | _ => .upgrade

def scriptOfJson (items : List Json) : Script := items.map GatewayError.outcomeOfJson

def answerOfJson (j : Json) : Except GatewayError Json :=
  (GatewayError.outcomeOfJson j).map fun _ => j.get "body"

/-- A link that goes over the session speaks the session's dialect. -/
def Link.ofJson (session : Option Session) (j : Json) : Link :=
  let venue := Venue.ofJson (j.get "venue")
  let shared := session.filter fun _ => j.boolAt "session"
  let dialect :=
    match shared with
    | some s => s.dialect
    | none => .ofJson venue (j.get "adapter")
  let entrance : OrderEntrance :=
    if j.textAt "kind" = "adapter" then .spoken shared.isSome (!j.boolAt "no_rest") {} 1
    else .scripted (scriptOfJson (j.listAt "outcomes"))
  let answers := (j.fieldsAt "rest").map fun (path, items) =>
    (path, ((items.array?).getD []).map answerOfJson)
  ⟨venue, dialect, entrance, answers⟩

def SessionRun.ofJson (j : Json) : SessionRun :=
  let session := Session.ofJson j
  { session
    worker := .ofConfig session.config
    refresher := ((j.get "refresher").array?).map scriptOfJson }

/-- A later link to a venue takes the place of an earlier one. -/
def addLink (links : List Link) (link : Link) : List Link :=
  links.filter (·.venue ≠ link.venue) ++ [link]

def World.ofJson (epoch : Int) (key : String) (j : Json) : World :=
  let run := if (j.get "session").isObject then some (SessionRun.ofJson (j.get "session")) else none
  let registry : Registry Float := .ofConfig (.ofJson (j.get "resilience"))
  let registry := (j.fieldsAt "services").foldl
    (fun r (name, limits) => r.configure name (.ofJson limits)) registry
  let links := ((j.listAt "links").map (Link.ofJson (run.map (·.session)))).foldl addLink []
  let begun := (run.map fun r => (r.session.enter .disconnected).2).getD []
  { epoch, key, links, session := run
    coordinator := links.foldl (fun c l => c.register l.venue) { registry }
    transport := { mode := .ofJson (j.get "accept") }
    pump := if j.boolAt "pump" then .running else .absent
    observations := begun.filterMap fun
      | .observe o => some o
      | _ => none }

def OrderUpdate.toJson (u : OrderUpdate Float) : Json :=
  .object [("previous", u.previous.name), ("state", u.state.name),
    ("transitions", .array (u.transitions.map Transition.toJson)),
    ("fill_delta", .ofFloat u.filled), ("synthesized", .bool u.isNew),
    ("changed", .bool u.isChange)]

def ReconciliationReport.toJson (r : ReconciliationReport) : Json :=
  .object [("venue", r.venue.name), ("open_orders", .ofNat r.openOrders),
    ("positions", .ofNat r.positions), ("balances", .ofNat r.balances),
    ("missing_at_venue", ofTexts r.missing), ("errors", ofTexts r.errors),
    ("mismatches", .ofNat r.mismatches), ("success", .bool r.isSuccess)]

def failed (name : String) : Json := .object [("error", name)]

/-- What does not fit its type is answered so. -/
def unreadable : Json := failed "deserialize"

def updateTransport (f : Transport → Transport) : Sim Json := do
  modify fun w => { w with transport := f w.transport }
  pure .null

/-- A step of the coordinator's caller; none if there is no such step. -/
def orderStep? (s : Json) : Option (Sim Json) :=
  let outcome (i : Instruction Float) : Sim Json :=
    return GatewayError.outcomeToJson (← instruct i)
  match s.textAt "do" with
  | "send" => some ((OrderRequest.ofJson? (s.get "request")).elim (pure unreadable)
      fun r => outcome (.send r))
  | "cancel" => some (outcome (.cancel (s.textAt "id")))
  | "modify" =>
    some (outcome (.modify (s.textAt "id") (s.floatAt "quantity") (s.floatAt? "price")))
  | "order_event" =>
    let event := ((s.get "event").record? OrderEvent.fieldNames).bind OrderEvent.ofFields?
    some (event.elim (pure unreadable) fun e => return OrderUpdate.toJson (← receive e))
  | "handle_event" => some ((Record.ofJson? (s.get "event")).elim (pure unreadable) fun r => do
      receiveRecord r
      pure .null)
  | "query" =>
    some (return .ofOption OrderEntry.toJson ((← get).coordinator.table.find? (s.textAt "id")))
  | "open_orders" => some (return ofTexts ((← get).coordinator.table.openEntries.map (·.order.id)))
  | "venues" => some (return ofTexts ((← get).coordinator.venues.map Venue.name))
  | "reconcile" => some do
    match ← reconcile (.ofJson (s.get "venue")) with
    | .ok r => pure (ReconciliationReport.toJson r)
    | .error e => pure e.toJson
  | "resync" => some do
    match ← reconcile (.ofJson (s.get "venue")) with
    | .ok r => pure (ReconciliationReport.toJson r)
    | .error _ => pure .null
  | _ => none

/-- A step of time, of the pump, or of the far ends. -/
def worldStep? (s : Json) : Option (Sim Json) :=
  let written (act : Sim (Option Bool)) : Sim Json :=
    return ((← act).map Json.bool).getD (failed "no_peer")
  match s.textAt "do" with
  | "advance" => some do
    sleep (s.natAt "ms")
    pure .null
  | "pump" => some do
    if (← get).pump = .absent then pure (failed "no_pump")
    else
      match SessionEvent.ofJson s with
      | .error name => pure (failed name)
      | .ok e => return .bool (← pumpEvent e)
  | "stop_pump" => some do
    modify fun w => { w with pump := if w.pump = .running then .stopped else w.pump }
    pure .null
  | "drop_pump" => some do
    modify fun w => { w with pump := .absent }
    pure .null
  | "fail_next" =>
    some (updateTransport fun t => { t with failures := t.failures + s.natOr "count" 1 })
  | "refuse_all" => some (updateTransport fun t => { t with refuses := s.boolOr "on" true })
  | "attempts" => some (return .ofNat (← get).transport.attempts)
  | "accept_mode" => some (updateTransport fun t => { t with mode := .ofJson (s.get "mode") })
  | "peer_frame" => some (written (peerWriteFrame (Frame.ofJson s)))
  | "peer_raw" => some (written (peerWrite (Bytes.ofJson (s.get "bytes"))))
  | "peer_drop" => some (return .bool (← peerDrop))
  | _ => none

/-- A step of the session's caller. -/
def sessionStep (s : Json) : Sim Json := do
  let outcome (act : Sim (Except GatewayError Unit)) : Sim Json :=
    return GatewayError.outcomeToJson (← act)
  if (← get).session.isNone then pure (failed "no_session")
  else
    match s.textAt "do" with
    | "connect" => outcome (connect (s.textAt "url"))
    | "disconnect" =>
      disconnect
      pure .null
    | "subscribe" => outcome (changeSubscription (s.textAt "channel") .subscribe)
    | "unsubscribe" => outcome (changeSubscription (s.textAt "channel") .unsubscribe)
    | "send_text" => outcome (sendText (s.textAt "text"))
    | "next_id" => return .ofOption .ofNat (← takeNumber)
    | name => pure (.object [("error", "unknown_step"), ("message", name)])

/-- A step that is neither the caller's of the coordinator nor one of the world is the session's. -/
def runStep (s : Json) : Sim Json :=
  ((orderStep? s).orElse fun _ => worldStep? s).getD (sessionStep s)

end VenueGateway.Simulation
