import VenueGateway.Simulation.Scenario

namespace VenueGateway.Simulation

open Json

/-- How long the clock of a scenario may run, in microseconds. -/
def epochSpan : Int := 3600000000

mutual

/-- Times that the clock has shown since `epoch` are only shown as such. -/
def maskTimes (epoch : Int) : Json → Json
  | .array items => .array (maskItems epoch items)
  | .object fields => .object (maskFields epoch fields)
  | j => j

def maskItems (epoch : Int) : List Json → List Json
  | [] => []
  | j :: rest => maskTimes epoch j :: maskItems epoch rest

def maskFields (epoch : Int) : List (String × Json) → List (String × Json)
  | [] => []
  | (key, .number (.whole n)) :: rest =>
    let isTime := key.endsWith "_us" && epoch ≤ n && n < epoch + epochSpan
    (key, if isTime then "now" else .ofInt n) :: maskFields epoch rest
  | (key, j) :: rest => (key, maskTimes epoch j) :: maskFields epoch rest

end

def VenueCall.toJson : VenueCall → Json
  | .send r => .object [("send", r.toJson)]
  | .cancel id => .object [("cancel", id)]
  | .modify id quantity price =>
    .object [("modify", .array [.string id, .ofFloat quantity, .ofOption .ofFloat price])]
  | .rest q => .object [("rest", q.toJson)]
  | .refresh => "refresh"

/-- A whole text is shown as one. -/
def sentFrameToJson (f : Frame) : Json :=
  match (if f.opcode == .text && f.fin then Text.decodeUtf8 f.payload else none) with
  | some s => .object [("text", s)]
  | none => f.toJson

def UpgradeLog.toJson : UpgradeLog → Json
  | .upgraded r => .object [("upgrade", r.resource), ("headers", ofPairs r.headers)]
  | .read head => .object [("request", head)]

def SessionRun.toJson (run : SessionRun) (seen : Sight) : Json :=
  .object [("state", run.session.state.name), ("connected", .bool run.session.isConnected),
    ("subscriptions", ofTexts run.session.subscriptions),
    ("events", .array (seen.events.map SessionEvent.toJson)),
    ("frames", .array (seen.frames.map fun (i, f) => .array [.ofNat i, sentFrameToJson f])),
    ("wire", .array (seen.upgrades.map UpgradeLog.toJson))]

def ordersToJson (w : World) : Json :=
  maskTimes w.epoch (.array (w.coordinator.table.sorted.map OrderEntry.toJson))

def unlessEmpty (key : String) (items : List Json) : List (String × Json) :=
  if items.isEmpty then [] else [(key, .array items)]

/-- One step and what follows from it; the orders are shown when they look different. -/
def stepEntry (s shown : Json) : Sim (Json × Json) := do
  let start := (← get).now
  let result ← runStep s
  let duration := (← get).now - start
  let seen ← look
  let w ← get
  let session := (w.session.map fun run => ("session", run.toJson seen)).toList
  let orders := ordersToJson w
  let changed := if orders.text = shown.text then [] else [("orders", orders)]
  pure (.object ([("result", result), ("virtual_ms", .ofNat duration)] ++ session ++
    unlessEmpty "calls" (seen.calls.map VenueCall.toJson) ++
    unlessEmpty "published" (seen.published.map Record.toJson) ++
    unlessEmpty "updates" (seen.announced.map Record.toJson) ++ changed), orders)

def runSteps : List Json → Json → Sim (List Json)
  | [], _ => pure []
  | s :: rest, shown => do
    let (entry, shown) ← stepEntry s shown
    let entries ← runSteps rest shown
    pure (entry :: entries)

/-- Runs a scenario whose clock begins at `epoch` and whose upgrades all ask with the same key. -/
def report (epoch : Int) (key : String) (scenario : Json) : Json :=
  let (steps, w) := (runSteps (scenario.listAt "steps") (.array [])).run (.ofJson epoch key scenario)
  let registry := w.coordinator.registry
  .object [("steps", .array steps), ("dead_letters", registry.deadLetters.toJson),
    ("breakers", registry.breakersToJson), ("metrics", Metrics.toJson w.observations.reverse)]

end VenueGateway.Simulation
