import NodeLabels.Calendar.Timestamp
import NodeLabels.Cloud.Token
import NodeLabels.Signal
import NodeLabels.Window
/-!
# The monitoring service

The failure predictions of an instance within a window, page by page. Only the first prediction
counts, so no page is asked for once one is found; and a server that names a page for the second
time is not followed.
-/

namespace NodeLabels.Cloud

structure Monitoring where
  base : String
  tokens : TokenSource
deriving DecidableEq, Repr

namespace Monitoring

def endpoint : String := "monitoring/timeSeries.list"

/-- Selects the failure predictions of one instance. -/
def filter (instanceId : String) : String :=
  "metric.type=\"" ++ Label.predictionMetric ++ "\" AND resource.type=\"" ++ Label.gceResource ++
    "\" AND resource.labels.instance_id=\"" ++ instanceId ++ "\""

def pageQuery (instanceId : String) (window : Window) (page : Option String) :
    List (String × String) :=
  [("filter", filter instanceId), ("interval.startTime", window.start.timestamp),
    ("interval.endTime", window.stop.timestamp), ("view", "HEADERS")] ++
    match page with
    | some token => [("pageToken", token)]
    | none => []

/-- The URL of a page. -/
def url (m : Monitoring) (project instanceId : String) (window : Window) (page : Option String) :
    Except SourceFault Url :=
  match Url.parse (Url.join m.base s!"v3/projects/{project}/timeSeries") with
  | .error fault => .error (.request endpoint fault.message)
  | .ok u => .ok (u.addQuery (pageQuery instanceId window page))

structure Page where
  series : List Series
  next : Option String
deriving DecidableEq

def readMetric : Json.Reader Series := fun j => do
  let [metric, labels] ← Json.Reader.fields ["type", "labels"] j | none
  return {
    metric := ← Json.Reader.orElse Json.Reader.string "" metric
    labels := ← Json.Reader.orElse Json.Reader.labels ∅ labels }

def readSeries : Json.Reader Series := fun j => do
  let [metric] ← Json.Reader.fields ["metric"] j | none
  Json.Reader.orElse readMetric { metric := "" } metric

def readPage : Json.Reader Page := fun j => do
  let [series, next] ← Json.Reader.fields ["timeSeries", "nextPageToken"] j | none
  return {
    series := ← Json.Reader.orElse (Json.Reader.list readSeries) [] series
    next := ← Json.Reader.orElse (Json.Reader.optional Json.Reader.string) none next }

/-- The page that follows, if one is named. -/
def Page.next? (p : Page) : Option String := p.next.filter (· ≠ "")

/-- Gets one page, with a token of its own. -/
def fetchPage (m : Monitoring) (project instanceId : String) (window : Window)
    (page : Option String) : Dialogue Http.port (Except SourceFault Page) := do
  match m.url project instanceId window page with
  | .error fault => return .error fault
  | .ok u =>
    match ← m.tokens.token with
    | .error fault => return .error fault
    | .ok token => return (← fetch endpoint u [bearer token]) >>= jsonBody readPage endpoint

def event (level : Level) (message instanceId : String) (field : String × Event.Value) : Event :=
  { level, reporter := .monitoring, message
    fields := [("instance_id", .text instanceId), field] }

/-- Follows the pages from `page` on. `seen` are the pages that were named so far, and `found` the
series on those before `page`. -/
def collect (m : Monitoring) (project instanceId : String) (window : Window) :
    (patience : Nat) → (page : Option String) → (seen : List String) → (found : List Series) →
      Dialogue Http.port (Except SourceFault (List Series))
  | 0, _, _, _ => .halt .outOfPatience
  | patience + 1, page, seen, found => do
    match ← m.fetchPage project instanceId window page with
    | .error fault => return .error fault
    | .ok p =>
      let found := found ++ p.series
      if found.any (·.prediction?.isSome) then return .ok found
      else match p.next? with
        | none => return .ok found
        | some next =>
          if next ∈ seen then
            .tell (event .warn "Repeated page token, stopping pagination" instanceId
              ("page_token", .text next))
            return .ok found
          else collect m project instanceId window patience (some next) (next :: seen) found

/-- The series of an instance in a window, up to the page with the first prediction. At most
`patience` pages are asked for. -/
def predictionSeries (m : Monitoring) (patience : Nat) (project instanceId : String)
    (window : Window) : Dialogue Http.port (Except SourceFault (List Series)) := do
  match ← m.collect project instanceId window patience none [] [] with
  | .error fault => return .error fault
  | .ok found =>
    .tell (event .debug "Fetched failure prediction series" instanceId
      ("count", .count found.length))
    return .ok found

end Monitoring

end NodeLabels.Cloud
