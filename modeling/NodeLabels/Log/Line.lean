import NodeLabels.Calendar.Instant
import NodeLabels.Event
import NodeLabels.Json.Basic
import NodeLabels.Calendar.Timestamp
/-!
# Log lines

An event as a line of the log, as a JSON document or as plain text, with the time at which it was
reported.
-/

namespace NodeLabels.Log

def valueJson : Event.Value → Json
  | .text s => .string s
  | .count n => .ofNat n
  | .flag b => .bool b

def valueText : Event.Value → String
  | .text s => s
  | .count n => toString n
  | .flag b => toString b

def jsonLine (time : Calendar.Instant) (e : Event) : String :=
  (Json.object [("timestamp", .string time.timestamp), ("level", .string e.level.text),
    ("fields", .object (("message", .string e.message) ::
      e.fields.map fun f => (f.1, valueJson f.2))),
    ("target", .string e.reporter.path)]).text

/-- Levels take the width of the longest one. -/
def levelColumn (l : Level) : String :=
  String.ofList (List.replicate (5 - l.text.length) ' ') ++ l.text

def plainLine (time : Calendar.Instant) (e : Event) : String :=
  s!"{time.timestamp} {levelColumn e.level} {e.reporter.path}: {e.message}" ++
    String.join (e.fields.map fun f => s!" {f.1}={valueText f.2}")

end NodeLabels.Log
