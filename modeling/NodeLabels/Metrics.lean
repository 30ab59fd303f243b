import NodeLabels.Entries
import NodeLabels.Topology.Cycle
/-!
# Metrics

What the topology job counts, the families of samples that it exports, and the text in which a
monitoring system reads them.
-/

namespace NodeLabels

/-- Adds one to the count of `key`; the counts stay in the order of their keys. -/
def countUp (key : String) : List (String × Nat) → List (String × Nat)
  | [] => [(key, 1)]
  | (k, n) :: rest =>
    if key < k then (key, 1) :: (k, n) :: rest
    else if key = k then (k, n + 1) :: rest
    else (k, n) :: countUp key rest

/-- Cycles by outcome, and the time of the last success in seconds from 1970. -/
structure Metrics where
  cycles : List (String × Nat) := []
  lastSuccess : Int := 0
deriving DecidableEq, Repr

namespace Metrics

def countText (m : Metrics) (outcome : String) : Metrics :=
  { m with cycles := countUp outcome m.cycles }

def count (m : Metrics) (outcome : Topology.Outcome) : Metrics := m.countText outcome.text

def stamp (m : Metrics) (secs : Int) : Metrics := { m with lastSuccess := secs }

/-- How often the outcome was counted. -/
def counted (m : Metrics) (outcome : String) : Nat := (m.cycles.lookup outcome).getD 0

theorem lookup_countUp (key k : String) (counts : List (String × Nat)) (h : k ≠ key) :
    (countUp key counts).lookup k = counts.lookup k := by
  induction counts with
  | nil => rw [countUp, lookup_entry_cons, if_neg h]
  | cons c counts ih =>
    obtain ⟨d, n⟩ := c
    rw [countUp]
    split
    · rw [lookup_entry_cons, if_neg h]
    · split
      · rename_i heq
        have hd : k ≠ d := heq ▸ h
        rw [lookup_entry_cons, lookup_entry_cons, if_neg hd, if_neg hd]
      · rw [lookup_entry_cons, lookup_entry_cons, ih]

inductive Kind
  | counter | gauge
deriving DecidableEq, Repr

def Kind.text : Kind → String
  | .counter => "counter"
  | .gauge => "gauge"

structure Sample where
  labels : List (String × String) := []
  value : Int
deriving DecidableEq, Repr

structure Family where
  name : String
  help : String
  kind : Kind
  samples : List Sample
deriving DecidableEq, Repr

/-- The families that have samples, in the order of their names. -/
def families (m : Metrics) : List Family :=
  let cycles : Family :=
    { name := "labeler_topology_cycles_total", help := "Topology labeling cycles by outcome"
      kind := .counter
      samples := m.cycles.map fun c => { labels := [("outcome", c.1)], value := c.2 } }
  let lastSuccess : Family :=
    { name := "labeler_topology_last_success_timestamp_seconds"
      help := "Unix time of the last successful topology label patch"
      kind := .gauge, samples := [{ value := m.lastSuccess }] }
  [cycles, lastSuccess].filter (! ·.samples.isEmpty)

def escapeChar (c : Char) : List Char :=
  if c = '\\' then ['\\', '\\'] else if c = '\n' then ['\\', 'n']
  else if c = '"' then ['\\', '"'] else [c]

def labelText (label : String × String) : String :=
  label.1 ++ "=\"" ++ String.ofList (label.2.toList.flatMap escapeChar) ++ "\""

def Sample.line (name : String) (s : Sample) : String :=
  let labels :=
    if s.labels.isEmpty then ""
    else "\x7b" ++ ",".intercalate (s.labels.map labelText) ++ "\x7d"
  name ++ labels ++ " " ++ toString s.value

def Family.lines (f : Family) : List String :=
  s!"# HELP {f.name} {f.help}" :: s!"# TYPE {f.name} {f.kind.text}" ::
    f.samples.map (Sample.line f.name)

/-- All families as text, every line ended. -/
def exposition (m : Metrics) : String :=
  String.join (((m.families.flatMap Family.lines)).map (· ++ "\n"))

/-- The answer to any request at the port where the metrics are served. -/
def response (m : Metrics) : String :=
  let body := m.exposition
  "HTTP/1.1 200 OK\r\nContent-Type: text/plain; charset=utf-8\r\nContent-Length: " ++
    toString body.utf8ByteSize ++ "\r\n\r\n" ++ body

end Metrics

end NodeLabels
