import NodeLabels.Http
import NodeLabels.Text.Split
/-!
# A server in memory

A server that answers by rules. A request takes the first rule that fits it, and a rule gives its
replies one after the other, the last of them again and again. The server records what it was sent.
-/

namespace NodeLabels.InMemory

structure Rule where
  path : List Char
  /-- The method that a request has to have, if any one will not do. -/
  method : Option String := none
  /-- The page that a request has to ask for, if any one will not do. `some none` is the first page,
  which has no token. -/
  page : Option (Option (List Char)) := none
  replies : List Http.Reply := []
  /-- How many requests took the rule. -/
  taken : Nat := 0

/-- The values of a parameter in a query, as they are written. -/
def queryValues (name : List Char) (query : List Char) : List (List Char) :=
  (Text.splitAt '&' query).filterMap fun part =>
    if part.takeWhile (· ≠ '=') = name then some (part.drop (name.length + 1)) else none

/-- The token of the page that a request asks for. -/
def pageOf (r : Http.Request) : Option (List Char) :=
  (queryValues "pageToken".toList r.query).head?

def Rule.fits (rule : Rule) (r : Http.Request) : Bool :=
  r.path = rule.path && rule.method.all (· = r.method.text) && rule.page.all (· = pageOf r)

def notFound : Http.Reply := .answer 404 []

/-- The reply as it can be sent: two statuses leave no place for a body. -/
def asSent : Http.Reply → Http.Reply
  | .answer status body complete =>
    if status = 204 ∨ status = 304 then .answer status [] else .answer status body complete
  | .lost reasons => .lost reasons

/-- The reply to the next request that takes the rule. -/
def Rule.reply (rule : Rule) : Http.Reply :=
  asSent (((rule.replies[rule.taken]?).or rule.replies.getLast?).getD notFound)

/-- The reply of the first rule that fits, and the rules after it. -/
def takeRule (r : Http.Request) : List Rule → Http.Reply × List Rule
  | [] => (notFound, [])
  | rule :: rules =>
    if rule.fits r then (rule.reply, { rule with taken := rule.taken + 1 } :: rules)
    else
      let (reply, rules) := takeRule r rules
      (reply, rule :: rules)

structure Server where
  origin : String
  rules : List Rule := []
  /-- Why nothing can be reached, if so. -/
  outage : Option String := none
  /-- The requests that arrived. -/
  requests : List Http.Request := []

namespace Server

/-- Sends a request. Other servers than this one refuse connections. -/
def answer (r : Http.Request) (s : Server) : Http.Reply × Server :=
  match s.outage with
  | some why => (.noConnection why, s)
  | none =>
    if r.origin = s.origin then
      let (reply, rules) := takeRule r s.rules
      (reply, { s with rules, requests := s.requests ++ [r] })
    else (.noConnection "Connection refused (os error 111)", s)

end Server

end NodeLabels.InMemory
