import NodeLabels.Dialogue
import NodeLabels.Json.Basic
/-!
# HTTP exchanges

Requests as they are sent, and what comes back.
-/

namespace NodeLabels.Http

inductive Method
  | get | patch
deriving DecidableEq, Repr

def Method.text : Method → String
  | .get => "GET"
  | .patch => "PATCH"

structure Request where
  method : Method := .get
  /-- The server: its scheme, host and port. -/
  origin : String
  /-- The path and the query. -/
  target : String
  headers : List (String × String) := []
  body : Option Json := none

/-- The path as it is sent. -/
def Request.path (r : Request) : List Char := r.target.toList.takeWhile (· ≠ '?')

/-- The query as it is sent. -/
def Request.query (r : Request) : List Char := (r.target.toList.dropWhile (· ≠ '?')).tail

inductive Reply
  /-- No answer came. The reasons lead from the outermost to the bottom of the matter. -/
  | lost (reasons : List String)
  /-- An answer, which may have been cut short. -/
  | answer (status : Nat) (body : List UInt8) (complete : Bool := true)

/-- No connection came about, for this reason. -/
def Reply.noConnection (why : String) : Reply :=
  .lost [s!"error trying to connect: tcp connect error: {why}", s!"tcp connect error: {why}", why]

/-- The connection was closed before an answer came. -/
def Reply.dropped : Reply := .lost ["connection closed before message completed"]

def isSuccess (status : Nat) : Bool := 200 ≤ status && status < 300

def isRefusal (status : Nat) : Bool := 400 ≤ status && status < 600

/-- The phrase that belongs to a status. -/
def phrase? (status : Nat) : Option String :=
  [(100, "Continue"), (101, "Switching Protocols"), (102, "Processing"), (200, "OK"),
    (201, "Created"), (202, "Accepted"), (203, "Non Authoritative Information"),
    (204, "No Content"), (205, "Reset Content"), (206, "Partial Content"), (207, "Multi-Status"),
    (208, "Already Reported"), (226, "IM Used"), (300, "Multiple Choices"),
    (301, "Moved Permanently"), (302, "Found"), (303, "See Other"), (304, "Not Modified"),
    (305, "Use Proxy"), (307, "Temporary Redirect"), (308, "Permanent Redirect"),
    (400, "Bad Request"), (401, "Unauthorized"), (402, "Payment Required"), (403, "Forbidden"),
    (404, "Not Found"), (405, "Method Not Allowed"), (406, "Not Acceptable"),
    (407, "Proxy Authentication Required"), (408, "Request Timeout"), (409, "Conflict"),
    (410, "Gone"), (411, "Length Required"), (412, "Precondition Failed"),
    (413, "Payload Too Large"), (414, "URI Too Long"), (415, "Unsupported Media Type"),
    (416, "Range Not Satisfiable"), (417, "Expectation Failed"), (418, "I'm a teapot"),
    (421, "Misdirected Request"), (422, "Unprocessable Entity"), (423, "Locked"),
    (424, "Failed Dependency"), (426, "Upgrade Required"), (428, "Precondition Required"),
    (429, "Too Many Requests"), (431, "Request Header Fields Too Large"),
    (451, "Unavailable For Legal Reasons"), (500, "Internal Server Error"),
    (501, "Not Implemented"), (502, "Bad Gateway"), (503, "Service Unavailable"),
    (504, "Gateway Timeout"), (505, "HTTP Version Not Supported"),
    (506, "Variant Also Negotiates"), (507, "Insufficient Storage"), (508, "Loop Detected"),
    (510, "Not Extended"), (511, "Network Authentication Required")].lookup status

def statusText (status : Nat) : String :=
  toString status ++ " " ++ (phrase? status).getD "<unknown status code>"

def port : Port where
  Call := Request
  Reply _ := Reply

def send (r : Request) : Dialogue port Reply := .ask (P := port) r

end NodeLabels.Http
