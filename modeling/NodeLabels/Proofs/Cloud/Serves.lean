import NodeLabels.Proofs.Calendar.Instant
import NodeLabels.Proofs.Cloud.Fetch
/-!
# Worlds that answer each page in one way

`Serves` is what statements about the pages of a server assume. A server that looks at nothing but
the page token in a request fulfils it (`serves_table`), and so does one that hands out changing
access tokens beside.
-/

namespace NodeLabels.Cloud.Monitoring

open Dialogue (Exchange Returns)

variable {σ : Type}

/-- Each page is answered in one way, whatever was asked before. -/
def Serves (m : Monitoring) (project instanceId : String) (window : Window)
    (reply : (r : Http.port.Call) → σ → Http.port.Reply r × σ)
    (pages : Option String → Except SourceFault Page) : Prop :=
  ∀ page s, ((m.fetchPage project instanceId window page).run reply s).value = .ok (pages page)

variable {m : Monitoring} {project : String} {base : Url}

/-- What a client makes of a page, if `answer` is the reply for it. -/
def pageOfReply (base : Url) (token instanceId : String) (window : Window) (page : Option String)
    (answer : Http.Reply) : Except SourceFault Page :=
  match prepare endpoint (base.addQuery (pageQuery instanceId window page)) [bearer token] with
  | .error fault => .error fault
  | .ok _ =>
    received endpoint (base.addQuery (pageQuery instanceId window page)) answer >>=
      jsonBody readPage endpoint

theorem serves_table {token : String}
    (hbase : Url.parse (Url.join m.base s!"v3/projects/{project}/timeSeries") = .ok base)
    (htoken : m.tokens = .fixed token) (instanceId : String) (window : Window)
    (table : Option String → Http.Reply) :
    Serves m project instanceId window (fun r (s : σ) => (table (pageToken? m project r), s))
      fun page => pageOfReply base token instanceId window page (table page) := by
  intro page s
  have hu : m.url project instanceId window page =
      .ok (base.addQuery (pageQuery instanceId window page)) := by rw [url, hbase]
  have ht : Returns (fun r (s : σ) => (table (pageToken? m project r), s)) m.tokens.token s
      (.ok token) s [] := by
    rw [htoken]
    exact .done _ _
  cases hr : prepare endpoint (base.addQuery (pageQuery instanceId window page)) [bearer token] with
  | error fault =>
    dsimp only
    rw [pageOfReply, hr]
    exact (fetchPage_refused m project instanceId window page hu ht hr).value
  | ok r =>
    have hpage : pageToken? m project r = page :=
      pageToken?_of_target m project instanceId window page hbase (prepare_eq_ok hr).1
    have h := (fetchPage_sent m project instanceId window page hu ht hr).value
    dsimp only at h ⊢
    rw [hpage] at h
    rwa [pageOfReply, hr]

theorem pageOfReply_eq_ok {p : Page} {token instanceId : String} {window : Window}
    {page : Option String} {answer : Http.Reply}
    (hsendable : Sendable (base.addQuery (pageQuery instanceId window page)) [bearer token])
    (h : pageIn answer = some p) :
    pageOfReply base token instanceId window page answer = .ok p := by
  rw [pageOfReply, prepare_eq_ok_iff.2 ⟨hsendable, rfl⟩]
  exact eq_ok_of_toOption ((toOption_received _ answer).trans h)

/-! ## A small server -/

def document (text : String) : Http.Reply := .answer 200 (Text.encode text.toList)

/-- A client of a server at a plain address. -/
def plainClient : Monitoring := { base := "http://m", tokens := .fixed "t" }

def plainProject : String := "p"

def plainBase : Url :=
  { scheme := "http".toList, authority := some { host := .name "m".toList }
    path := .segments ["v3".toList, "projects".toList, "p".toList, "timeSeries".toList] }

def quarter : Window := { start := .early 0, stop := .early 900 }

theorem parse_plainBase :
    Url.parse (Url.join plainClient.base s!"v3/projects/{plainProject}/timeSeries") =
      .ok plainBase :=
  eq_ok_of_toOption (by decide +kernel)

theorem sendable_plainBase {pairs : List (String × String)}
    (haddress : Http.Uri.isSendable (site plainBase) (plainBase.addQuery pairs).resource = true) :
    Sendable (plainBase.addQuery pairs) [bearer "t"] :=
  ⟨rfl, by decide, .inl rfl, haddress⟩

/-- The world of a server that looks at the page token alone. -/
def tableWorld (table : Option String → Http.Reply) (r : Http.port.Call) (s : Unit) :
    Http.port.Reply r × Unit := (table (pageToken? plainClient plainProject r), s)

def plainPages (table : Option String → Http.Reply) (page : Option String) :
    Except SourceFault Page := pageOfReply plainBase "t" "1" quarter page (table page)

theorem plainClient_serves (table : Option String → Http.Reply) :
    Serves plainClient plainProject "1" quarter (tableWorld table) (plainPages table) :=
  serves_table parse_plainBase rfl "1" quarter table

end NodeLabels.Cloud.Monitoring
