import NodeLabels.Machine
import NodeLabels.Proofs.Dialogue.Exchange
/-!
# Requests with a purpose

The requests of a run, each with what it is for. `Takes` says which requests a dialogue makes and
what comes of it, in one specification, and puts those of a composed dialogue together from those of
its parts.
-/

namespace NodeLabels.Http

open Dialogue (Exchange Returns)

/-- What a request is for: the list of nodes, a token, the ID of an instance, a page of its
predictions, or the patch of a node. -/
inductive Purpose
  | listing | token | lookup | page | patch
deriving DecidableEq

/-- The request goes to a cloud service that wants a token. -/
def Purpose.isRead : Purpose → Bool
  | .lookup | .page => true
  | .listing | .token | .patch => false

structure Step where
  purpose : Purpose
  request : Http.Request
  reply : Http.Reply

def Step.exchange (x : Step) : Exchange Http.port := ⟨x.request, x.reply⟩

/-! ## The requests of a dialogue -/

section

variable {P : Port} {α β σ : Type} {sent? : Exchange P → Option (Exchange Http.port)}
  {reply : (c : P.Call) → σ → P.Reply c × σ} {spec : Except Halt α → List Step → Prop}
  {spec' : Except Halt β → List Step → Prop}

/-- From every state the dialogue takes steps that meet the specification together with what comes
of it. Its requests are those of the exchanges that `sent?` shows. -/
def Takes (sent? : Exchange P → Option (Exchange Http.port))
    (reply : (c : P.Call) → σ → P.Reply c × σ) (d : Dialogue P α)
    (spec : Except Halt α → List Step → Prop) : Prop :=
  ∀ s, ∃ steps, (d.exchanges reply s).filterMap sent? = steps.map Step.exchange ∧
    spec (d.run reply s).value steps

/-- The dialogue is not halted, and its value and its steps are related. -/
def returned (rel : α → List Step → Prop) (v : Except Halt α) (steps : List Step) : Prop :=
  ∃ a, v = .ok a ∧ rel a steps

namespace Takes

theorem done {a : α} (h : spec (.ok a) []) : Takes sent? reply (.done a) spec :=
  fun _ => ⟨[], rfl, h⟩

theorem halt {why : Halt} (h : spec (.error why) []) : Takes sent? reply (.halt why) spec :=
  fun _ => ⟨[], rfl, h⟩

theorem report {d : Dialogue P α} (h : Takes sent? reply d spec) (e : Event) :
    Takes sent? reply (.report e d) spec := h

theorem tell_bind {f : Unit → Dialogue P α} (h : Takes sent? reply (f ()) spec) (e : Event) :
    Takes sent? reply (.tell e >>= f) spec := h

theorem mono {d : Dialogue P α} {weaker : Except Halt α → List Step → Prop}
    (h : Takes sent? reply d spec) (hspec : ∀ v steps, spec v steps → weaker v steps) :
    Takes sent? reply d weaker := by
  intro s
  obtain ⟨steps, hsent, hsteps⟩ := h s
  exact ⟨steps, hsent, hspec _ _ hsteps⟩

theorem bind {d : Dialogue P α} {f : α → Dialogue P β} (h : Takes sent? reply d spec)
    (hf : ∀ a steps, spec (.ok a) steps →
      Takes sent? reply (f a) fun v more => spec' v (steps ++ more))
    (hhalt : ∀ why steps, spec (.error why) steps → spec' (.error why) steps) :
    Takes sent? reply (d >>= f) spec' := by
  intro s
  obtain ⟨steps, hsent, hsteps⟩ := h s
  cases hv : (d.run reply s).value with
  | error why =>
    rw [hv] at hsteps
    rw [Dialogue.exchanges_bind_halted hv, Dialogue.value_bind_halted hv]
    exact ⟨steps, hsent, hhalt why steps hsteps⟩
  | ok a =>
    rw [hv] at hsteps
    have hreturns := Returns.of_value hv
    obtain ⟨more, hmore, hall⟩ := hf a steps hsteps (d.run reply s).state
    rw [hreturns.exchanges_bind, hreturns.value_bind, List.filterMap_append, hsent, hmore]
    exact ⟨steps ++ more, List.map_append.symm, hall⟩

/-- After a part that is not halted. -/
theorem bind_returned {d : Dialogue P α} {f : α → Dialogue P β} {rel : α → List Step → Prop}
    (h : Takes sent? reply d (returned rel))
    (hf : ∀ a steps, rel a steps → Takes sent? reply (f a) fun v more => spec' v (steps ++ more)) :
    Takes sent? reply (d >>= f) spec' := by
  refine h.bind ?_ ?_
  · rintro a steps ⟨b, hb, hrel⟩
    obtain rfl := Except.ok.inj hb
    exact hf a steps hrel
  · rintro why steps ⟨b, hb, -⟩
    cases hb

/-! Calls that are carried out by dialogues of their own. -/

section

variable {Q : Port} {t : (c : Q.Call) → Dialogue P (Q.Reply c)}

theorem translate_ask_bind {c : Q.Call} {f : Q.Reply c → Dialogue Q β}
    {called : Except Halt (Q.Reply c) → List Step → Prop} (h : Takes sent? reply (t c) called)
    (hf : ∀ r steps, called (.ok r) steps →
      Takes sent? reply ((f r).translate t) fun v more => spec' v (steps ++ more))
    (hhalt : ∀ why steps, called (.error why) steps → spec' (.error why) steps) :
    Takes sent? reply ((Dialogue.ask c >>= f).translate t) spec' := h.bind hf hhalt

theorem translate_ask_bind_returned {c : Q.Call} {f : Q.Reply c → Dialogue Q β}
    {rel : Q.Reply c → List Step → Prop} (h : Takes sent? reply (t c) (returned rel))
    (hf : ∀ r steps, rel r steps →
      Takes sent? reply ((f r).translate t) fun v more => spec' v (steps ++ more)) :
    Takes sent? reply ((Dialogue.ask c >>= f).translate t) spec' := h.bind_returned hf

theorem translate_bind {d : Dialogue Q α} {f : α → Dialogue Q β}
    (h : Takes sent? reply (d.translate t) spec)
    (hf : ∀ a steps, spec (.ok a) steps →
      Takes sent? reply ((f a).translate t) fun v more => spec' v (steps ++ more))
    (hhalt : ∀ why steps, spec (.error why) steps → spec' (.error why) steps) :
    Takes sent? reply ((d >>= f).translate t) spec' := by
  rw [Dialogue.translate_bind]
  exact h.bind hf hhalt

theorem translate_tell_bind {f : Unit → Dialogue Q α}
    (h : Takes sent? reply ((f ()).translate t) spec) (e : Event) :
    Takes sent? reply ((Dialogue.tell e >>= f).translate t) spec := h

theorem translate_tellAll_bind {f : Unit → Dialogue Q α}
    (h : Takes sent? reply ((f ()).translate t) spec) (es : List Event) :
    Takes sent? reply ((Dialogue.tellAll es >>= f).translate t) spec := by
  induction es with
  | nil => exact h
  | cons e es ih => exact ih.report e

end

end Takes

end

/-- Where nothing but requests is exchanged. -/
abbrev Requests {σ α : Type} (reply : (r : Http.port.Call) → σ → Http.port.Reply r × σ)
    (d : Dialogue Http.port α) (spec : Except Halt α → List Step → Prop) : Prop :=
  Takes some reply d spec

theorem send_takes {σ : Type} (reply : (r : Http.port.Call) → σ → Http.port.Reply r × σ)
    (purpose : Purpose) (r : Http.Request) : Requests reply (Http.send r)
      (returned fun answer steps => steps = [⟨purpose, r, answer⟩]) :=
  fun s => ⟨[⟨purpose, r, (reply r s).1⟩], rfl, _, rfl, rfl⟩

/-! ## Machines -/

/-- The request in an exchange of the machine, if it is one that sends a request. -/
def sent? (x : Exchange Machine.port) : Option (Exchange Http.port) :=
  match x with
  | ⟨.send _ request, answer⟩ => some ⟨request, answer⟩
  | _ => none

section

variable {σ α : Type} {reply : (c : Machine.port.Call) → σ → Machine.port.Reply c × σ}

/-- The server that a machine shows to requests with this limit. -/
def server (reply : (c : Machine.port.Call) → σ → Machine.port.Reply c × σ) (limit : Option Span)
    (r : Http.port.Call) (s : σ) : Http.port.Reply r × σ := reply (.send limit r) s

theorem value_exchange (limit : Option Span) (d : Dialogue Http.port α) (s : σ) :
    ((Machine.exchange limit d).run reply s).value = (d.run (server reply limit) s).value := by
  induction d generalizing s with
  | done a => rfl
  | halt why => rfl
  | report e d ih => exact ih s
  | call r k ih => exact ih _ _

theorem sent_exchange (limit : Option Span) (d : Dialogue Http.port α) (s : σ) :
    ((Machine.exchange limit d).exchanges reply s).filterMap sent? =
      d.exchanges (server reply limit) s := by
  induction d generalizing s with
  | done a => rfl
  | halt why => rfl
  | report e d ih => exact ih s
  | call r k ih => exact congrArg (List.cons _) (ih _ _)

/-- An exchange with a server as the machine makes it. -/
def sending (limit : Option Span) (x : Exchange Http.port) : Exchange Machine.port :=
  ⟨.send limit x.1, x.2⟩

theorem exchange_returns {limit : Option Span} {d : Dialogue Http.port α} {s t : σ} {a : α}
    {log : List (Exchange Http.port)} (h : Returns (server reply limit) d s a t log) :
    Returns reply (Machine.exchange limit d) s a t (log.map (sending limit)) := by
  induction d generalizing s log with
  | done b =>
    obtain ⟨hv, rfl, rfl⟩ := h
    cases hv
    exact .done _ _
  | halt why => exact nomatch h.value
  | report e d ih => exact (ih ⟨h.value, h.state, h.exchanges⟩).report e
  | call r k ih =>
    obtain ⟨hv, hs, rfl⟩ := h
    exact (ih (reply (.send limit r) s).1 ⟨hv, hs, rfl⟩).call

theorem exchange_takes {limit : Option Span} {d : Dialogue Http.port α}
    {spec : Except Halt α → List Step → Prop} (h : Requests (server reply limit) d spec) :
    Takes sent? reply (Machine.exchange limit d) spec := by
  intro s
  obtain ⟨steps, hsent, hsteps⟩ := h s
  rw [sent_exchange, value_exchange]
  exact ⟨steps, by rwa [List.filterMap_some] at hsent, hsteps⟩

end

end NodeLabels.Http
