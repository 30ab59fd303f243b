import NodeLabels.Event
/-!
# Dialogues

A dialogue is a computation that calls on the outside world through a port and reports events on
the way. It says what is called and what is done with each reply, and leaves open who replies:
`Dialogue.run` plays it against replies that may depend on a state, and `Dialogue.translate` carries
it from one port to another, each call becoming a dialogue of its own.

A dialogue can also end without a value, which is told apart from every value: a loop whose length
the world decides is given a patience and halts when it is used up, and a computation halts that
would leave the calendar.
-/

namespace NodeLabels

/-- The calls that can be made, and what each is answered with. -/
structure Port where
  Call : Type
  Reply : Call → Type

/-- Why a dialogue ended without a value. -/
inductive Halt
  | outOfPatience
  | dateOutOfRange
deriving DecidableEq, Repr

/-- The text with which the program as a whole gives up. -/
def Halt.message : Halt → String
  | .outOfPatience => "no end in sight"
  | .dateOutOfRange => "`DateTime - TimeDelta` overflowed"

inductive Dialogue (P : Port) (α : Type) : Type
  | done (value : α)
  | halt (why : Halt)
  | report (event : Event) (rest : Dialogue P α)
  | call (c : P.Call) (rest : P.Reply c → Dialogue P α)

namespace Dialogue

variable {P Q : Port} {α β γ σ : Type}

def bind : Dialogue P α → (α → Dialogue P β) → Dialogue P β
  | done a, f => f a
  | halt why, _ => halt why
  | report e d, f => report e (d.bind f)
  | call c k, f => call c fun r => (k r).bind f

instance : Monad (Dialogue P) where
  pure := done
  bind := bind

@[simp] theorem pure_eq (a : α) : (pure a : Dialogue P α) = done a := rfl

@[simp] theorem done_bind (a : α) (f : α → Dialogue P β) : done a >>= f = f a := rfl

@[simp] theorem halt_bind (why : Halt) (f : α → Dialogue P β) :
    (halt why : Dialogue P α) >>= f = halt why := rfl

@[simp] theorem report_bind (e : Event) (d : Dialogue P α) (f : α → Dialogue P β) :
    report e d >>= f = report e (d >>= f) := rfl

@[simp] theorem call_bind (c : P.Call) (k : P.Reply c → Dialogue P α) (f : α → Dialogue P β) :
    call c k >>= f = call c fun r => k r >>= f := rfl

theorem bind_done (d : Dialogue P α) : d >>= done = d := by
  induction d with
  | done a => rfl
  | halt why => rfl
  | report e d ih => rw [report_bind, ih]
  | call c k ih =>
    rw [call_bind]
    congr 1
    exact funext ih

theorem bind_assoc (d : Dialogue P α) (f : α → Dialogue P β) (g : β → Dialogue P γ) :
    d >>= f >>= g = d >>= fun a => f a >>= g := by
  induction d with
  | done a => rfl
  | halt why => rfl
  | report e d ih => rw [report_bind, report_bind, report_bind, ih]
  | call c k ih =>
    rw [call_bind, call_bind, call_bind]
    congr 1
    exact funext ih

/-- Makes one call and returns its reply. -/
def ask (c : P.Call) : Dialogue P (P.Reply c) := call c done

def tell (e : Event) : Dialogue P Unit := report e (done ())

def tellAll (es : List Event) : Dialogue P Unit := es.foldr report (done ())

/-- Turns every call into a dialogue through another port. -/
def translate (t : (c : P.Call) → Dialogue Q (P.Reply c)) : Dialogue P α → Dialogue Q α
  | done a => done a
  | halt why => halt why
  | report e d => report e (d.translate t)
  | call c k => (t c).bind fun r => (k r).translate t

theorem translate_bind (t : (c : P.Call) → Dialogue Q (P.Reply c)) (d : Dialogue P α)
    (f : α → Dialogue P β) :
    (d >>= f).translate t = d.translate t >>= fun a => (f a).translate t := by
  induction d with
  | done a => rfl
  | halt why => rfl
  | report e d ih => rw [report_bind, translate, ih]; rfl
  | call c k ih =>
    rw [call_bind, translate, translate]
    exact (congrArg (t c).bind (funext ih)).trans (bind_assoc (t c) _ _).symm

theorem translate_ask (t : (c : P.Call) → Dialogue Q (P.Reply c)) (c : P.Call) :
    (ask c).translate t = t c := bind_done (t c)

/-- How a dialogue went: its value unless it was halted, the state that the world ended in, and what
was called and reported in order. -/
structure Transcript (P : Port) (σ α : Type) where
  value : Except Halt α
  state : σ
  calls : List P.Call := []
  events : List Event := []

/-- Plays a dialogue against a world with a state. -/
def run (reply : (c : P.Call) → σ → P.Reply c × σ) : Dialogue P α → σ → Transcript P σ α
  | done a, s => { value := .ok a, state := s }
  | halt why, s => { value := .error why, state := s }
  | report e d, s =>
    let t := d.run reply s
    { t with events := e :: t.events }
  | call c k, s =>
    let t := (k (reply c s).1).run reply (reply c s).2
    { t with calls := c :: t.calls }

/-- Plays a dialogue against a world whose replies depend on the calls alone. -/
def runPure (reply : (c : P.Call) → P.Reply c) (d : Dialogue P α) : Transcript P Unit α :=
  d.run (fun c s => (reply c, s)) ()

/-- What comes of running `d` and then, if it was not halted, `f` on its value. -/
theorem run_bind (reply : (c : P.Call) → σ → P.Reply c × σ) (d : Dialogue P α)
    (f : α → Dialogue P β) (s : σ) :
    (d >>= f).run reply s =
      let t := d.run reply s
      match t.value with
      | .error why =>
        { value := .error why, state := t.state, calls := t.calls, events := t.events }
      | .ok a =>
        let u := (f a).run reply t.state
        { u with calls := t.calls ++ u.calls, events := t.events ++ u.events } := by
  induction d generalizing s with
  | done a => rfl
  | halt why => rfl
  | report e d ih =>
    rw [report_bind, run, run, ih]
    cases h : (d.run reply s).value <;> simp [h]
  | call c k ih =>
    rw [call_bind, run, run, ih]
    cases h : ((k (reply c s).1).run reply (reply c s).2).value <;> simp [h]

end Dialogue

end NodeLabels
