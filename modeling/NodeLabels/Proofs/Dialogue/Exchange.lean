import Mathlib.Tactic.Choose
import NodeLabels.Dialogue
/-!
# Exchanges of a dialogue

The calls of a run together with the replies that they got, and a big-step view of runs: `Returns`
says what a dialogue returns, where it leaves the world and what it exchanged on the way. A composed
dialogue is reasoned about through `Returns.bind`, so no proof looks inside the tree of calls.
-/

namespace NodeLabels.Dialogue

variable {P : Port} {α β σ : Type}

/-- A call with its reply. -/
abbrev Exchange (P : Port) := (c : P.Call) × P.Reply c

/-- The exchanges of a run, in order. -/
def exchanges (reply : (c : P.Call) → σ → P.Reply c × σ) : Dialogue P α → σ → List (Exchange P)
  | done _, _ => []
  | halt _, _ => []
  | report _ d, s => d.exchanges reply s
  | call c k, s => ⟨c, (reply c s).1⟩ :: (k (reply c s).1).exchanges reply (reply c s).2

theorem calls_run (reply : (c : P.Call) → σ → P.Reply c × σ) (d : Dialogue P α) (s : σ) :
    (d.run reply s).calls = (d.exchanges reply s).map Sigma.fst := by
  induction d generalizing s with
  | done a => rfl
  | halt why => rfl
  | report e d ih => exact ih s
  | call c k ih => exact congrArg (c :: ·) (ih (reply c s).1 (reply c s).2)

theorem state_run (reply : (c : P.Call) → σ → P.Reply c × σ) (d : Dialogue P α) (s : σ) :
    (d.run reply s).state = (d.exchanges reply s).foldl (fun s x => (reply x.1 s).2) s := by
  induction d generalizing s with
  | done a => rfl
  | halt why => rfl
  | report e d ih => exact ih s
  | call c k ih => exact ih (reply c s).1 (reply c s).2

/-- A last part that only turns the value into another one. -/
theorem run_bind_done (reply : (c : P.Call) → σ → P.Reply c × σ) (d : Dialogue P α) (g : α → β)
    (s : σ) : (d >>= fun a => .done (g a)).run reply s =
      let t := d.run reply s
      { value := t.value.map g, state := t.state, calls := t.calls, events := t.events } := by
  rw [run_bind]
  cases hv : (d.run reply s).value <;> simp [hv, run, Except.map]

theorem run_tellAll_bind (reply : (c : P.Call) → σ → P.Reply c × σ) (es : List Event)
    (f : Unit → Dialogue P α) (s : σ) : (.tellAll es >>= f : Dialogue P α).run reply s =
      let t := (f ()).run reply s
      { t with events := es ++ t.events } := by
  induction es with
  | nil => rfl
  | cons e es ih =>
    change ({ (tellAll es >>= f).run reply s with
      events := e :: ((tellAll es >>= f).run reply s).events } : Transcript P σ α) = _
    rw [ih]
    rfl

/-- Nothing is exchanged after a halt. -/
theorem exchanges_bind_halted {reply : (c : P.Call) → σ → P.Reply c × σ} {d : Dialogue P α}
    {s : σ} {why : Halt} (h : (d.run reply s).value = .error why) (f : α → Dialogue P β) :
    (d >>= f).exchanges reply s = d.exchanges reply s := by
  induction d generalizing s with
  | done a => cases h
  | halt why => rfl
  | report e d ih => exact ih h
  | call c k ih => exact congrArg (List.cons _) (ih (reply c s).1 h)

theorem value_bind_halted {reply : (c : P.Call) → σ → P.Reply c × σ} {d : Dialogue P α} {s : σ}
    {why : Halt} (h : (d.run reply s).value = .error why) (f : α → Dialogue P β) :
    ((d >>= f).run reply s).value = .error why := by
  simp only [run_bind, h]

/-- Run from `s`, the dialogue returns `a`, leaves the world in `t` and exchanges `log`. -/
structure Returns (reply : (c : P.Call) → σ → P.Reply c × σ) (d : Dialogue P α) (s : σ) (a : α)
    (t : σ) (log : List (Exchange P)) : Prop where
  value : (d.run reply s).value = .ok a
  state : (d.run reply s).state = t
  exchanges : d.exchanges reply s = log

namespace Returns

variable {reply : (c : P.Call) → σ → P.Reply c × σ} {s t u : σ} {a : α} {b : β}
  {log rest : List (Exchange P)}

theorem done (a : α) (s : σ) : Returns reply (.done a) s a s [] := ⟨rfl, rfl, rfl⟩

theorem report {d : Dialogue P α} (h : Returns reply d s a t log) (e : Event) :
    Returns reply (.report e d) s a t log := ⟨h.value, h.state, h.exchanges⟩

theorem call {c : P.Call} {k : P.Reply c → Dialogue P α}
    (h : Returns reply (k (reply c s).1) (reply c s).2 a t log) :
    Returns reply (.call c k) s a t (⟨c, (reply c s).1⟩ :: log) :=
  ⟨h.value, h.state, congrArg _ h.exchanges⟩

theorem ask {c : P.Call} {r : P.Reply c} (h : reply c s = (r, t)) :
    Returns reply (.ask c) s r t [⟨c, r⟩] := by
  obtain ⟨rfl, rfl⟩ := Prod.ext_iff.1 h
  exact (Returns.done _ _).call

theorem bind {d : Dialogue P α} {f : α → Dialogue P β} (h : Returns reply d s a t log)
    (g : Returns reply (f a) t b u rest) : Returns reply (d >>= f) s b u (log ++ rest) := by
  induction d generalizing s log with
  | done x =>
    obtain ⟨hv, rfl, rfl⟩ := h
    cases hv
    exact g
  | halt why => exact nomatch h.value
  | report e d ih => exact (ih ⟨h.value, h.state, h.exchanges⟩).report e
  | call c k ih =>
    obtain ⟨hv, hs, rfl⟩ := h
    exact (ih (reply c s).1 ⟨hv, hs, rfl⟩).call

/-- What is exchanged after the first part, whether it comes to an end or not. -/
theorem exchanges_bind {d : Dialogue P α} {f : α → Dialogue P β} (h : Returns reply d s a t log) :
    (d >>= f).exchanges reply s = log ++ (f a).exchanges reply t := by
  induction d generalizing s log with
  | done x =>
    obtain ⟨hv, rfl, rfl⟩ := h
    cases hv
    rfl
  | halt why => exact nomatch h.value
  | report e d ih => exact ih ⟨h.value, h.state, h.exchanges⟩
  | call c k ih =>
    obtain ⟨hv, hs, rfl⟩ := h
    exact congrArg (List.cons _) (ih (reply c s).1 ⟨hv, hs, rfl⟩)

theorem value_bind {d : Dialogue P α} {f : α → Dialogue P β} (h : Returns reply d s a t log) :
    ((d >>= f).run reply s).value = ((f a).run reply t).value := by
  simp only [run_bind, h.value, h.state]

theorem calls_bind {d : Dialogue P α} {f : α → Dialogue P β} (h : Returns reply d s a t log) :
    ((d >>= f).run reply s).calls = log.map Sigma.fst ++ ((f a).run reply t).calls := by
  rw [calls_run, calls_run, h.exchanges_bind, List.map_append]

theorem bind_silent {d : Dialogue P α} {f : α → Dialogue P β} (h : Returns reply d s a t log)
    (g : Returns reply (f a) t b u []) : Returns reply (d >>= f) s b u log := by
  have hbind := h.bind g
  rwa [List.append_nil] at hbind

theorem tell_bind {f : Unit → Dialogue P α} (g : Returns reply (f ()) s a t log) (e : Event) :
    Returns reply (.tell e >>= f) s a t log :=
  ((Returns.done () s).report e).bind g

theorem tell_done (e : Event) (a : α) (s : σ) :
    Returns reply (.tell e >>= fun _ => .done a) s a s [] := (Returns.done a s).report e

theorem tellAll_bind {f : Unit → Dialogue P α} (g : Returns reply (f ()) s a t log)
    (es : List Event) : Returns reply (.tellAll es >>= f) s a t log := by
  induction es with
  | nil => exact g
  | cons e es ih => exact ih.report e

/-- A call that is carried out by a dialogue of its own, and then the rest. -/
theorem translate_ask_bind {Q : Port} {carry : (c : Q.Call) → Dialogue P (Q.Reply c)} {c : Q.Call}
    {r : Q.Reply c} {f : Q.Reply c → Dialogue Q β} (h : Returns reply (carry c) s r t log)
    (g : Returns reply ((f r).translate carry) t b u rest) :
    Returns reply ((Dialogue.ask c >>= f).translate carry) s b u (log ++ rest) := h.bind g

/-- A run that is not halted returns. -/
theorem of_value {d : Dialogue P α} (h : (d.run reply s).value = .ok a) :
    Returns reply d s a (d.run reply s).state (d.exchanges reply s) := ⟨h, rfl, rfl⟩

theorem calls {d : Dialogue P α} (h : Returns reply d s a t log) :
    (d.run reply s).calls = log.map Sigma.fst := by rw [calls_run, h.exchanges]

/-- The world is moved by the calls alone. -/
theorem state_eq {d : Dialogue P α} (h : Returns reply d s a t log) :
    t = log.foldl (fun s x => (reply x.1 s).2) s := by
  rw [← h.state, state_run, h.exchanges]

/-- A run has one outcome. -/
theorem unique {d : Dialogue P α} {a' : α} {t' : σ} {log' : List (Exchange P)}
    (h : Returns reply d s a t log) (h' : Returns reply d s a' t' log') :
    a = a' ∧ t = t' ∧ log = log' :=
  ⟨Except.ok.inj (h.value.symm.trans h'.value), h.state.symm.trans h'.state,
    h.exchanges.symm.trans h'.exchanges⟩

/-- What is left of a run after its first part. -/
theorem of_bind {d : Dialogue P α} {f : α → Dialogue P β} (h : Returns reply d s a t log)
    (hbind : Returns reply (d >>= f) s b u rest) :
    ∃ more, Returns reply (f a) t b u more ∧ rest = log ++ more := by
  have hvalue : ((f a).run reply t).value = .ok b := h.value_bind.symm.trans hbind.value
  obtain ⟨-, rfl, rfl⟩ := hbind.unique (h.bind (of_value hvalue))
  exact ⟨_, of_value hvalue, rfl⟩

/-- A run that returns has a first part that does. -/
theorem exists_of_bind {d : Dialogue P α} {f : α → Dialogue P β}
    (hbind : Returns reply (d >>= f) s b u rest) :
    ∃ a t log more, Returns reply d s a t log ∧ Returns reply (f a) t b u more ∧
      rest = log ++ more := by
  cases hv : (d.run reply s).value with
  | error why => exact nomatch (value_bind_halted hv f).symm.trans hbind.value
  | ok a =>
    obtain ⟨more, hmore, hrest⟩ := (of_value hv).of_bind hbind
    exact ⟨a, _, _, more, of_value hv, hmore, hrest⟩

/-- A part that only turns the value into another one. -/
theorem bind_map {d : Dialogue P α} {f : α → Dialogue P β} {g : α → β}
    (hf : ∀ a t, Returns reply (f a) t (g a) t []) (s : σ) :
    ((d >>= f).run reply s).value = (d.run reply s).value.map g ∧
      (d >>= f).exchanges reply s = d.exchanges reply s := by
  cases hv : (d.run reply s).value with
  | error why => exact ⟨value_bind_halted hv f, exchanges_bind_halted hv f⟩
  | ok a =>
    have h := (of_value hv).bind_silent (hf a _)
    exact ⟨h.value, h.exchanges⟩

/-- Where each answer follows from the call alone, the state has no part in what is returned and
exchanged. -/
theorem of_answers {answer : (c : P.Call) → P.Reply c} (hanswer : ∀ c s, (reply c s).1 = answer c)
    {d : Dialogue P α} (h : Returns (fun c _ => (answer c, ())) d () a () log) (s : σ) :
    ∃ t, Returns reply d s a t log := by
  induction d generalizing s log with
  | done x =>
    obtain ⟨hv, -, rfl⟩ := h
    cases hv
    exact ⟨s, .done _ s⟩
  | halt why => exact nomatch h.value
  | report e d ih =>
    obtain ⟨t, hd⟩ := ih ⟨h.value, rfl, h.exchanges⟩ s
    exact ⟨t, hd.report e⟩
  | call c k ih =>
    obtain ⟨hv, -, rfl⟩ := h
    rcases hreply : reply c s with ⟨r, u⟩
    obtain rfl : r = answer c := by rw [← hanswer c s, hreply]
    obtain ⟨t, hd⟩ := ih (answer c) ⟨hv, rfl, rfl⟩ u
    exact ⟨t, (Returns.ask (P := P) hreply).bind hd⟩

/-- Where each answer follows from the call alone, the exchanges show it. -/
theorem answered {answer : (c : P.Call) → P.Reply c} (hanswer : ∀ c s, (reply c s).1 = answer c)
    {d : Dialogue P α} (h : Returns reply d s a t log) {x : Exchange P} (hx : x ∈ log) :
    x.2 = answer x.1 := by
  obtain ⟨-, -, rfl⟩ := h
  induction d generalizing s with
  | done a => exact nomatch hx
  | halt why => exact nomatch hx
  | report e d ih => exact ih hx
  | call c k ih =>
    rcases List.mem_cons.1 hx with rfl | hx
    · exact hanswer c s
    · exact ih (reply c s).1 hx

end Returns

/-- Where none of the calls is halted, the dialogues that carry them out make up a world for the
dialogue that was translated. -/
theorem exists_world {Q : Port} {reply : (c : Q.Call) → σ → Q.Reply c × σ}
    {t : (c : P.Call) → Dialogue Q (P.Reply c)}
    (ht : ∀ c s, ∃ r, ((t c).run reply s).value = .ok r) :
    ∃ world : (c : P.Call) → σ → P.Reply c × σ, ∀ {α : Type} (d : Dialogue P α) (s : σ),
      ((d.translate t).run reply s).value = (d.run world s).value := by
  choose answer hanswer using ht
  refine ⟨fun c s => (answer c s, ((t c).run reply s).state), fun d => ?_⟩
  induction d with
  | done a => exact fun s => rfl
  | halt why => exact fun s => rfl
  | report e d ih => exact ih
  | call c k ih =>
    intro s
    exact (Returns.of_value (hanswer c s)).value_bind.trans (ih _ _)

/-! ## Halts -/

/-- If a run is halted, it is for one of these reasons. -/
def HaltsOnly (reply : (c : P.Call) → σ → P.Reply c × σ) (reasons : Halt → Prop)
    (d : Dialogue P α) : Prop :=
  ∀ s why, (d.run reply s).value = .error why → reasons why

namespace HaltsOnly

variable {reply : (c : P.Call) → σ → P.Reply c × σ} {reasons : Halt → Prop}

theorem of_values {d : Dialogue P α} (h : ∀ s, ∃ a, (d.run reply s).value = .ok a) :
    HaltsOnly reply reasons d := by
  intro s why hwhy
  obtain ⟨a, ha⟩ := h s
  exact nomatch hwhy.symm.trans ha

theorem done (a : α) : HaltsOnly reply reasons (.done a) := of_values fun _ => ⟨a, rfl⟩

theorem report {d : Dialogue P α} (h : HaltsOnly reply reasons d) (e : Event) :
    HaltsOnly reply reasons (.report e d) := h

/-- What comes after matters for the values only that the first part can have. -/
theorem bind_of_value {d : Dialogue P α} {f : α → Dialogue P β} (h : HaltsOnly reply reasons d)
    (hf : ∀ s a, (d.run reply s).value = .ok a → HaltsOnly reply reasons (f a)) :
    HaltsOnly reply reasons (d >>= f) := by
  intro s why hwhy
  cases hv : (d.run reply s).value with
  | error why' =>
    rw [value_bind_halted hv] at hwhy
    cases hwhy
    exact h s why hv
  | ok a =>
    rw [(Returns.of_value hv).value_bind] at hwhy
    exact hf s a hv _ why hwhy

theorem bind {d : Dialogue P α} {f : α → Dialogue P β} (h : HaltsOnly reply reasons d)
    (hf : ∀ a, HaltsOnly reply reasons (f a)) : HaltsOnly reply reasons (d >>= f) :=
  h.bind_of_value fun _ a _ => hf a

theorem translate_ask_bind {Q : Port} {t : (c : Q.Call) → Dialogue P (Q.Reply c)} {c : Q.Call}
    {f : Q.Reply c → Dialogue Q β} (h : HaltsOnly reply reasons (t c))
    (hf : ∀ s r, ((t c).run reply s).value = .ok r → HaltsOnly reply reasons ((f r).translate t)) :
    HaltsOnly reply reasons ((Dialogue.ask c >>= f).translate t) := h.bind_of_value hf

end HaltsOnly

end NodeLabels.Dialogue
