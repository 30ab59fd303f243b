import NodeLabels.Machine
import NodeLabels.Proofs.Dialogue.Within
/-!
# Runs side by side

A run that sends PATCH requests and one that sends none, on machines whose other replies take no
notice of patches. `Alike` relates two dialogues by such runs: the same calls apart from the
patches, and results that are related over the patches that were sent. It is put together like the
dialogues are.
-/

namespace NodeLabels

open Dialogue (Within)

/-- Every request is a GET, whatever the replies. -/
abbrev Http.OnlyGets {α : Type} (d : Dialogue port α) : Prop :=
  d.Within (fun r : Request => r.method = .get) fun _ => True

namespace Machine

theorem exchange_bind {α β : Type} (limit : Option Span) (d : Dialogue Http.port α)
    (f : α → Dialogue Http.port β) :
    exchange limit (d >>= f) = exchange limit d >>= fun a => exchange limit (f a) :=
  Dialogue.translate_bind _ d f

def sendsPatch (c : port.Call) : Bool :=
  match c with
  | .send _ request => request.method = .patch
  | _ => false

section

variable {σ τ : Type}

/-- Patches leave alone what the view shows of a state, and the view alone decides how the other
calls are answered and what they do to it. -/
structure IgnoresPatches (reply : (c : port.Call) → σ → port.Reply c × σ) (view : σ → τ) :
    Prop where
  answer {c : port.Call} (hc : sendsPatch c = false) {s t : σ} (hview : view s = view t) :
    (reply c s).1 = (reply c t).1
  next {c : port.Call} (hc : sendsPatch c = false) {s t : σ} (hview : view s = view t) :
    view (reply c s).2 = view (reply c t).2
  patch {c : port.Call} (hc : sendsPatch c = true) (s : σ) : view (reply c s).2 = view s

end

/-- A machine that remembers all calls, and looks past the patches when it answers anything else. -/
theorem IgnoresPatches.of_history (answer : (c : port.Call) → List port.Call → port.Reply c)
    (hanswer : ∀ c h, sendsPatch c = false → answer c h = answer c (h.filter (! sendsPatch ·))) :
    IgnoresPatches (fun c h => (answer c h, h ++ [c])) (List.filter (! sendsPatch ·)) where
  answer := by
    intro c hc h h' hview
    dsimp only
    rw [hanswer c h hc, hanswer c h' hc, hview]
  next := by
    intro c hc h h' hview
    dsimp only
    rw [List.filter_append, List.filter_append, hview]
  patch := by
    intro c hc h
    dsimp only
    rw [List.filter_append, List.filter_cons_of_neg (by simp [hc]), List.filter_nil,
      List.append_nil]

/-- No PATCH request is sent, whatever the replies. -/
abbrev Patchless {α : Type} (d : Dialogue port α) : Prop :=
  d.Within (fun c => sendsPatch c = false) fun _ => True

theorem exchange_patchless {α : Type} {d : Dialogue Http.port α} (hd : Http.OnlyGets d)
    (limit : Option Span) : Patchless (exchange limit d) :=
  hd.translate fun r (hr : r.method = .get) => .ask (by simp [sendsPatch, hr])

/-! ## Two runs -/

/-- Both runs were halted for the same reason, or both returned and their values are related. -/
inductive Agree {α β : Type} (rel : α → β → Prop) : Except Halt α → Except Halt β → Prop
  | returned {a : α} {b : β} (h : rel a b) : Agree rel (.ok a) (.ok b)
  | halted (why : Halt) : Agree rel (.error why) (.error why)

theorem Agree.eq_map {α β : Type} {rel : α → β → Prop} {x : Except Halt α} {y : Except Halt β}
    {g : α → β} (h : Agree rel x y) (hg : ∀ a b, rel a b → b = g a) : y = x.map g := by
  cases h with
  | returned h => exact congrArg Except.ok (hg _ _ h)
  | halted why => rfl

/-- The second run sends no patch and is otherwise like the first. The values are related over the
patches that the first one sends. -/
structure Parallel {σ τ α β : Type} (view : σ → τ) (rel : α → β → List port.Call → Prop)
    (real : Dialogue.Transcript port σ α) (dry : Dialogue.Transcript port σ β) : Prop where
  state : view real.state = view dry.state
  calls : dry.calls = real.calls.filter (! sendsPatch ·)
  value : Agree (rel · · (real.calls.filter sendsPatch)) real.value dry.value

theorem Parallel.patchless {σ τ α β : Type} {view : σ → τ} {rel : α → β → List port.Call → Prop}
    {real : Dialogue.Transcript port σ α} {dry : Dialogue.Transcript port σ β}
    (h : Parallel view rel real dry) : ∀ c ∈ dry.calls, sendsPatch c = false := by
  intro c hc
  rw [h.calls, List.mem_filter] at hc
  simpa using hc.2

/-- From states that look the same the two dialogues run in parallel. -/
def Alike {σ τ α β : Type} (reply : (c : port.Call) → σ → port.Reply c × σ) (view : σ → τ)
    (real : Dialogue port α) (dry : Dialogue port β) (rel : α → β → List port.Call → Prop) : Prop :=
  ∀ s t, view s = view t → Parallel view rel (real.run reply s) (dry.run reply t)

namespace Alike

variable {σ τ α β γ δ : Type} {reply : (c : port.Call) → σ → port.Reply c × σ} {view : σ → τ}
  {rel : α → β → List port.Call → Prop}

theorem done {a : α} {b : β} (h : rel a b []) : Alike reply view (.done a) (.done b) rel :=
  fun _ _ hview => ⟨hview, rfl, .returned h⟩

theorem halt (why : Halt) : Alike reply view (.halt why) (.halt why) rel :=
  fun _ _ hview => ⟨hview, rfl, .halted why⟩

/-! What is reported on either side makes no difference. -/

theorem report_left {real : Dialogue port α} {dry : Dialogue port β}
    (h : Alike reply view real dry rel) (e : Event) : Alike reply view (.report e real) dry rel :=
  fun s t hview => ⟨(h s t hview).state, (h s t hview).calls, (h s t hview).value⟩

theorem report_right {real : Dialogue port α} {dry : Dialogue port β}
    (h : Alike reply view real dry rel) (e : Event) : Alike reply view real (.report e dry) rel :=
  fun s t hview => ⟨(h s t hview).state, (h s t hview).calls, (h s t hview).value⟩

theorem bind {real : Dialogue port α} {dry : Dialogue port β} {f : α → Dialogue port γ}
    {g : β → Dialogue port δ} {rel' : γ → δ → List port.Call → Prop}
    (h : Alike reply view real dry rel)
    (hfg : ∀ a b ps, rel a b ps → Alike reply view (f a) (g b) fun c d qs => rel' c d (ps ++ qs)) :
    Alike reply view (real >>= f) (dry >>= g) rel' := by
  intro s t hview
  obtain ⟨hstate, hcalls, hvalue⟩ := h s t hview
  rw [Dialogue.run_bind, Dialogue.run_bind]
  generalize real.run reply s = r at hstate hcalls hvalue
  generalize dry.run reply t = d at hstate hcalls hvalue
  obtain ⟨v, u, calls, events⟩ := r
  obtain ⟨v', u', calls', events'⟩ := d
  cases hvalue with
  | halted why => exact ⟨hstate, hcalls, .halted why⟩
  | returned hrel =>
    obtain ⟨hstate', hcalls', hvalue'⟩ := hfg _ _ _ hrel u u' hstate
    refine ⟨hstate', ?_, ?_⟩
    · dsimp only at hcalls ⊢
      rw [hcalls, hcalls', List.filter_append]
    · dsimp only
      rw [List.filter_append]
      exact hvalue'

/-- A dialogue that sends no patch does the same on both sides. -/
theorem refl (hworld : IgnoresPatches reply view) {d : Dialogue port α} (hd : Patchless d) :
    Alike reply view d d fun a b ps => a = b ∧ ps = [] := by
  intro s t hview
  induction hd generalizing s t with
  | done a => exact ⟨hview, rfl, .returned ⟨rfl, rfl⟩⟩
  | halt why => exact ⟨hview, rfl, .halted why⟩
  | report _ _ ih =>
    obtain ⟨hstate, hcalls, hvalue⟩ := ih s t hview
    exact ⟨hstate, hcalls, hvalue⟩
  | @call c k hc _ ih =>
    obtain ⟨hstate, hcalls, hvalue⟩ :=
      ih (reply c s).1 (reply c s).2 (reply c t).2 (hworld.next hc hview)
    rw [Dialogue.run, Dialogue.run, ← hworld.answer hc hview]
    refine ⟨hstate, ?_, ?_⟩
    · rw [List.filter_cons_of_pos (by rw [hc]; rfl), ← hcalls]
    · rw [List.filter_cons_of_neg (by simp [hc])]
      exact hvalue

/-- A patch on the one side shows nowhere but in the relation. -/
theorem patch_left (hworld : IgnoresPatches reply view) {c : port.Call} (hc : sendsPatch c = true)
    {k : port.Reply c → Dialogue port α} {dry : Dialogue port β}
    (h : ∀ r, Alike reply view (k r) dry fun a b ps => rel a b (c :: ps)) :
    Alike reply view (.call c k) dry rel := by
  intro s t hview
  obtain ⟨hstate, hcalls, hvalue⟩ :=
    h (reply c s).1 (reply c s).2 t ((hworld.patch hc s).trans hview)
  rw [Dialogue.run]
  refine ⟨hstate, ?_, ?_⟩
  · rw [List.filter_cons_of_neg (by simp [hc]), ← hcalls]
  · rw [List.filter_cons_of_pos hc]
    exact hvalue

/-- The first call of a translated dialogue, and then the rest. -/
theorem ask_bind {P : Port} {u v : (c : P.Call) → Dialogue port (P.Reply c)} {c : P.Call}
    {f : P.Reply c → Dialogue P α} {g : P.Reply c → Dialogue P β}
    {rel' : P.Reply c → P.Reply c → List port.Call → Prop}
    (h : Alike reply view (u c) (v c) rel')
    (hfg : ∀ a b ps, rel' a b ps → Alike reply view ((f a).translate u) ((g b).translate v)
      fun c d qs => rel c d (ps ++ qs)) :
    Alike reply view ((Dialogue.ask c >>= f).translate u) ((Dialogue.ask c >>= g).translate v)
      rel :=
  h.bind hfg

/-- A first call that is answered alike. -/
theorem read_bind {P : Port} {u v : (c : P.Call) → Dialogue port (P.Reply c)} {c : P.Call}
    {f : P.Reply c → Dialogue P α} {g : P.Reply c → Dialogue P β}
    (h : Alike reply view (u c) (v c) fun a b ps => a = b ∧ ps = [])
    (hfg : ∀ a, Alike reply view ((f a).translate u) ((g a).translate v) rel) :
    Alike reply view ((Dialogue.ask c >>= f).translate u) ((Dialogue.ask c >>= g).translate v)
      rel := by
  refine h.ask_bind ?_
  rintro a _ _ ⟨rfl, rfl⟩
  exact hfg a

theorem tell_bind {P : Port} {u v : (c : P.Call) → Dialogue port (P.Reply c)}
    {f : Unit → Dialogue P α} {g : Unit → Dialogue P β}
    (h : Alike reply view ((f ()).translate u) ((g ()).translate v) rel) (e e' : Event) :
    Alike reply view ((Dialogue.tell e >>= f).translate u) ((Dialogue.tell e' >>= g).translate v)
      rel := (h.report_left e).report_right e'

theorem tell_right {P : Port} {u : (c : P.Call) → Dialogue port (P.Reply c)}
    {real : Dialogue port α} {g : Unit → Dialogue P β}
    (h : Alike reply view real ((g ()).translate u) rel) (e : Event) :
    Alike reply view real ((Dialogue.tell e >>= g).translate u) rel := h.report_right e

theorem tellAll_bind {P : Port} {u v : (c : P.Call) → Dialogue port (P.Reply c)}
    {f : Unit → Dialogue P α} {g : Unit → Dialogue P β}
    (h : Alike reply view ((f ()).translate u) ((g ()).translate v) rel) (es : List Event) :
    Alike reply view ((Dialogue.tellAll es >>= f).translate u)
      ((Dialogue.tellAll es >>= g).translate v) rel := by
  induction es with
  | nil => exact h
  | cons e es ih => exact (ih.report_left e).report_right e

theorem translate_bind {P : Port} {u v : (c : P.Call) → Dialogue port (P.Reply c)}
    {d : Dialogue P α} {e : Dialogue P β} {f : α → Dialogue P γ} {g : β → Dialogue P δ}
    {rel' : γ → δ → List port.Call → Prop}
    (h : Alike reply view (d.translate u) (e.translate v) rel)
    (hfg : ∀ a b ps, rel a b ps → Alike reply view ((f a).translate u) ((g b).translate v)
      fun c d qs => rel' c d (ps ++ qs)) :
    Alike reply view ((d >>= f).translate u) ((e >>= g).translate v) rel' := by
  rw [Dialogue.translate_bind, Dialogue.translate_bind]
  exact h.bind hfg

end Alike

end Machine

end NodeLabels
