import NodeLabels.Dialogue
/-!
# Bounds on dialogues

What a dialogue may call and report, whatever it is answered. A bound is put together like the
dialogue is, holds of every run against every world, and goes over to a translation call by call.
-/

namespace NodeLabels.Dialogue

variable {P Q : Port} {α β σ : Type} {p : P.Call → Prop} {q : Event → Prop}

/-- Every call meets `p` and every report meets `q`, whatever the replies. -/
inductive Within (p : P.Call → Prop) (q : Event → Prop) : Dialogue P α → Prop
  | done (a : α) : Within p q (done a)
  | halt (why : Halt) : Within p q (halt why)
  | report {e : Event} {d : Dialogue P α} (he : q e) (hd : Within p q d) : Within p q (report e d)
  | call {c : P.Call} {k : P.Reply c → Dialogue P α} (hc : p c) (hk : ∀ r, Within p q (k r)) :
      Within p q (call c k)

namespace Within

/-- Every dialogue keeps to the bound that rules nothing out. -/
theorem unbounded (d : Dialogue P α) : d.Within (fun _ => True) fun _ => True := by
  induction d with
  | done a => exact .done a
  | halt why => exact .halt why
  | report e d ih => exact .report trivial ih
  | call c k ih => exact .call trivial ih

theorem ask {c : P.Call} (h : p c) : (Dialogue.ask c).Within p q := .call h fun r => .done r

theorem tell {e : Event} (h : q e) : (Dialogue.tell e : Dialogue P Unit).Within p q :=
  .report h (.done ())

theorem bind {d : Dialogue P α} {f : α → Dialogue P β} (hd : d.Within p q)
    (hf : ∀ a, (f a).Within p q) : (d >>= f).Within p q := by
  induction hd with
  | done a => exact hf a
  | halt why => exact .halt why
  | report he _ ih => exact .report he ih
  | call hc _ ih => exact .call hc ih

theorem mono {d : Dialogue P α} {p' : P.Call → Prop} (hd : d.Within p q)
    (hp : ∀ c, p c → p' c) : d.Within p' q := by
  induction hd with
  | done a => exact .done a
  | halt why => exact .halt why
  | report he _ ih => exact .report he ih
  | call hc _ ih => exact .call (hp _ hc) ih

theorem tell_done {e : Event} (h : q e) (a : α) :
    (Dialogue.tell e >>= fun _ => Dialogue.done a : Dialogue P α).Within p q :=
  .report h (.done a)

theorem tellAll_bind {f : Unit → Dialogue P α} (hf : (f ()).Within p q) {es : List Event}
    (h : ∀ e ∈ es, q e) : (Dialogue.tellAll es >>= f).Within p q := by
  induction es with
  | nil => exact hf
  | cons e es ih =>
    obtain ⟨he, hes⟩ := List.forall_mem_cons.1 h
    exact .report he (ih hes)

theorem translate {t : (c : P.Call) → Dialogue Q (P.Reply c)} {p' : Q.Call → Prop}
    {d : Dialogue P α} (hd : d.Within p q) (ht : ∀ c, p c → (t c).Within p' q) :
    (d.translate t).Within p' q := by
  induction hd with
  | done a => exact .done a
  | halt why => exact .halt why
  | report he _ ih => exact .report he ih
  | call hc _ ih => exact bind (ht _ hc) ih

theorem calls_run {d : Dialogue P α} (h : d.Within p q)
    (reply : (c : P.Call) → σ → P.Reply c × σ) (s : σ) : ∀ c ∈ (d.run reply s).calls, p c := by
  induction h generalizing s with
  | done a => exact fun _ hc => nomatch hc
  | halt why => exact fun _ hc => nomatch hc
  | report _ _ ih => exact ih s
  | call hc _ ih => exact List.forall_mem_cons.2 ⟨hc, ih _ _⟩

theorem events_run {d : Dialogue P α} (h : d.Within p q)
    (reply : (c : P.Call) → σ → P.Reply c × σ) (s : σ) : ∀ e ∈ (d.run reply s).events, q e := by
  induction h generalizing s with
  | done a => exact fun _ he => nomatch he
  | halt why => exact fun _ he => nomatch he
  | report he _ ih => exact List.forall_mem_cons.2 ⟨he, ih s⟩
  | call _ _ ih => exact ih _ _

end Within

end NodeLabels.Dialogue
