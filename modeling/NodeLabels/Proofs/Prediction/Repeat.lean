import Mathlib.Logic.Function.Iterate
import NodeLabels.Proofs.Cluster.Store
import NodeLabels.Proofs.Prediction.Isolation
import NodeLabels.Proofs.Prediction.Patches
/-!
# One pass after the other

A pass writes the recommendation of a node and reads its provider ID and its zone. So what it writes
does not come back to it: on the cluster that it leaves behind, the next pass finds the same nodes,
does the same for each of them and leaves the cluster as it is.
-/

namespace NodeLabels.Prediction

open Calendar (Instant)
open Cluster (AgreeOff Patch Store receiveAll)
open Dialogue (Exchange Returns)

/-! ## Nodes that a pass does not tell apart -/

theorem zone_ne_recommendation : Label.zone ≠ Label.recommendation := by decide +kernel

theorem zone?_congr {n m : Node} (h : AgreeOff Label.recommendation n m) : n.zone? = m.zone? := by
  rw [Node.zone?, Node.zone?, h.labels Label.zone zone_ne_recommendation]

theorem applyPrediction_congr {n m : Node} (h : n.name = m.name) :
    applyPrediction n = applyPrediction m := by
  unfold applyPrediction
  rw [h]

theorem labelInstance_congr {n m : Node} (h : n.name = m.name) (settings : Settings) :
    labelInstance settings n = labelInstance settings m := by
  unfold labelInstance
  rw [h, applyPrediction_congr h]

theorem labelNode_congr {n m : Node} (h : AgreeOff Label.recommendation n m)
    (settings : Settings) : labelNode settings n = labelNode settings m := by
  unfold labelNode
  rw [h.providerId, zone?_congr h, h.name, labelInstance_congr h.name]

/-! ## Worlds with a store -/

/-- The patch, if the effect is one and it is accepted. -/
def Answers.accepted? (a : Answers) : Effect → Option Patch
  | .patch node labels => if (a.patch node labels).isOk then some (node, labels) else none
  | _ => none

/-- A world that answers by function, except that it lists the nodes of a store that match the
selector, in their order. Patches that are accepted are merged into the store, and nothing else
moves it. -/
structure Backed {σ : Type} (answers : Answers) (selects : String → Node → Bool) (store : σ → Store)
    (reply : (c : port.Call) → σ → port.Reply c × σ) : Prop where
  given : answers.Given reply
  listed (selector : String) (s : σ) : (reply (Call.listNodes selector) s).1 =
    Except.ok ((store s).listing (selects selector))
  moved (c : port.Call) (s : σ) :
    store (reply c s).2 = (store s).mergeAll ((effects [c]).filterMap answers.accepted?)

/-- What is selected does not depend on the recommendation. -/
def IgnoresRecommendation (selects : Node → Bool) : Prop :=
  ∀ n m, AgreeOff Label.recommendation n m → selects n = selects m

/-- The state in which a pass leaves the world. -/
def afterPass {σ : Type} (settings : Settings)
    (reply : (c : port.Call) → σ → port.Reply c × σ) (s : σ) : σ :=
  ((pass settings).run reply s).state

section

variable {σ : Type} {settings : Settings} {answers : Answers} {selects : String → Node → Bool}
  {store : σ → Store} {reply : (c : port.Call) → σ → port.Reply c × σ}

theorem Backed.store_foldl (h : Backed answers selects store reply) (log : List (Exchange port))
    (s : σ) : store (log.foldl (fun s x => (reply x.1 s).2) s) =
      (store s).mergeAll ((effects (log.map Sigma.fst)).filterMap answers.accepted?) := by
  induction log generalizing s with
  | nil => rfl
  | cons x log ih =>
    have hsplit : effects ((x :: log).map Sigma.fst) =
        effects [x.1] ++ effects (log.map Sigma.fst) := effects_append [x.1] _
    rw [List.foldl_cons, ih, h.moved, hsplit, List.filterMap_append, Store.mergeAll_append]

/-- A run moves the store by the patches among its effects. -/
theorem Backed.store_returns (h : Backed answers selects store reply) {α : Type}
    {d : Dialogue port α} {s t : σ} {a : α} {log : List (Exchange port)}
    (hreturns : Returns reply d s a t log) : store t =
      (store s).mergeAll ((effects (log.map Sigma.fst)).filterMap answers.accepted?) := by
  rw [hreturns.state_eq]
  exact h.store_foldl log s

/-- The accepted patches of a pass set nothing but recommendations. -/
theorem find?_accepted {s t : σ} {result : Except Failure Summary} {log : List (Exchange port)}
    (h : Returns reply (pass settings) s result t log) {p : Patch}
    (hp : p ∈ (effects (log.map Sigma.fst)).filterMap answers.accepted?) (key : String)
    (hkey : key ≠ Label.recommendation) : p.2.find? key = none := by
  rw [← h.calls] at hp
  obtain ⟨e, he, hpatch⟩ := List.mem_filterMap.1 hp
  obtain ⟨c, hc, heffect⟩ := List.mem_filterMap.1 he
  have hmodest := (pass_modest settings).calls_run reply s c hc
  cases c with
  | patch node labels =>
    obtain rfl := Option.some.inj heffect
    obtain ⟨value, rfl⟩ := hmodest
    rw [Answers.accepted?] at hpatch
    split at hpatch
    · obtain rfl := Option.some.inj hpatch
      exact (find?_recommendation value key).trans (if_neg hkey)
    · cases hpatch
  | listNodes selector => cases heffect
  | instanceId project zone name =>
    obtain rfl := Option.some.inj heffect
    cases hpatch
  | now => cases heffect
  | series project id window =>
    obtain rfl := Option.some.inj heffect
    cases hpatch

section

variable {outcome : Node → Outcome} {work : Node → List Effect}
  (hbacked : Backed answers selects store reply)
  (hwork : ∀ node, Settled reply (labelNode settings node) (outcome node) (work node))
include hwork

/-- Nodes that differ in the recommendation alone come to the same. -/
theorem settled_congr {n m : Node} (h : AgreeOff Label.recommendation n m) (s : σ) :
    outcome n = outcome m ∧ work n = work m := by
  have hdialogue := labelNode_congr h settings
  have hvalue := (hwork n).value_run s
  have heffects := (hwork n).effects_run s
  rw [hdialogue] at hvalue heffects
  exact ⟨Except.ok.inj (hvalue.symm.trans ((hwork m).value_run s)),
    heffects.symm.trans ((hwork m).effects_run s)⟩

include hbacked

/-- What a pass does follows from the listing, and what it does to the store from its effects. -/
theorem pass_backed (s : σ) :
    ((pass settings).run reply s).value =
      .ok (.ok (tally (((store s).listing (selects settings.selector)).map outcome))) ∧
    effects ((pass settings).run reply s).calls =
      ((store s).listing (selects settings.selector)).flatMap work ∧
    ∃ patches, patches =
        (((store s).listing (selects settings.selector)).flatMap work).filterMap answers.accepted? ∧
      (∀ p ∈ patches, ∀ key, key ≠ Label.recommendation → p.2.find? key = none) ∧
      store (afterPass settings reply s) = (store s).mergeAll patches := by
  obtain ⟨t, log, hpass, hlog⟩ := pass_listed hwork (hbacked.listed settings.selector s)
  refine ⟨hpass.value, by rw [hpass.calls, hlog], _, rfl, ?_, ?_⟩
  · intro p hp key hkey
    rw [← hlog] at hp
    exact find?_accepted hpass hp key hkey
  · rw [afterPass, hpass.state, hbacked.store_returns hpass, hlog]

theorem pass_pass_backed (hselects : IgnoresRecommendation (selects settings.selector)) (s : σ) :
    ((store (afterPass settings reply s)).listing (selects settings.selector)).map
        (fun node => (node.name, outcome node)) =
      ((store s).listing (selects settings.selector)).map
        (fun node => (node.name, outcome node)) ∧
    ((store (afterPass settings reply s)).listing (selects settings.selector)).flatMap work =
      ((store s).listing (selects settings.selector)).flatMap work ∧
    store (afterPass settings reply (afterPass settings reply s)) =
      store (afterPass settings reply s) := by
  obtain ⟨-, -, patches, hpatches, hmodest, hstore⟩ := pass_backed hbacked hwork s
  obtain ⟨-, -, again, hagain, -, hstore'⟩ :=
    pass_backed hbacked hwork (afterPass settings reply s)
  have hlisting := Store.listing_mergeAll hselects hmodest (store s)
  have hsame : ∀ node, outcome (receiveAll patches node) = outcome node ∧
      work (receiveAll patches node) = work node :=
    fun node => settled_congr hwork (Cluster.agreeOff_receiveAll hmodest node) s
  have hflat : ((store (afterPass settings reply s)).listing
      (selects settings.selector)).flatMap work =
        ((store s).listing (selects settings.selector)).flatMap work := by
    rw [hstore, hlisting, List.flatMap_map]
    simp only [hsame]
  refine ⟨?_, hflat, ?_⟩
  · rw [hstore, hlisting, List.map_map]
    apply List.map_congr_left
    intro node _
    simp [hsame]
  · -- the second pass sends the patches of the first, and the store has taken those
    rw [hflat, ← hpatches] at hagain
    rw [hstore', hagain, hstore, Store.mergeAll_mergeAll]

end

theorem store_iterate {f : σ → σ} (h : ∀ s, store (f (f s)) = store (f s)) (s : σ) (k : Nat) :
    store (Nat.iterate f (k + 1) s) = store (f s) := by
  induction k generalizing s with
  | zero => rfl
  | succ k ih =>
    rw [Function.iterate_succ_apply]
    exact (ih (f s)).trans (h s)

/-- On a store behind which the world answers by function, a pass that comes after a pass comes to
the same outcome for each of the same nodes, has the same effects and the same summary, and leaves
the store as it is. So any number of passes leave it as the first one does. -/
theorem pass_repeats (hbacked : Backed answers selects store reply)
    (hselects : IgnoresRecommendation (selects settings.selector))
    (hclock : InCalendar settings reply) (s : σ) :
    ∃ outcome : Node → Outcome,
      (∀ node s, ((labelNode settings node).run reply s).value = .ok (outcome node)) ∧
      ((pass settings).run reply s).value = .ok (.ok (tally
        (((store s).listing (selects settings.selector)).map outcome))) ∧
      ((pass settings).run reply (afterPass settings reply s)).value =
        ((pass settings).run reply s).value ∧
      ((store (afterPass settings reply s)).listing (selects settings.selector)).map
          (fun node => (node.name, outcome node)) =
        ((store s).listing (selects settings.selector)).map
          (fun node => (node.name, outcome node)) ∧
      effects ((pass settings).run reply (afterPass settings reply s)).calls =
        effects ((pass settings).run reply s).calls ∧
      store (afterPass settings reply (afterPass settings reply s)) =
        store (afterPass settings reply s) ∧
      ∀ k, store (Nat.iterate (afterPass settings reply) (k + 1) s) =
        store (afterPass settings reply s) := by
  obtain ⟨outcome, houtcome⟩ := Classical.skolem.1 (labelNode_settled hbacked.given hclock)
  obtain ⟨work, hwork⟩ := Classical.skolem.1 houtcome
  have hrepeat := pass_pass_backed hbacked hwork hselects
  obtain ⟨houtcomes, hflat, hstore⟩ := hrepeat s
  obtain ⟨hvalue, heffects, -⟩ := pass_backed hbacked hwork s
  obtain ⟨hvalue', heffects', -⟩ := pass_backed hbacked hwork (afterPass settings reply s)
  have hmap : ((store (afterPass settings reply s)).listing (selects settings.selector)).map
      outcome = ((store s).listing (selects settings.selector)).map outcome := by
    have hsnd := congrArg (List.map Prod.snd) houtcomes
    rwa [List.map_map, List.map_map] at hsnd
  refine ⟨outcome, fun node s => (hwork node).value_run s, hvalue, ?_, houtcomes, ?_, hstore,
    store_iterate (fun s => (hrepeat s).2.2) s⟩
  · rw [hvalue', hvalue, hmap]
  · rw [heffects', heffects, hflat]

end

/-! ## A pool of nodes -/

/-- A world with these answers and a store, in which the clock moves on with every call. -/
def backedWorld (a : Answers) (selects : String → Node → Bool) (clock : Nat → Instant)
    (c : port.Call) (w : Store × Nat) : port.Reply c × (Store × Nat) :=
  (match c with
    | .listNodes selector => .ok (w.1.listing (selects selector))
    | .instanceId project zone name => a.instanceId project zone name
    | .now => clock w.2
    | .series project id _ => a.series project id
    | .patch node labels => a.patch node labels,
    w.1.mergeAll ((effects [c]).filterMap a.accepted?), w.2 + 1)

theorem backedWorld_backed (a : Answers) (selects : String → Node → Bool)
    (clock : Nat → Instant) : Backed a selects Prod.fst (backedWorld a selects clock) where
  given := ⟨fun _ _ _ _ => rfl, fun _ _ _ _ => rfl, fun _ _ _ => rfl⟩
  listed _ _ := rfl
  moved _ _ := rfl

/-- A node whose recommendation is out of date, one that cannot be patched, one with an unknown
prediction, and one that is in no zone. -/
def pool : Store where
  nodes := [{ gpuNode "a" "DEGRADATION_PREDICTED" with
      labels := .ofList [(Label.recommendation, "True"), (Label.zone, "z")] },
    gpuNode "locked" "NO_DEGRADATION_PREDICTED", gpuNode "d" "ON_FIRE", { name := "b" }]
  unique := by decide +kernel

def inZone (_ : String) (node : Node) : Bool := node.zone? = some "z"

/-- The recommendation is brought up to date, and then it stays. -/
theorem pass_repeats_pool :
    let world := backedWorld plainAnswers inZone swinging
    Backed plainAnswers inZone Prod.fst world ∧
    IgnoresRecommendation (inZone plainSettings.selector) ∧ InCalendar plainSettings world ∧
    (effects ((pass plainSettings).run world (afterPass plainSettings world (pool, 0))).calls =
      effects ((pass plainSettings).run world (pool, 0)).calls) ∧
    (∀ k, (Nat.iterate (afterPass plainSettings world) (k + 1) (pool, 0)).1 =
      (afterPass plainSettings world (pool, 0)).1) ∧
    (afterPass plainSettings world (pool, 0)).1.nodes.map
      (fun node => node.labels.find? Label.recommendation) = [some "False", none, none, none] := by
  intro world
  have hbacked : Backed plainAnswers inZone Prod.fst world := backedWorld_backed _ _ _
  have hselects : IgnoresRecommendation (inZone plainSettings.selector) := by
    intro n m h
    rw [inZone, inZone, zone?_congr h]
  have hclock : InCalendar plainSettings world :=
    fun w => inCalendar_swinging plainAnswers (.ok []) w.2
  obtain ⟨-, -, -, -, -, heffects, -, hstore⟩ := pass_repeats hbacked hselects hclock (pool, 0)
  exact ⟨hbacked, hselects, hclock, heffects, hstore, by decide +kernel⟩

end NodeLabels.Prediction
