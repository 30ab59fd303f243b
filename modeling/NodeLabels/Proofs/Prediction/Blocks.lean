import NodeLabels.Proofs.Cloud.Authorized
import NodeLabels.Proofs.Cloud.Serves
import NodeLabels.Proofs.Prediction.Node
import NodeLabels.Proofs.Prediction.Worked
/-!
# The requests of a pass

Over HTTP a pass sends one request for the list of nodes, and then a block of requests for each node
in turn: the instance, the pages of its predictions and the patch, as far as the work on the node
gets. Every read in a block carries the token that was asked for right before it, and a block in
which there is no token to be had ends there.
-/

namespace NodeLabels.Prediction

open Cloud (AsksToken Attempt Authorized withToken withTokens)
open Cloud.Monitoring (document)
open Cluster (Patching)
open Dialogue (Exchange Returns)
open Http (Purpose Step Takes exchange_takes returned sent?)

/-! ## Blocks -/

/-- The steps for a node on which everything goes well. -/
def fullBlock (tokens : Cloud.TokenSource) (pages : Nat) : List Purpose :=
  withToken tokens .lookup ++ withTokens tokens pages ++ [.patch]

/-- The request of a step is one for the node. -/
def Suits (services : Services) (settings : Settings) (node : Node) (x : Step) : Prop :=
  match x.purpose with
  | .listing => False
  | .token => AsksToken services.compute.tokens x
  | .lookup => ∃ zone name, Locates node zone name ∧
      services.compute.Asks settings.project zone name x.request
  | .page => ∃ id window, services.monitoring.Asks settings.project id window x.request
  | .patch => ∃ value,
      services.nodes.client.patchRequest? node.name (recommendation value) = some x.request

/-- What comes of a node when after these steps there is no token to be had. -/
structure GivenUp (v : Except Halt Outcome) (before : List Step) : Prop where
  lookup : before = [] →
    ∃ why, v = .ok (.skipped (.instanceLookupFailed (SourceFault.auth why).message))
  page : before ≠ [] → v = .ok .noStatus

/-- The steps for a node and what comes of them: the beginning of a full block, with authorized
reads. It is broken off in the middle only when there is no patience for another page. -/
structure IsBlock (services : Services) (settings : Settings) (patience : Nat) (node : Node)
    (v : Except Halt Outcome) (steps : List Step) : Prop where
  ordered : ∃ pages, 0 < pages ∧
    steps.map Step.purpose <+: fullBlock services.compute.tokens pages
  authorized : Authorized services.compute.tokens (Suits services settings node) (GivenUp v) steps
  halted : ∀ why, v = .error why →
    why = .outOfPatience ∧ (steps.map Step.purpose).count .page = patience

/-- One block for each node, in their order, up to one that is broken off. -/
inductive Blocks (services : Services) (settings : Settings) (patience : Nat) :
    List Node → Except Halt (List Outcome) → List (List Step) → Prop
  | nil : Blocks services settings patience [] (.ok []) []
  | cons {node : Node} {nodes : List Node} {outcome : Outcome} {steps : List Step}
      {v : Except Halt (List Outcome)} {blocks : List (List Step)}
      (h : IsBlock services settings patience node (.ok outcome) steps)
      (rest : Blocks services settings patience nodes v blocks) :
      Blocks services settings patience (node :: nodes) (v.map (outcome :: ·)) (steps :: blocks)
  | halted {node : Node} {nodes : List Node} {why : Halt} {steps : List Step}
      (h : IsBlock services settings patience node (.error why) steps) :
      Blocks services settings patience (node :: nodes) (.error why) [steps]

/-! ## What the steps for a node have in common -/

section

variable {services : Services} {settings : Settings} {patience : Nat} {node : Node} {id : String}
  {v : Except Halt Outcome} {steps more : List Step}

theorem patch_authorized {value : String} {fate : List Step → Prop}
    (h : Patching services.nodes.client node.name (recommendation value) steps) :
    Authorized services.compute.tokens (Suits services settings node) fate steps := by
  obtain rfl | ⟨r, answer, hr, rfl⟩ := h
  · exact .nil
  · refine Authorized.nil.concat ⟨value, hr⟩ (fun hread => ?_) fun hdenied => ?_
    · cases hread
    · cases hdenied.1

theorem patch_purposes_initial {client : Cluster.Client} {name : String} {labels : LabelMap}
    (h : Patching client name labels steps) : steps.map Step.purpose <+: [.patch] := by
  obtain rfl | ⟨r, answer, -, rfl⟩ := h
  · exact List.nil_prefix
  · exact List.prefix_rfl

theorem Worked.halted_count (h : Worked services settings patience node id v steps) {why : Halt}
    (hv : v = .error why) :
    why = .outOfPatience ∧ (steps.map Step.purpose).count .page = patience := by
  cases h with
  | halted h =>
    obtain ⟨pages, hpaging, hhalt⟩ := h
    obtain rfl := Except.error.inj hv
    obtain ⟨hwhy, rfl⟩ := hhalt _ rfl
    rw [hpaging.purposes (fun fault hfault => by cases hfault), Cloud.count_withTokens]
    exact ⟨hwhy, rfl⟩
  | failed h => cases hv
  | applied h hpatch outcome => cases hv

section

variable (hshared : services.monitoring.tokens = services.compute.tokens)
include hshared

theorem pages_authorized {window : Window} {v : Except Halt (Except SourceFault (List Series))}
    (h : services.monitoring.Pages settings.project id window patience v steps) :
    Authorized services.compute.tokens (Suits services settings node)
      (fun _ => ∃ fault, v = .ok (.error fault)) steps := by
  obtain ⟨pages, hpaging, -⟩ := h
  rw [hshared] at hpaging
  refine hpaging.authorized (fun x hx => ?_) fun r answer hasks => ⟨id, window, hasks⟩
  rw [Suits, hx.purpose]
  exact hx

/-- Where a page gets no token there is no status. -/
theorem Worked.authorized (h : Worked services settings patience node id v steps) :
    Authorized services.compute.tokens (Suits services settings node) (fun _ => v = .ok .noStatus)
      steps := by
  cases h with
  | halted h =>
    apply (pages_authorized hshared h).mono
    rintro before ⟨fault, hfault⟩
    cases hfault
  | failed h =>
    apply (pages_authorized hshared h).mono
    rintro before -
    rfl
  | applied h hpatch outcome =>
    refine Authorized.append ((pages_authorized hshared h).mono ?_) (patch_authorized hpatch)
    rintro before ⟨fault, hfault⟩
    cases hfault

theorem Worked.ordered (h : Worked services settings patience node id v steps) :
    ∃ pages, 0 < pages ∧
      steps.map Step.purpose <+: withTokens services.compute.tokens pages ++ [.patch] := by
  have hpages : ∀ {window v' steps}, services.monitoring.Pages settings.project id window patience
      v' steps → ∃ pages, 0 < pages ∧ steps.map Step.purpose <+:
        withTokens services.compute.tokens pages ++ [.patch] := by
    rintro window v' steps ⟨pages, hpaging, -⟩
    rw [hshared] at hpaging
    exact ⟨pages + 1, Nat.succ_pos _, (hpaging.purposes_initial.trans
      (Cloud.withTokens_initial _ _)).trans (List.prefix_append _ _)⟩
  cases h with
  | halted h => exact hpages h
  | failed h => exact hpages h
  | applied h hpatch outcome =>
    obtain ⟨pages, hpaging, -⟩ := h
    rw [hshared] at hpaging
    refine ⟨pages, hpaging.pages_pos rfl, ?_⟩
    rw [List.map_append, hpaging.purposes (fun fault hfault => by cases hfault)]
    exact (List.prefix_append_right_inj _).2 (patch_purposes_initial hpatch)

end

section

variable {zone name : String} {answer : Except SourceFault (Option String)}
  (hlocates : Locates node zone name)
  (hlookup : Attempt services.compute.tokens .lookup
    (services.compute.Asks settings.project zone name) answer steps)
include hlocates hlookup

theorem lookup_authorized : Authorized services.compute.tokens (Suits services settings node)
    (fun before => before = [] ∧ ∃ why, answer = .error (.auth why)) steps := by
  refine hlookup.authorized rfl (fun x hx => ?_) fun r reply hasks => ⟨zone, name, hlocates, hasks⟩
  rw [Suits, hx.purpose]
  exact hx

/-- A node with which it ends at the lookup. -/
theorem isBlock_lookup {outcome : Outcome}
    (hdenied : ∀ why, answer = .error (.auth why) →
      outcome = .skipped (.instanceLookupFailed (SourceFault.auth why).message)) :
    IsBlock services settings patience node (.ok outcome) steps where
  ordered := by
    refine ⟨1, Nat.one_pos, hlookup.purposes_initial.trans ?_⟩
    rw [fullBlock, List.append_assoc]
    exact List.prefix_append _ _
  authorized := by
    apply (lookup_authorized hlocates hlookup).mono
    rintro before ⟨rfl, why, hwhy⟩
    exact ⟨fun _ => ⟨why, congrArg _ (hdenied why hwhy)⟩, fun hne => absurd rfl hne⟩
  halted why h := by cases h

end

theorem isBlock_worked (hshared : services.monitoring.tokens = services.compute.tokens)
    {zone name : String} (hlocates : Locates node zone name)
    (hlookup : Attempt services.compute.tokens .lookup
      (services.compute.Asks settings.project zone name) (.ok (some id)) steps)
    (hworked : Worked services settings patience node id v more) :
    IsBlock services settings patience node v (steps ++ more) where
  ordered := by
    obtain ⟨pages, hpos, hprefix⟩ := hworked.ordered hshared
    refine ⟨pages, hpos, ?_⟩
    rw [List.map_append, hlookup.purposes, fullBlock, List.append_assoc]
    exact (List.prefix_append_right_inj _).2 hprefix
  authorized := by
    have hne : steps ≠ [] := by
      rintro rfl
      have hpurposes := hlookup.purposes
      cases htokens : services.compute.tokens <;> simp [withToken, htokens] at hpurposes
    refine Authorized.append ((lookup_authorized hlocates hlookup).mono ?_)
      ((hworked.authorized hshared).mono ?_)
    · rintro before ⟨-, why, hwhy⟩
      cases hwhy
    · intro before hv
      exact ⟨fun hnil => absurd (List.append_eq_nil_iff.1 hnil).1 hne, fun _ => hv⟩
  halted why hv := by
    obtain ⟨hwhy, hcount⟩ := hworked.halted_count hv
    refine ⟨hwhy, ?_⟩
    rw [List.map_append, hlookup.purposes, List.count_append, Cloud.count_withToken, hcount]
    exact Nat.zero_add _

theorem isBlock_nil (outcome : Outcome) :
    IsBlock services settings patience node (.ok outcome) [] where
  ordered := ⟨1, Nat.one_pos, List.nil_prefix⟩
  authorized := .nil
  halted why h := by cases h

end

/-! ## Blocks one after the other -/

/-- A pass lists the nodes, works on them and counts the outcomes. The rest is reports. -/
theorem run_pass {Q : Port} {σ : Type} {reply : (c : Q.Call) → σ → Q.Reply c × σ}
    {t : (c : port.Call) → Dialogue Q (port.Reply c)} {settings : Settings} {s u : σ}
    {nodes : List Node} {log : List (Exchange Q)}
    (h : Returns reply (t (.listNodes settings.selector)) s (Except.ok nodes) u log) :
    (((pass settings).translate t).run reply s).value =
      (((labelNodes settings nodes).translate t).run reply u).value.map
        (fun outcomes => .ok (tally outcomes)) ∧
    ((pass settings).translate t).exchanges reply s =
      log ++ ((labelNodes settings nodes).translate t).exchanges reply u := by
  let counted (outcomes : List Outcome) : Event :=
    { event .info "Prediction pass complete" [] with
      fields := (tally outcomes).counts.map fun c => (c.1, .count c.2) }
  have hreport : ∀ outcomes v,
      Returns reply (.report (counted outcomes) (.done (.ok (tally outcomes)))) v
        (.ok (tally outcomes) : Except Failure Summary) v [] :=
    fun outcomes v => (Returns.done _ v).report _
  obtain ⟨hvalue, hexchanges⟩ := Returns.bind_map hreport u
  constructor
  · change ((t (.listNodes settings.selector) >>= _).run reply s).value = _
    rw [h.value_bind]
    change (((labelNodes settings nodes >>= _).translate t).run reply u).value = _
    rw [Dialogue.translate_bind]
    exact hvalue
  · change (t (.listNodes settings.selector) >>= _).exchanges reply s = _
    rw [h.exchanges_bind]
    change log ++ ((labelNodes settings nodes >>= _).translate t).exchanges reply u = _
    rw [Dialogue.translate_bind]
    exact congrArg (log ++ ·) hexchanges

section

variable {σ : Type} {reply : (c : Machine.port.Call) → σ → Machine.port.Reply c × σ}
  (services : Services) (settings : Settings) (patience : Nat)
  (hshared : services.monitoring.tokens = services.compute.tokens)
  (hclock : ∀ s, ∃ window,
    Window.endingAt? (reply Machine.Call.now s).1 settings.window = some window)
include hshared hclock

/-- The step lemma: whatever is answered, the work on a node takes a block of steps. -/
theorem labelNode_takes (node : Node) :
    Takes sent? reply ((labelNode settings node).translate (services.answer patience))
      (IsBlock services settings patience node) := by
  unfold labelNode
  cases hname : instanceName node.providerId with
  | error fault =>
    apply Takes.translate_tell_bind
    exact .done (isBlock_nil _)
  | ok name =>
    cases hzone : node.zone? with
    | none =>
      apply Takes.translate_tell_bind
      exact .done (isBlock_nil _)
    | some zone =>
      have hlocates : Locates node zone name := ⟨hname, zone?_eq_some.1 hzone⟩
      apply Takes.translate_tell_bind
      have hlookup : Takes sent? reply
          (services.answer patience (.instanceId settings.project zone name))
          (returned (Attempt services.compute.tokens .lookup
            (services.compute.Asks settings.project zone name))) :=
        exchange_takes (Cloud.instanceId_takes _ services.compute _ _ _)
      refine Takes.translate_ask_bind_returned hlookup ?_
      intro answer steps hattempt
      match answer with
      | .error fault =>
        apply Takes.translate_tell_bind
        apply Takes.done
        rw [List.append_nil]
        refine isBlock_lookup hlocates hattempt fun why hwhy => ?_
        rw [Except.error.inj hwhy]
      | .ok none =>
        apply Takes.translate_tell_bind
        apply Takes.done
        rw [List.append_nil]
        exact isBlock_lookup hlocates hattempt fun why hwhy => by cases hwhy
      | .ok (some id) =>
        apply (labelInstance_takes services settings patience hclock node id).mono
        intro v more hworked
        exact isBlock_worked hshared hlocates hattempt hworked

/-- The run lemma: the blocks of the nodes follow each other. -/
theorem labelNodes_takes (nodes : List Node) :
    Takes sent? reply ((labelNodes settings nodes).translate (services.answer patience))
      (fun v steps => ∃ blocks, Blocks services settings patience nodes v blocks ∧
        steps = blocks.flatten) := by
  induction nodes with
  | nil => exact .done ⟨[], .nil, rfl⟩
  | cons node nodes ih =>
    have hnode := labelNode_takes services settings patience hshared hclock node
    refine hnode.translate_bind ?_ ?_
    · intro outcome steps hblock
      refine ih.translate_bind ?_ ?_
      · rintro outcomes _ ⟨blocks, hblocks, rfl⟩
        refine .done ⟨steps :: blocks, .cons hblock hblocks, ?_⟩
        rw [List.append_nil, List.flatten_cons]
      · rintro why _ ⟨blocks, hblocks, rfl⟩
        exact ⟨steps :: blocks, .cons hblock hblocks, rfl⟩
    · intro why steps hblock
      exact ⟨[steps], .halted hblock, (List.append_nil steps).symm⟩

/-- If the nodes can be listed, a pass sends one request for the list, and then one block of
requests for each node, in the order of the list. The pass comes to the outcomes of the nodes. -/
theorem pass_requests {s : σ} {nodes : List Node}
    (hlist : ((services.answer patience (.listNodes settings.selector)).run reply s).value =
      .ok (.ok nodes)) :
    ∃ listing blocks outcomes, listing.purpose = .listing ∧
      services.nodes.client.listRequest? settings.selector = some listing.request ∧
      Blocks services settings patience nodes outcomes blocks ∧
      (((pass settings).translate (services.answer patience)).exchanges reply s).filterMap sent? =
        (listing :: blocks.flatten).map Step.exchange ∧
      (((labelNodes settings nodes).translate (services.answer patience)).run reply
        ((services.answer patience (.listNodes settings.selector)).run reply s).state).value =
          outcomes ∧
      (((pass settings).translate (services.answer patience)).run reply s).value =
        outcomes.map fun outcomes => .ok (tally outcomes) := by
  have hlisting : Takes sent? reply (services.answer patience (.listNodes settings.selector)) _ :=
    exchange_takes (Cluster.listNodes_takes _ services.nodes.client settings.selector)
  obtain ⟨_, hsent, answer, hanswer, hone⟩ := hlisting s
  obtain ⟨r, reply', hr, rfl⟩ := hone nodes (Except.ok.inj (hanswer.symm.trans hlist))
  have hreturns := Returns.of_value hlist
  obtain ⟨_, hwork, blocks, hblocks, rfl⟩ :=
    labelNodes_takes services settings patience hshared hclock nodes
      ((services.answer patience (.listNodes settings.selector)).run reply s).state
  obtain ⟨hvalue, hexchanges⟩ := run_pass hreturns
  refine ⟨⟨.listing, r, reply'⟩, blocks, _, rfl, hr, hblocks, ?_, rfl, hvalue⟩
  rw [hexchanges, List.filterMap_append, hsent, hwork]
  rfl

end

/-! ## A query that runs out of tokens -/

/-- One metadata server for both cloud services. -/
def tokenServices : Services :=
  { compute := { base := "http://c", tokens := .metadata { base := "http://t" } }
    monitoring := { base := "http://m", tokens := .metadata { base := "http://t" } }
    nodes := { client := { server := "http://k" } } }

/-- One node, and pages that always name another one. After six calls there are no more tokens. -/
def tokenReply (r : Http.Request) (calls : Nat) : Http.Reply :=
  if r.origin = "http://k" then
    document ("\x7b\"metadata\":\x7b\x7d,\"items\":[\x7b\"metadata\":\x7b\"name\":\"a\"," ++
      "\"labels\":\x7b\"topology.kubernetes.io/zone\":\"z\"\x7d\x7d," ++
      "\"spec\":\x7b\"providerID\":\"gce://p/z/i\"\x7d\x7d]\x7d")
  else if r.origin = "http://t" then
    if calls < 6 then document "\x7b\"access_token\":\"t\"\x7d" else .answer 503 []
  else if r.origin = "http://c" then document "\x7b\"id\":\"7\"\x7d"
  else document "\x7b\"nextPageToken\":\"x\"\x7d"

def tokenWorld (c : Machine.port.Call) (calls : Nat) : Machine.port.Reply c × Nat :=
  (match c with
    | .send _ r => tokenReply r calls
    | .now => .early 900
    | .count _ => ()
    | .stampSuccess => ()
    | .pause _ => .due
    | .serveMetrics _ => .ok (), calls + 1)

def tokenNode : Node :=
  { name := "a", providerId := some "gce://p/z/i", labels := .ofList [(Label.zone, "z")] }

/-- The second page is not asked for, and the node has no status. -/
theorem pass_requests_tokenWorld :
    let pass := (pass plainSettings).translate (tokenServices.answer 3)
    (∀ s, ∃ window, Window.endingAt? (tokenWorld Machine.Call.now s).1 plainSettings.window =
      some window) ∧
    ((tokenServices.answer 3 (.listNodes plainSettings.selector)).run tokenWorld 0).value =
      .ok (.ok [tokenNode]) ∧
    (∃ listing blocks outcomes, listing.purpose = .listing ∧
      Blocks tokenServices plainSettings 3 [tokenNode] outcomes blocks ∧
      (pass.exchanges tokenWorld 0).filterMap sent? =
        (listing :: blocks.flatten).map Step.exchange ∧
      (pass.run tokenWorld 0).value = outcomes.map fun outcomes => .ok (tally outcomes)) ∧
    ((pass.exchanges tokenWorld 0).filterMap sent?).map (fun x => x.1.origin) =
      ["http://k", "http://t", "http://c", "http://t", "http://m", "http://t"] ∧
    (pass.run tokenWorld 0).value.toOption.bind Except.toOption =
      some { nodes := 1, noStatus := 1 } := by
  have hwindow : Window.endingAt? (.early 900) plainSettings.window =
      some { start := .early 0, stop := .early 900 } := by decide +kernel
  have hclock : ∀ s, ∃ window,
      Window.endingAt? (tokenWorld Machine.Call.now s).1 plainSettings.window = some window :=
    fun _ => ⟨_, hwindow⟩
  have hlist : ((tokenServices.answer 3 (.listNodes plainSettings.selector)).run tokenWorld
      0).value = .ok (.ok [tokenNode]) := by
    have hnodes : ((tokenServices.answer 3 (.listNodes plainSettings.selector)).run tokenWorld
        0).value.toOption.bind Except.toOption = some [tokenNode] := by decide +kernel
    obtain ⟨listed, hvalue, hlisted⟩ := Option.bind_eq_some_iff.1 hnodes
    rw [Cloud.eq_ok_of_toOption hvalue, Cloud.eq_ok_of_toOption hlisted]
  have hrun : ((((pass plainSettings).translate (tokenServices.answer 3)).exchanges tokenWorld
        0).filterMap sent? |>.map fun x => x.1.origin,
      (((pass plainSettings).translate (tokenServices.answer 3)).run tokenWorld
        0).value.toOption.bind Except.toOption) =
      (["http://k", "http://t", "http://c", "http://t", "http://m", "http://t"],
        some { nodes := 1, noStatus := 1 }) := by decide +kernel
  obtain ⟨horigins, hsummary⟩ := Prod.mk.inj hrun
  obtain ⟨listing, blocks, outcomes, hpurpose, -, hblocks, hsent, -, hvalue⟩ :=
    pass_requests tokenServices plainSettings 3 rfl hclock hlist
  exact ⟨hclock, hlist, ⟨listing, blocks, outcomes, hpurpose, hblocks, hsent, hvalue⟩, horigins,
    hsummary⟩

end NodeLabels.Prediction
