import Mathlib.Data.List.Basic
import NodeLabels.Proofs.Cloud.Attempt
/-!
# Authorized reads

In the steps of reads that follow each other, every read carries the token that was asked for right
before it, and nothing follows a request for a token that brings none. `Authorized` says so of a
list of steps, and it holds of reads put one behind the other as long as none of them but the last
is denied its token.
-/

namespace NodeLabels.Cloud

open Http (Purpose Step)

/-- The request carries the fixed token, or the one in the reply to the step right before it. -/
def Bears (tokens : TokenSource) (before : List Step) (x : Step) : Prop :=
  match tokens with
  | .fixed token => bearer token ∈ x.request.headers
  | .metadata _ => ∃ y token, before.getLast? = some y ∧ y.purpose = .token ∧
      tokenIn y.reply = some token ∧ bearer token ∈ x.request.headers

/-- The step asks for a token and gets none. -/
def Denied (x : Step) : Prop := x.purpose = .token ∧ tokenIn x.reply = none

/-- Each step is what it is for, reads carry their tokens, and a step that is denied a token is the
last one. What came before that one meets its fate. -/
structure Authorized (tokens : TokenSource) (suits : Step → Prop) (fate : List Step → Prop)
    (steps : List Step) : Prop where
  suited : ∀ x ∈ steps, suits x
  bears : ∀ before x after, steps = before ++ x :: after → x.purpose.isRead = true →
    Bears tokens before x
  denied : ∀ before x after, steps = before ++ x :: after → Denied x → after = [] ∧ fate before

section

variable {tokens : TokenSource} {suits : Step → Prop} {fate : List Step → Prop}
  {steps more : List Step} {x y : Step}

theorem Bears.append {before : List Step} (h : Bears tokens before x) (earlier : List Step) :
    Bears tokens (earlier ++ before) x := by
  cases tokens with
  | fixed token => exact h
  | metadata server =>
    obtain ⟨y, token, hlast, hy⟩ := h
    exact ⟨y, token, by rw [List.getLast?_append, hlast, Option.some_or], hy⟩

theorem not_denied_of_granted {token : String} (h : tokenIn x.reply = some token) : ¬ Denied x := by
  rintro ⟨-, hnone⟩
  rw [h] at hnone
  cases hnone

/-- A position in a list that is put together lies in the one part or in the other. -/
theorem append_eq_split {α : Type} {a b before after : List α} {x : α}
    (h : a ++ b = before ++ x :: after) :
    (∃ rest, a = before ++ x :: rest ∧ after = rest ++ b) ∨
      ∃ start, before = a ++ start ∧ b = start ++ x :: after := by
  obtain ⟨start, hbefore, hb⟩ | ⟨rest, ha, hrest⟩ := List.append_eq_append_iff.1 h
  · exact .inr ⟨start, hbefore, hb⟩
  · obtain ⟨rfl, hb⟩ | ⟨rest, rfl, hafter⟩ := List.cons_eq_append_iff.1 hrest
    · exact .inr ⟨[], by simp [ha], hb⟩
    · exact .inl ⟨rest, ha, hafter⟩

namespace Authorized

theorem nil : Authorized tokens suits fate [] where
  suited x hx := by cases hx
  bears before x after h := by simp at h
  denied before x after h := by simp at h

theorem mono {fate' : List Step → Prop} (h : Authorized tokens suits fate steps)
    (hfate : ∀ before, fate before → fate' before) : Authorized tokens suits fate' steps where
  suited := h.suited
  bears := h.bears
  denied before x after hsteps hx := by
    obtain ⟨hafter, hbefore⟩ := h.denied before x after hsteps hx
    exact ⟨hafter, hfate before hbefore⟩

/-- One more step. -/
theorem concat (h : Authorized tokens suits (fun _ => False) steps) (hsuits : suits y)
    (hbears : y.purpose.isRead = true → Bears tokens steps y) (hdenied : Denied y → fate steps) :
    Authorized tokens suits fate (steps ++ [y]) := by
  have hlast : ∀ {start x after}, [y] = start ++ x :: after → start = [] ∧ x = y ∧ after = [] := by
    intro start x after heq
    cases start with
    | nil => simpa [eq_comm] using heq
    | cons z start => simp at heq
  refine ⟨?_, ?_, ?_⟩
  · intro x hx
    rcases List.mem_append.1 hx with hx | hx
    · exact h.suited x hx
    · exact List.mem_singleton.1 hx ▸ hsuits
  · intro before x after heq hread
    obtain ⟨rest, hsteps, -⟩ | ⟨start, rfl, hy⟩ := append_eq_split heq
    · exact h.bears before x rest hsteps hread
    · obtain ⟨rfl, rfl, -⟩ := hlast hy
      rw [List.append_nil]
      exact hbears hread
  · intro before x after heq hx
    obtain ⟨rest, hsteps, -⟩ | ⟨start, rfl, hy⟩ := append_eq_split heq
    · exact (h.denied before x rest hsteps hx).2.elim
    · obtain ⟨rfl, rfl, rfl⟩ := hlast hy
      rw [List.append_nil]
      exact ⟨rfl, hdenied hx⟩

/-- Reads behind reads that were all granted their tokens. -/
theorem append (h : Authorized tokens suits (fun _ => False) steps)
    (g : Authorized tokens suits (fun before => fate (steps ++ before)) more) :
    Authorized tokens suits fate (steps ++ more) := by
  refine ⟨?_, ?_, ?_⟩
  · intro x hx
    rcases List.mem_append.1 hx with hx | hx
    · exact h.suited x hx
    · exact g.suited x hx
  · intro before x after heq hread
    obtain ⟨rest, hsteps, -⟩ | ⟨start, rfl, hmore⟩ := append_eq_split heq
    · exact h.bears before x rest hsteps hread
    · exact (g.bears start x after hmore hread).append steps
  · intro before x after heq hx
    obtain ⟨rest, hsteps, -⟩ | ⟨start, rfl, hmore⟩ := append_eq_split heq
    · exact (h.denied before x rest hsteps hx).2.elim
    · exact g.denied start x after hmore hx

end Authorized

/-! ## One read -/

theorem Granting.authorized {grant : Except SourceFault String} (h : Granting tokens grant steps)
    (hsuits : ∀ x, AsksToken tokens x → suits x) :
    Authorized tokens suits (fun before => before = [] ∧ ∃ why, grant = .error (.auth why))
      steps := by
  have hsingle : ∀ {x : Step}, AsksToken tokens x →
      (Denied x → ∃ why, grant = .error (.auth why)) → Authorized tokens suits
        (fun before => before = [] ∧ ∃ why, grant = .error (.auth why)) [x] := by
    intro x hx hdenied
    have hunread : x.purpose.isRead ≠ true := by
      rw [hx.purpose]
      decide
    exact Authorized.nil.concat (hsuits x hx) (fun hread => absurd hread hunread)
      fun h => ⟨rfl, hdenied h⟩
  cases h with
  | fixed h => exact .nil
  | unsent h why => exact .nil
  | denied hx hreply why => exact hsingle hx fun _ => ⟨why, rfl⟩
  | granted hx hreply => exact hsingle hx fun h => absurd h (not_denied_of_granted hreply)

theorem Granting.bears {token : String} (h : Granting tokens (.ok token) steps)
    (hbearer : bearer token ∈ x.request.headers) : Bears tokens steps x := by
  cases h with
  | fixed h =>
    rw [h]
    exact hbearer
  | @granted y _ hy hreply =>
    obtain ⟨server, u, rfl, -⟩ := hy.gets
    exact ⟨y, token, rfl, hy.purpose, hreply, hbearer⟩

section

variable {α : Type} {purpose : Purpose} {fits : Http.Request → Prop} {v : Except SourceFault α}

/-- A read that is denied its token comes to that fault. -/
theorem Attempt.authorized (h : Attempt tokens purpose fits v steps)
    (hpurpose : purpose.isRead = true) (htoken : ∀ x, AsksToken tokens x → suits x)
    (hread : ∀ r answer, fits r → suits ⟨purpose, r, answer⟩) :
    Authorized tokens suits (fun before => before = [] ∧ ∃ why, v = .error (.auth why)) steps := by
  cases h with
  | unbuilt fault => exact .nil
  | denied h =>
    apply (h.authorized htoken).mono
    rintro before ⟨hbefore, why, hwhy⟩
    exact ⟨hbefore, why, congrArg _ (Except.error.inj hwhy)⟩
  | unsent h fault =>
    apply (h.authorized htoken).mono
    rintro before ⟨-, why, hwhy⟩
    cases hwhy
  | sent h hfits hbearer answer v =>
    have hgranted : Authorized tokens suits (fun _ => False) _ := (h.authorized htoken).mono <| by
      rintro before ⟨-, why, hwhy⟩
      cases hwhy
    apply hgranted.concat (hread _ answer hfits) fun _ => h.bears hbearer
    rintro ⟨htoken, -⟩
    obtain rfl : purpose = .token := htoken
    cases hpurpose

/-! ## The order of steps -/

theorem Granting.purposes_initial {grant : Except SourceFault String}
    (h : Granting tokens grant steps) (purpose : Purpose) :
    steps.map Step.purpose <+: withToken tokens purpose := by
  have hsingle : ∀ {x : Step}, AsksToken tokens x →
      [x].map Step.purpose <+: withToken tokens purpose := by
    intro x hx
    obtain ⟨server, u, rfl, -⟩ := hx.gets
    exact ⟨[purpose], by simp [withToken, hx.purpose]⟩
  cases h with
  | fixed h => exact List.nil_prefix
  | unsent h why => exact List.nil_prefix
  | denied hx hreply why => exact hsingle hx
  | granted hx hreply => exact hsingle hx

theorem Granting.purposes {token : String} (h : Granting tokens (.ok token) steps)
    (purpose : Purpose) : steps.map Step.purpose ++ [purpose] = withToken tokens purpose := by
  cases h with
  | fixed h =>
    rw [h]
    rfl
  | granted hx hreply =>
    obtain ⟨server, u, rfl, -⟩ := hx.gets
    simp [withToken, hx.purpose]

theorem Attempt.purposes_initial (h : Attempt tokens purpose fits v steps) :
    steps.map Step.purpose <+: withToken tokens purpose := by
  cases h with
  | unbuilt fault => exact List.nil_prefix
  | denied h => exact h.purposes_initial purpose
  | unsent h fault => exact h.purposes_initial purpose
  | sent h hfits hbearer answer v =>
    rw [← h.purposes purpose, List.map_append]
    exact List.prefix_rfl

/-- A read that has something to show for it was sent. -/
theorem Attempt.purposes {a : α} (h : Attempt tokens purpose fits (.ok a) steps) :
    steps.map Step.purpose = withToken tokens purpose := by
  cases h with
  | sent h hfits hbearer answer v =>
    rw [List.map_append]
    exact h.purposes purpose

theorem Attempt.authorized_ok {a : α} (h : Attempt tokens purpose fits (.ok a) steps)
    (hpurpose : purpose.isRead = true) (htoken : ∀ x, AsksToken tokens x → suits x)
    (hread : ∀ r answer, fits r → suits ⟨purpose, r, answer⟩) :
    Authorized tokens suits (fun _ => False) steps := by
  apply (h.authorized hpurpose htoken hread).mono
  rintro before ⟨-, why, hwhy⟩
  cases hwhy

end

/-! ## The pages of a query -/

/-- The steps that so many pages take. -/
def withTokens (tokens : TokenSource) (pages : Nat) : List Purpose :=
  (List.replicate pages (withToken tokens .page)).flatten

theorem withTokens_succ (tokens : TokenSource) (pages : Nat) :
    withTokens tokens (pages + 1) = withToken tokens .page ++ withTokens tokens pages := rfl

theorem withTokens_one (tokens : TokenSource) : withTokens tokens 1 = withToken tokens .page :=
  List.append_nil _

theorem withTokens_initial (tokens : TokenSource) (pages : Nat) :
    withTokens tokens pages <+: withTokens tokens (pages + 1) := by
  induction pages with
  | zero => exact List.nil_prefix
  | succ pages ih => exact (List.prefix_append_right_inj (withToken tokens .page)).2 ih

theorem count_withToken (tokens : TokenSource) (purpose : Purpose) :
    (withToken tokens purpose).count .page = if purpose = .page then 1 else 0 := by
  cases tokens <;> cases purpose <;> rfl

theorem count_withTokens (tokens : TokenSource) (pages : Nat) :
    (withTokens tokens pages).count .page = pages := by
  induction pages with
  | zero => rfl
  | succ pages ih => rw [withTokens_succ, List.count_append, count_withToken, ih, if_pos rfl,
      Nat.add_comm]

namespace Monitoring.Paging

variable {fits : Http.Request → Prop} {pages : Nat}
  {v : Except Halt (Except SourceFault (List Series))}

theorem authorized (h : Paging tokens fits pages v steps)
    (htoken : ∀ x, AsksToken tokens x → suits x)
    (hread : ∀ r answer, fits r → suits ⟨.page, r, answer⟩) :
    Authorized tokens suits (fun _ => ∃ fault, v = .ok (.error fault)) steps := by
  induction h with
  | exhausted => exact .nil
  | @failed fault steps h =>
    apply (h.authorized rfl htoken hread).mono
    rintro before -
    exact ⟨fault, rfl⟩
  | last h found =>
    apply (h.authorized_ok rfl htoken hread).mono
    rintro before ⟨⟩
  | next h _ ih => exact (h.authorized_ok rfl htoken hread).append ih

theorem purposes_initial (h : Paging tokens fits pages v steps) :
    steps.map Step.purpose <+: withTokens tokens pages := by
  induction h with
  | exhausted => exact List.nil_prefix
  | failed h =>
    rw [withTokens_one]
    exact h.purposes_initial
  | last h found =>
    rw [withTokens_one]
    exact h.purposes_initial
  | next h _ ih =>
    rw [List.map_append, h.purposes, withTokens_succ]
    exact (List.prefix_append_right_inj _).2 ih

/-- Unless a page fails, all pages that are asked for are sent for. -/
theorem purposes (h : Paging tokens fits pages v steps)
    (hv : ∀ fault, v ≠ .ok (.error fault)) :
    steps.map Step.purpose = withTokens tokens pages := by
  induction h with
  | exhausted => rfl
  | @failed fault steps h => exact absurd rfl (hv fault)
  | last h found =>
    rw [withTokens_one]
    exact h.purposes
  | next h _ ih => rw [List.map_append, h.purposes, withTokens_succ, ih hv]

/-- A query that comes to an end asks for a page. -/
theorem pages_pos (h : Paging tokens fits pages v steps) {result : Except SourceFault (List Series)}
    (hv : v = .ok result) : 0 < pages := by
  cases h with
  | exhausted => cases hv
  | failed h => exact Nat.one_pos
  | last h found => exact Nat.one_pos
  | next h onward => exact Nat.succ_pos _

end Monitoring.Paging

end

end NodeLabels.Cloud
