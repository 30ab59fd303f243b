import NodeLabels.Proofs.Cloud.Course
import NodeLabels.Proofs.Cloud.Serves
import NodeLabels.Proofs.Prediction.First
/-!
# Stopping at the first prediction

A query gives up the pages behind the first one with a prediction, and nothing is lost by it: the
series it returns have the same first prediction as all the pages that the tokens lead over.
-/

namespace NodeLabels.Cloud.Monitoring

open Dialogue (Exchange Returns)

/-- The page has a series with a prediction. -/
def Page.Predicts (p : Page) : Prop :=
  ∃ x ∈ p.series, ∃ raw, x.label? Label.predictionValue = some raw ∧ raw ≠ ""

theorem Page.predicts_iff {p : Page} :
    p.Predicts ↔ p.series.any (·.prediction?.isSome) = true := by
  simp only [Predicts, List.any_eq_true, Option.isSome_iff_exists, Series.prediction?_eq_some]

instance : DecidablePred Page.Predicts := fun _ => decidable_of_iff _ Page.predicts_iff.symm

/-- The series on the pages, in order. -/
def seriesOf (pages : List Page) : List Series := pages.flatMap (·.series)

theorem seriesOf_singleton (p : Page) : seriesOf [p] = p.series :=
  List.flatMap_singleton _ p

theorem seriesOf_cons (p : Page) (ps : List Page) : seriesOf (p :: ps) = p.series ++ seriesOf ps :=
  List.flatMap_cons

/-- The pages up to the first one with a prediction, that one among them. -/
def throughPrediction : List Page → List Page
  | [] => []
  | p :: ps => if p.Predicts then [p] else p :: throughPrediction ps

section

variable {p : Page} {ps : List Page}

theorem throughPrediction_of_predicts (h : p.Predicts) : throughPrediction (p :: ps) = [p] :=
  if_pos h

theorem throughPrediction_of_not (h : ¬ p.Predicts) :
    throughPrediction (p :: ps) = p :: throughPrediction ps := if_neg h

theorem throughPrediction_of_none (h : ∀ p ∈ ps, ¬ p.Predicts) : throughPrediction ps = ps := by
  induction ps with
  | nil => rfl
  | cons p ps ih =>
    rw [throughPrediction_of_not (h p (by simp)), ih fun q hq => h q (by simp [hq])]

theorem throughPrediction_append {front : List Page} (hf : ∀ q ∈ front, ¬ q.Predicts)
    (hp : p.Predicts) (back : List Page) :
    throughPrediction (front ++ p :: back) = front ++ [p] := by
  induction front with
  | nil => exact throughPrediction_of_predicts hp
  | cons q qs ih =>
    rw [List.cons_append, throughPrediction_of_not (hf q (by simp)),
      ih fun r hr => hf r (by simp [hr])]
    rfl

theorem not_predicts_iff : ¬ p.Predicts ↔ ∀ x ∈ p.series, x.prediction? = none := by
  rw [Page.predicts_iff]
  simp

/-- What is left out has no say in the first prediction. -/
theorem firstPrediction_throughPrediction (ps : List Page) :
    firstPrediction (seriesOf (throughPrediction ps)) = firstPrediction (seriesOf ps) := by
  induction ps with
  | nil => rfl
  | cons p ps ih =>
    simp only [seriesOf, List.flatMap_cons] at ih ⊢
    by_cases hp : p.Predicts
    · have hsome : firstPrediction p.series ≠ none := by
        rwa [Ne, firstPrediction_eq_none, ← not_predicts_iff, Decidable.not_not]
      obtain ⟨signal, hsignal⟩ := Option.ne_none_iff_exists'.1 hsome
      rw [throughPrediction_of_predicts hp, firstPrediction_append, hsignal]
      simp [hsignal]
    · rw [throughPrediction_of_not hp, List.flatMap_cons, firstPrediction_append,
        firstPrediction_append, ih]

end

/-- The cut is behind the first page with a prediction, or nothing is cut off. -/
theorem exists_cut (shown : List Page) : ∃ back, shown = throughPrediction shown ++ back ∧
    ((∃ init p, throughPrediction shown = init ++ [p] ∧ (∀ q ∈ init, ¬ q.Predicts) ∧
      p.Predicts) ∨ back = [] ∧ ∀ q ∈ throughPrediction shown, ¬ q.Predicts) := by
  induction shown with
  | nil => exact ⟨[], rfl, Or.inr ⟨rfl, by simp [throughPrediction]⟩⟩
  | cons p ps ih =>
    by_cases hp : p.Predicts
    · rw [throughPrediction_of_predicts hp]
      exact ⟨ps, rfl, Or.inl ⟨[], p, rfl, by simp, hp⟩⟩
    · obtain ⟨back, hback, hcut⟩ := ih
      rw [throughPrediction_of_not hp]
      refine ⟨back, congrArg (p :: ·) hback, hcut.imp ?_ ?_⟩
      · rintro ⟨init, q, hq, hinit, hqp⟩
        exact ⟨p :: init, q, congrArg (p :: ·) hq, List.forall_mem_cons.2 ⟨hp, hinit⟩, hqp⟩
      · rintro ⟨rfl, hnone⟩
        exact ⟨rfl, List.forall_mem_cons.2 ⟨hp, hnone⟩⟩

/-! ## Trails of tokens -/

section

variable {m : Monitoring} {project instanceId : String} {window : Window} {σ : Type}
  {reply : (r : Http.port.Call) → σ → Http.port.Reply r × σ}
  {pages : Option String → Except SourceFault Page} {seen : List String} {page : Option String}
  {token : String} {tokens : List String} {shown : List Page} {last : Option String}
  {found : List Series}

/-- From `page` the tokens lead over the pages `shown`, each naming the next and the last of them
naming `last`. No token comes twice or is among the `seen`. -/
structure Trail (pages : Option String → Except SourceFault Page) (seen : List String)
    (page : Option String) (tokens : List String) (shown : List Page) (last : Option String) :
    Prop where
  fresh : tokens.Nodup
  unseen : ∀ token ∈ tokens, token ∉ seen
  answered : (page :: tokens.map some).map pages = shown.map .ok
  named : shown.map Page.next? = tokens.map some ++ [last]

theorem Trail.of_nil (h : Trail pages seen page [] shown last) :
    ∃ p, shown = [p] ∧ pages page = .ok p ∧ p.next? = last := by
  obtain ⟨p, rfl, hnext⟩ := List.map_eq_singleton_iff.1 h.named
  exact ⟨p, rfl, (List.cons.inj h.answered).1, hnext⟩

theorem Trail.of_cons (h : Trail pages seen page (token :: tokens) shown last) :
    ∃ p ps, shown = p :: ps ∧ pages page = .ok p ∧ p.next? = some token ∧ token ∉ seen ∧
      Trail pages (token :: seen) (some token) tokens ps last := by
  obtain ⟨p, ps, rfl, hnext, hrest⟩ := List.map_eq_cons_iff.1 h.named
  obtain ⟨hp, hps⟩ := List.cons.inj h.answered
  obtain ⟨hnot, hfresh⟩ := List.nodup_cons.1 h.fresh
  refine ⟨p, ps, rfl, hp, hnext, h.unseen token (by simp), hfresh, fun u hu => ?_, hps, hrest⟩
  rw [List.mem_cons, not_or]
  exact ⟨fun e => hnot (e ▸ hu), h.unseen u (by simp [hu])⟩

/-- The same pages under the same tokens make the same trail. -/
theorem Trail.congr (h : Trail pages seen page tokens shown last)
    {pages' : Option String → Except SourceFault Page}
    (hp : ∀ q ∈ page :: tokens.map some, pages' q = pages q) :
    Trail pages' seen page tokens shown last :=
  ⟨h.fresh, h.unseen, (List.map_congr_left hp).trans h.answered, h.named⟩

theorem any_append_series {p : Page} (hfound : ∀ x ∈ found, x.prediction? = none) :
    (found ++ p.series).any (·.prediction?.isSome) = decide p.Predicts := by
  have hnone : found.any (·.prediction?.isSome) = false :=
    List.any_eq_false.2 fun x hx => by simp [hfound x hx]
  rw [List.any_append, hnone, Bool.false_or, Bool.eq_iff_iff, ← Page.predicts_iff,
    decide_eq_true_iff]

theorem following_of_predicts {p : Page} (hp : p.Predicts)
    (hfound : ∀ x ∈ found, x.prediction? = none) : following seen found p = none := by
  rw [following, any_append_series hfound, if_pos (decide_eq_true hp)]

theorem following_of_not_predicts {p : Page} (hp : ¬ p.Predicts)
    (hfound : ∀ x ∈ found, x.prediction? = none) :
    following seen found p = p.next?.filter (· ∉ seen) := by
  rw [following, any_append_series hfound, if_neg (by simpa using hp)]

/-- A query takes the course of the trail up to the first prediction. The invariant is that no
series found so far carries one. -/
theorem Trail.course (trail : Trail pages seen page tokens shown last)
    (hserves : Serves m project instanceId window reply pages)
    (hstop : (∃ p ∈ shown, p.Predicts) ∨ ∀ token ∈ last, token ∈ seen ∨ token ∈ tokens)
    (hfound : ∀ x ∈ found, x.prediction? = none) (s : σ) : ∃ asked t log,
      asked.length = (throughPrediction shown).length ∧
        Course m project instanceId window reply page seen found s asked
          (.ok (found ++ seriesOf (throughPrediction shown))) t log := by
  induction tokens generalizing seen page shown found s with
  | nil =>
    obtain ⟨p, rfl, hpage, rfl⟩ := trail.of_nil
    have hreturns := Returns.of_value ((hserves page s).trans (congrArg Except.ok hpage))
    have hend : throughPrediction [p] = [p] := by
      by_cases hp : p.Predicts
      · exact throughPrediction_of_predicts hp
      · exact throughPrediction_of_none (by simpa using hp)
    have hlast : following seen found p = none := by
      by_cases hp : p.Predicts
      · exact following_of_predicts hp hfound
      · rw [following_of_not_predicts hp hfound]
        have hnamed : ∀ token ∈ p.next?, token ∈ seen := by simpa [hp] using hstop
        simpa [Option.filter_eq_none_iff] using hnamed
    rw [hend, seriesOf_singleton]
    exact ⟨[page], _, _, rfl, .last hreturns hlast⟩
  | cons token tokens ih =>
    obtain ⟨p, ps, rfl, hpage, hnext, hunseen, onward⟩ := trail.of_cons
    have hreturns := Returns.of_value ((hserves page s).trans (congrArg Except.ok hpage))
    by_cases hp : p.Predicts
    · rw [throughPrediction_of_predicts hp, seriesOf_singleton]
      exact ⟨[page], _, _, rfl, .last hreturns (following_of_predicts hp hfound)⟩
    · have hfollow : following seen found p = some token := by
        rw [following_of_not_predicts hp hfound, hnext]
        simp [hunseen]
      have hstop' : (∃ q ∈ ps, q.Predicts) ∨
          ∀ u ∈ last, u ∈ token :: seen ∨ u ∈ tokens := by
        rcases hstop with ⟨q, hq, hqp⟩ | hend
        · rcases List.mem_cons.1 hq with rfl | hq
          · exact absurd hqp hp
          · exact Or.inl ⟨q, hq, hqp⟩
        · exact Or.inr fun u hu => by have := hend u hu; grind
      have hfound' : ∀ x ∈ found ++ p.series, x.prediction? = none := by
        intro x hx
        rcases List.mem_append.1 hx with hx | hx
        · exact hfound x hx
        · exact not_predicts_iff.1 hp x hx
      obtain ⟨asked, t, log, hlength, hcourse⟩ := ih onward hstop' hfound' _
      rw [List.append_assoc, ← seriesOf_cons] at hcourse
      rw [throughPrediction_of_not hp]
      exact ⟨page :: asked, t, _, congrArg (· + 1) hlength, .next hreturns hfollow hcourse⟩

/-- What a query returns, if its trail holds a prediction or comes to an end. -/
theorem Trail.value_predictionSeries (trail : Trail pages [] none tokens shown last)
    (hserves : Serves m project instanceId window reply pages)
    (hstop : (∃ p ∈ shown, p.Predicts) ∨ ∀ token ∈ last, token ∈ tokens) {patience : Nat}
    (hp : (throughPrediction shown).length ≤ patience) (s : σ) :
    ((m.predictionSeries patience project instanceId window).run reply s).value =
      .ok (.ok (seriesOf (throughPrediction shown))) := by
  have hfound : ∀ x ∈ ([] : List Series), x.prediction? = none := by simp
  obtain ⟨asked, t, log, hlength, hcourse⟩ :=
    trail.course hserves (hstop.imp_right fun h u hu => Or.inr (h u hu)) hfound s
  exact (hcourse.predictionSeries_returns (by omega)).value

end

/-- Early stopping agrees with going on. If the tokens lead over the pages `shown` and then end,
because no further one is named or an old one is, a query returns the series of the pages up to the
first with a prediction, or of all, and these have the first prediction that all have. What a world
answers behind that page makes no difference. -/
theorem predictionSeries_stops_early (m : Monitoring) (project instanceId : String)
    (window : Window) :
    (∀ {σ : Type} (reply : (r : Http.port.Call) → σ → Http.port.Reply r × σ) (s : σ)
      (pages : Option String → Except SourceFault Page) (tokens : List String)
      (shown : List Page) (last : Option String) (patience : Nat),
      Serves m project instanceId window reply pages → Trail pages [] none tokens shown last →
      (∀ token ∈ last, token ∈ tokens) → shown.length ≤ patience →
      ∃ front back, shown = front ++ back ∧
        ((m.predictionSeries patience project instanceId window).run reply s).value =
          .ok (.ok (seriesOf front)) ∧
        ((∃ init p, front = init ++ [p] ∧ (∀ q ∈ init, ¬ q.Predicts) ∧ p.Predicts) ∨
          back = [] ∧ ∀ q ∈ front, ¬ q.Predicts) ∧
        firstPrediction (seriesOf front) = firstPrediction (seriesOf shown)) ∧
    (∀ {σ σ' : Type} (reply : (r : Http.port.Call) → σ → Http.port.Reply r × σ)
      (reply' : (r : Http.port.Call) → σ' → Http.port.Reply r × σ') (s : σ) (s' : σ')
      (pages pages' : Option String → Except SourceFault Page) (tokens : List String)
      (init : List Page) (p : Page) (last : Option String) (patience patience' : Nat),
      Serves m project instanceId window reply pages →
      Serves m project instanceId window reply' pages' →
      Trail pages [] none tokens (init ++ [p]) last → (∀ q ∈ init, ¬ q.Predicts) →
      p.Predicts → (∀ page ∈ none :: tokens.map some, pages' page = pages page) →
      init.length < patience → init.length < patience' →
      ((m.predictionSeries patience project instanceId window).run reply s).value =
          .ok (.ok (seriesOf (init ++ [p]))) ∧
        ((m.predictionSeries patience' project instanceId window).run reply' s').value =
          .ok (.ok (seriesOf (init ++ [p])))) := by
  refine ⟨?_, ?_⟩
  · intro σ reply s pages tokens shown last patience hserves trail hend hp
    obtain ⟨back, hshown, hcut⟩ := exists_cut shown
    have hle : (throughPrediction shown).length ≤ patience := by
      have := congrArg List.length hshown
      rw [List.length_append] at this
      omega
    exact ⟨throughPrediction shown, back, hshown,
      trail.value_predictionSeries hserves (Or.inr hend) hle s, hcut,
      firstPrediction_throughPrediction shown⟩
  · intro σ σ' reply reply' s s' pages pages' tokens init p last patience patience' hserves
      hserves' trail hinit hp hagree hle hle'
    have hthrough : throughPrediction (init ++ [p]) = init ++ [p] :=
      throughPrediction_append hinit hp []
    have hstop : (∃ q ∈ init ++ [p], q.Predicts) ∨ ∀ token ∈ last, token ∈ tokens :=
      Or.inl ⟨p, by simp, hp⟩
    have hlength : (throughPrediction (init ++ [p])).length = init.length + 1 := by
      rw [hthrough, List.length_append, List.length_singleton]
    have hp : (throughPrediction (init ++ [p])).length ≤ patience := by omega
    have hp' : (throughPrediction (init ++ [p])).length ≤ patience' := by omega
    have hvalue := trail.value_predictionSeries hserves hstop hp s
    have hvalue' := (trail.congr hagree).value_predictionSeries hserves' hstop hp' s'
    rw [hthrough] at hvalue hvalue'
    exact ⟨hvalue, hvalue'⟩

/-- Three pages, the second with a prediction. The third names the second again, if it is not
`lost`. -/
def threePages (lost : Bool) (page : Option String) : Http.Reply :=
  ([(none, document "\x7b\"timeSeries\":[\x7b\x7d],\"nextPageToken\":\"b\"\x7d"),
    (some "b", document ("\x7b\"timeSeries\":[\x7b\"metric\":\x7b\"labels\":\x7b\"Value\":" ++
      "\"DEGRADATION_PREDICTED\"\x7d\x7d\x7d],\"nextPageToken\":\"c\"\x7d")),
    (some "c", if lost then .answer 500 [] else document "\x7b\"nextPageToken\":\"b\"\x7d")].lookup
      page).getD (.answer 404 [])

def quietPage : Page := { series := [{ metric := "" }], next := some "b" }

def tellingPage : Page :=
  { series := [{ metric := "", labels := .ofList [("Value", "DEGRADATION_PREDICTED")] }]
    next := some "c" }

def lastPage : Page := { series := [], next := some "b" }

theorem sendable_threePages : ∀ page ∈ [none, some "b", some "c"],
    Sendable (plainBase.addQuery (pageQuery "1" quarter page)) [bearer "t"] := by
  have haddresses : ∀ page ∈ [none, some "b", some "c"], Http.Uri.isSendable (site plainBase)
      (plainBase.addQuery (pageQuery "1" quarter page)).resource = true := by decide +kernel
  exact fun page hpage => sendable_plainBase (haddresses page hpage)

theorem plainPages_threePages (lost : Bool) :
    plainPages (threePages lost) none = .ok quietPage ∧
      plainPages (threePages lost) (some "b") = .ok tellingPage := by
  have hfirst := sendable_threePages none (by simp)
  have hsecond := sendable_threePages (some "b") (by simp)
  cases lost <;>
    exact ⟨pageOfReply_eq_ok hfirst (by decide +kernel),
      pageOfReply_eq_ok hsecond (by decide +kernel)⟩

theorem plainPages_last : plainPages (threePages false) (some "c") = .ok lastPage :=
  pageOfReply_eq_ok (sendable_threePages _ (by simp)) (by decide +kernel)

theorem threePages_trail : Trail (plainPages (threePages false)) [] none ["b", "c"]
    [quietPage, tellingPage, lastPage] (some "b") where
  fresh := by decide
  unseen := by simp
  answered := by
    obtain ⟨hfirst, hsecond⟩ := plainPages_threePages false
    simp only [List.map_cons, List.map_nil, hfirst, hsecond, plainPages_last]
  named := by decide

theorem twoPages_trail : Trail (plainPages (threePages false)) [] none ["b"]
    ([quietPage] ++ [tellingPage]) (some "c") where
  fresh := by decide
  unseen := by simp
  answered := by
    obtain ⟨hfirst, hsecond⟩ := plainPages_threePages false
    simp only [List.map_cons, List.map_nil, List.cons_append, List.nil_append, hfirst, hsecond]
  named := by decide

theorem quietPage_not_predicts : ∀ q ∈ [quietPage], ¬ q.Predicts := by decide +kernel

theorem tellingPage_predicts : tellingPage.Predicts := by decide +kernel

theorem threePages_agree : ∀ page ∈ none :: ["b"].map some,
    plainPages (threePages true) page = plainPages (threePages false) page := by
  simp [plainPages_threePages]

/-- With three pages and with the third lost, the first two make the result. -/
theorem predictionSeries_threePages :
    (Serves plainClient plainProject "1" quarter (tableWorld (threePages false))
        (plainPages (threePages false)) ∧
      Trail (plainPages (threePages false)) [] none ["b", "c"]
        [quietPage, tellingPage, lastPage] (some "b") ∧
      ∃ front back, [quietPage, tellingPage, lastPage] = front ++ back ∧
        ((plainClient.predictionSeries 3 plainProject "1" quarter).run
          (tableWorld (threePages false)) ()).value = .ok (.ok (seriesOf front)) ∧
        ((∃ init p, front = init ++ [p] ∧ (∀ q ∈ init, ¬ q.Predicts) ∧ p.Predicts) ∨
          back = [] ∧ ∀ q ∈ front, ¬ q.Predicts) ∧
        firstPrediction (seriesOf front) =
          firstPrediction (seriesOf [quietPage, tellingPage, lastPage])) ∧
    (Serves plainClient plainProject "1" quarter (tableWorld (threePages true))
        (plainPages (threePages true)) ∧
      Trail (plainPages (threePages false)) [] none ["b"] ([quietPage] ++ [tellingPage])
        (some "c") ∧
      tellingPage.Predicts ∧
      ((plainClient.predictionSeries 2 plainProject "1" quarter).run
          (tableWorld (threePages false)) ()).value =
        .ok (.ok (seriesOf [quietPage, tellingPage])) ∧
      ((plainClient.predictionSeries 9 plainProject "1" quarter).run
          (tableWorld (threePages true)) ()).value =
        .ok (.ok (seriesOf [quietPage, tellingPage]))) := by
  have h := predictionSeries_stops_early plainClient plainProject "1" quarter
  have hserves := plainClient_serves (threePages false)
  have hserves' := plainClient_serves (threePages true)
  exact ⟨⟨hserves, threePages_trail,
      h.1 _ () _ _ _ _ 3 hserves threePages_trail (by decide) (by decide)⟩,
    ⟨hserves', twoPages_trail, tellingPage_predicts,
      h.2 _ _ () () _ _ _ _ _ _ 2 9 hserves hserves' twoPages_trail quietPage_not_predicts
        tellingPage_predicts threePages_agree (by decide) (by decide)⟩⟩

end NodeLabels.Cloud.Monitoring
