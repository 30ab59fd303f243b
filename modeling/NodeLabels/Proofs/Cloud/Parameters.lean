import NodeLabels.Proofs.Cloud.Gets
import NodeLabels.Proofs.Cloud.Serves
import NodeLabels.Proofs.Url.Clean
/-!
# The parameters of a query

What a server reads in the query of a request for a page: the parameters that the base URL has of
its own, and behind them those that were added, each value as it went in (`parameters_read_back`).
So the query tells which instance and which page was asked for.
-/

namespace NodeLabels.Cloud.Monitoring

variable {m m' : Monitoring} {project project' instanceId instanceId' : String}
  {window window' : Window} {page page' : Option String} {u : Url} {r r' : Http.Request}

/-- The request gets this page. -/
def AsksPage (m : Monitoring) (project instanceId : String) (window : Window)
    (page : Option String) (r : Http.Request) : Prop :=
  ∃ u, m.url project instanceId window page = .ok u ∧ Gets u r

/-! ## The query as it is read -/

theorem pageQuery_eq (instanceId : String) (window : Window) (page : Option String) :
    pageQuery instanceId window page =
      [("filter", filter instanceId), ("interval.startTime", window.start.timestamp),
        ("interval.endTime", window.stop.timestamp), ("view", "HEADERS")] ++
      (page.map fun token => ("pageToken", token)).toList := by
  cases page <;> rfl

theorem decode_query (hu : m.url project instanceId window page = .ok u) :
    Url.Form.decode (u.query.getD []) =
      ownParameters m project ++ pageQuery instanceId window page := by
  obtain ⟨base, hbase, rfl⟩ := url_eq_ok m project instanceId window page hu
  have hown : ownParameters m project = Url.Form.decode (base.query.getD []) := by
    rw [ownParameters, hbase]
  rw [hown, ← Url.Form.decode_append]
  rfl

theorem query_of_gets (hu : m.url project instanceId window page = .ok u) (hr : Gets u r) :
    r.query = u.query.getD [] := by
  obtain ⟨base, hbase, rfl⟩ := url_eq_ok m project instanceId window page hu
  exact Url.query_of_target hbase _ hr.target

theorem decode_query_of_asksPage (h : AsksPage m project instanceId window page r) :
    Url.Form.decode r.query = ownParameters m project ++ pageQuery instanceId window page := by
  obtain ⟨u, hu, hr⟩ := h
  rw [query_of_gets hu hr, decode_query hu]

theorem ownParameters_eq_nil (hbase : '?' ∉ m.base.toList) (hproject : '?' ∉ project.toList) :
    ownParameters m project = [] := by
  have hpath : '?' ∉ s!"v3/projects/{project}/timeSeries".toList := by
    change '?' ∉ ("v3/projects/" ++ project ++ "/timeSeries").toList
    simp [hproject]
  have hjoin : '?' ∉ (Url.join m.base s!"v3/projects/{project}/timeSeries").toList := by
    rw [Url.join, String.toList_ofList, List.mem_append, List.mem_reverse, List.mem_cons, not_or,
      not_or]
    exact ⟨fun hm => hbase (List.mem_reverse.1 ((List.dropWhile_sublist _).subset hm)), by decide,
      fun hm => hpath ((List.dropWhile_sublist _).subset hm)⟩
  unfold ownParameters
  split
  · rename_i base hparse
    rw [Url.query_eq_none_of_parse hparse hjoin]
    rfl
  · rfl

/-! ## What the query tells -/

theorem filter_injective (h : filter instanceId = filter instanceId') :
    instanceId = instanceId' :=
  (String.append_right_inj _).1 ((String.append_left_inj _).1 h)

theorem length_pageQuery (instanceId : String) (window : Window) (page : Option String) :
    (pageQuery instanceId window page).length = 4 + page.toList.length := by
  cases page <;> rfl

theorem pageQuery_injective {own own' : List (String × String)}
    (h : own ++ pageQuery instanceId window page = own' ++ pageQuery instanceId' window' page') :
    instanceId = instanceId' ∧ page = page' := by
  -- one parameter more or less shows at the end, where the name of the last one is another
  cases page with
  | none =>
    cases page' with
    | none =>
      have hlast := (List.append_inj' h (by rw [length_pageQuery, length_pageQuery])).2
      simp only [pageQuery, List.append_nil, List.cons.injEq, Prod.mk.injEq, true_and] at hlast
      exact ⟨filter_injective hlast.1, rfl⟩
    | some token' =>
      have hlast := congrArg (fun pairs => pairs.getLast?.map Prod.fst) h
      simp [pageQuery] at hlast
  | some token =>
    cases page' with
    | none =>
      have hlast := congrArg (fun pairs => pairs.getLast?.map Prod.fst) h
      simp [pageQuery] at hlast
    | some token' =>
      have hlast := (List.append_inj' h (by rw [length_pageQuery, length_pageQuery]; rfl)).2
      simp only [pageQuery, List.cons_append, List.nil_append, List.cons.injEq, Prod.mk.injEq,
        true_and, and_true] at hlast
      exact ⟨filter_injective hlast.1, congrArg some hlast.2.2.2⟩

/-- The query of a URL for a page is read as the parameters of the base URL, which depend on nothing
but the base and the project, followed by the filter for the instance, the two ends of the interval,
the view and the page token, if there is one, and a request for the URL carries this query. Without
a question mark in the base and in the project there are no parameters but these. Requests that
carry the same query, be it from clients with other bases, for other projects or windows, are for
the same instance and the same page. -/
theorem parameters_read_back (m : Monitoring) (project : String) :
    (∀ instanceId window page u, m.url project instanceId window page = .ok u →
      Url.Form.decode (u.query.getD []) = ownParameters m project ++
        [("filter", filter instanceId), ("interval.startTime", window.start.timestamp),
          ("interval.endTime", window.stop.timestamp), ("view", "HEADERS")] ++
        (page.map fun token => ("pageToken", token)).toList ∧
      ∀ r, Gets u r → r.query = u.query.getD []) ∧
    ('?' ∉ m.base.toList → '?' ∉ project.toList → ownParameters m project = []) ∧
    (∀ m' project' instanceId instanceId' window window' page page' r r',
      AsksPage m project instanceId window page r →
      AsksPage m' project' instanceId' window' page' r' →
      r.query = r'.query → instanceId = instanceId' ∧ page = page') := by
  refine ⟨?_, ownParameters_eq_nil, ?_⟩
  · intro instanceId window page u hu
    exact ⟨by rw [decode_query hu, pageQuery_eq, List.append_assoc],
      fun r hr => query_of_gets hu hr⟩
  · intro m' project' instanceId instanceId' window window' page page' r r' h h' hquery
    have hdecode := decode_query_of_asksPage h
    rw [hquery, decode_query_of_asksPage h'] at hdecode
    obtain ⟨hinstance, hpage⟩ := pageQuery_injective hdecode
    exact ⟨hinstance.symm, hpage.symm⟩

theorem exists_asksPage (instanceId : String) (page : Option String) :
    ∃ r, AsksPage plainClient plainProject instanceId quarter page r := by
  have hu : plainClient.url plainProject instanceId quarter page =
      .ok (plainBase.addQuery (pageQuery instanceId quarter page)) := by
    rw [url, parse_plainBase]
  exact ⟨{ origin := origin plainBase
           target := (plainBase.addQuery (pageQuery instanceId quarter page)).target },
    _, hu, rfl, rfl, rfl, rfl⟩

/-- An ID and tokens that are made of the marks of a query. -/
theorem parameters_read_back_marks :
    ∃ r r', AsksPage plainClient plainProject "1\"&view=é#" quarter (some "a b&%26=") r ∧
      AsksPage plainClient plainProject "1\"&view=é#" quarter (some "a+b&%26=") r' ∧
      Url.Form.decode r.query = [("filter", filter "1\"&view=é#"),
        ("interval.startTime", quarter.start.timestamp),
        ("interval.endTime", quarter.stop.timestamp), ("view", "HEADERS"),
        ("pageToken", "a b&%26=")] ∧
      r.query ≠ r'.query := by
  obtain ⟨hread, hown, hsame⟩ := parameters_read_back plainClient plainProject
  obtain ⟨r, h⟩ := exists_asksPage "1\"&view=é#" (some "a b&%26=")
  obtain ⟨r', h'⟩ := exists_asksPage "1\"&view=é#" (some "a+b&%26=")
  refine ⟨r, r', h, h', ?_, fun hquery => ?_⟩
  · obtain ⟨u, hu, hr⟩ := h
    obtain ⟨hdecode, hquery⟩ := hread _ _ _ u hu
    rw [hquery r hr, hdecode, hown (by decide +kernel) (by decide +kernel)]
    rfl
  · obtain ⟨-, htoken⟩ := hsame _ _ _ _ _ _ _ _ r r' h h' hquery
    exact absurd htoken (by decide +kernel)

end NodeLabels.Cloud.Monitoring
