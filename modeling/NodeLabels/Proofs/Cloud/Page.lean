import NodeLabels.Proofs.Cloud.Failure
import NodeLabels.Proofs.Json.Record
import NodeLabels.Proofs.Json.Written
/-!
# What a page tells

`IsPage` says which documents stand for a page: what they tell of the fields counts, and neither the
order of members nor other members do. A page is read from just these (`reads_page`), so all series
of an answer are read, in their order, or none is (`page_read_whole`). A field that should be an
object of its own may also be an array of its fields (`listedMetric_read`).
-/

namespace NodeLabels.Cloud.Monitoring

open Json (HasField IsLabels IsList IsOptional IsRecord IsString Reads Tells)

/-! ## Documents of pages -/

abbrev metricFields : List String := ["type", "labels"]

abbrev seriesFields : List String := ["metric"]

abbrev pageFields : List String := ["timeSeries", "nextPageToken"]

/-- The document is the metric of the series. -/
structure IsMetric (j : Json) (s : Series) : Prop where
  record : IsRecord metricFields j
  metric : Tells metricFields "type" IsString "" j s.metric
  labels : Tells metricFields "labels" IsLabels ∅ j s.labels

structure IsSeries (j : Json) (s : Series) : Prop where
  record : IsRecord seriesFields j
  metric : Tells seriesFields "metric" IsMetric { metric := "" } j s

structure IsPage (j : Json) (p : Page) : Prop where
  record : IsRecord pageFields j
  series : Tells pageFields "timeSeries" (IsList IsSeries) [] j p.series
  next : Tells pageFields "nextPageToken" (IsOptional IsString) none j p.next

theorem reads_metric : Reads readMetric IsMetric := by
  intro j s
  by_cases hj : IsRecord metricFields j
  · obtain ⟨type?, labels?, hvalues, htype, hlabels⟩ := Json.exists_two_fields hj (by decide)
    have hmetric := Json.reads_string.orElse htype ""
    have hmap := Json.reads_labels.orElse hlabels ∅
    simp only [readMetric, hvalues, Option.bind_eq_bind, Option.bind_some,
      Option.bind_eq_some_iff, hmetric, hmap, Option.pure_def, Option.some.injEq]
    constructor
    · rintro ⟨metric, hm, labels, hl, rfl⟩
      exact ⟨hj, hm, hl⟩
    · rintro ⟨-, hm, hl⟩
      exact ⟨_, hm, _, hl, rfl⟩
  · refine iff_of_false ?_ fun h => hj h.record
    simp [readMetric, Json.fields_eq_none hj]

theorem reads_series : Reads readSeries IsSeries := by
  intro j s
  by_cases hj : IsRecord seriesFields j
  · obtain ⟨metric?, hvalues, hmetric⟩ := Json.exists_field hj
    simp only [readSeries, hvalues, Option.bind_eq_bind, Option.bind_some,
      reads_metric.orElse hmetric]
    exact ⟨fun h => ⟨hj, h⟩, fun h => h.metric⟩
  · refine iff_of_false ?_ fun h => hj h.record
    simp [readSeries, Json.fields_eq_none hj]

theorem reads_page : Reads readPage IsPage := by
  intro j p
  by_cases hj : IsRecord pageFields j
  · obtain ⟨series?, next?, hvalues, hseries, hnext⟩ := Json.exists_two_fields hj (by decide)
    have hlist := reads_series.list.orElse hseries []
    have htoken := Json.reads_string.optional.orElse hnext none
    simp only [readPage, hvalues, Option.bind_eq_bind, Option.bind_some,
      Option.bind_eq_some_iff, hlist, htoken, Option.pure_def, Option.some.injEq]
    constructor
    · rintro ⟨series, hs, next, hn, rfl⟩
      exact ⟨hj, hs, hn⟩
    · rintro ⟨-, hs, hn⟩
      exact ⟨_, hs, _, hn, rfl⟩
  · refine iff_of_false ?_ fun h => hj h.record
    simp [readPage, Json.fields_eq_none hj]

/-! ## Documents of no page -/

/-- A field that is known is given a value of the wrong kind. -/
inductive Mistyped (item : Json) : Prop
  | metric {metric : Json} (hmetric : HasField seriesFields "metric" metric item)
      (hobject : ∀ members, metric ≠ .object members) (harray : ∀ items, metric ≠ .array items)
  | type {metric type : Json} (hmetric : HasField seriesFields "metric" metric item)
      (htype : HasField metricFields "type" type metric) (hstring : ∀ s, type ≠ .string s)
  | labels {metric labels : Json} (hmetric : HasField seriesFields "metric" metric item)
      (hlabels : HasField metricFields "labels" labels metric)
      (hobject : ∀ members, labels ≠ .object members)
  | label {metric value : Json} {members : List (String × Json)} {key : String}
      (hmetric : HasField seriesFields "metric" metric item)
      (hlabels : HasField metricFields "labels" (.object members) metric)
      (hmember : (key, value) ∈ members) (hstring : ∀ s, value ≠ .string s)

theorem IsSeries.isMetric {item metric : Json} {s : Series} (h : IsSeries item s)
    (hmetric : HasField seriesFields "metric" metric item) : IsMetric metric s :=
  h.metric.stands h.record (by decide) (by decide) hmetric

theorem IsMetric.isString {metric type : Json} {s : Series} (h : IsMetric metric s)
    (htype : HasField metricFields "type" type metric) : type = .string s.metric :=
  h.metric.stands h.record (by decide) (by decide) htype

theorem IsMetric.isLabels {metric labels : Json} {s : Series} (h : IsMetric metric s)
    (hlabels : HasField metricFields "labels" labels metric) : IsLabels labels s.labels :=
  h.labels.stands h.record (by decide) (by decide) hlabels

theorem Mistyped.not_isSeries {item : Json} (hitem : Mistyped item) (s : Series) :
    ¬ IsSeries item s := by
  intro h
  cases hitem with
  | metric hmetric hobject harray =>
    cases (h.isMetric hmetric).record with
    | object => exact hobject _ rfl
    | array => exact harray _ rfl
  | type hmetric htype hstring => exact hstring _ ((h.isMetric hmetric).isString htype)
  | labels hmetric hlabels hobject =>
    obtain ⟨pairs, hpairs, -⟩ := (h.isMetric hmetric).isLabels hlabels
    exact hobject _ hpairs
  | label hmetric hlabels hmember hstring =>
    obtain ⟨pairs, hpairs, -⟩ := (h.isMetric hmetric).isLabels hlabels
    cases hpairs
    obtain ⟨p, -, hp⟩ := List.mem_map.1 hmember
    exact hstring p.2 (Prod.ext_iff.1 hp).2.symm

theorem Mistyped.not_isPage {item j : Json} {items : List Json} (hitem : Mistyped item)
    (hseries : HasField pageFields "timeSeries" (.array items) j) (hmem : item ∈ items) (p : Page) :
    ¬ IsPage j p := by
  intro h
  have hlist : IsList IsSeries (.array items) p.series :=
    h.series.stands h.record (by decide) (by decide) hseries
  obtain ⟨s, hs⟩ := hlist.exists_stands hmem
  exact hitem.not_isSeries s hs

/-! ## Writing a page -/

def seriesDocument (s : Series) : Json :=
  .object [("metric", .object [("type", .string s.metric),
    ("labels", .object (s.labels.entries.map fun e => (e.1, .string e.2)))])]

def Page.document (p : Page) : Json :=
  .object [("timeSeries", .array (p.series.map seriesDocument)),
    ("nextPageToken", Json.ofOption .string p.next)]

theorem isLabels_entries (m : LabelMap) :
    IsLabels (.object (m.entries.map fun e => (e.1, .string e.2))) m := by
  refine ⟨m.entries, rfl, fun key => ?_⟩
  rw [← Json.find?_ofList]
  exact ((LabelMap.find?_override ∅ m key).trans (Option.or_none)).symm

theorem isSeries_document (s : Series) : IsSeries (seriesDocument s) s where
  record := .object (by simp)
  metric := .inl ⟨_, .member (.head _), {
    record := .object (by simp)
    metric := .inl ⟨_, .member (.head _), rfl⟩
    labels := .inl ⟨_, .member (.tail _ (.head _)), isLabels_entries s.labels⟩ }⟩

theorem isPage_document (p : Page) : IsPage p.document p where
  record := .object (by simp)
  series := .inl ⟨_, .member (.head _), _, rfl, List.forall₂_map_left_iff.2
    (List.forall₂_same.2 fun s _ => isSeries_document s)⟩
  next := by
    refine .inl ⟨_, .member (.tail _ (.head _)), ?_⟩
    cases p.next with
    | none => rfl
    | some token => exact ⟨Json.noConfusion, rfl⟩

theorem isWritable_document (p : Page) : Json.isWritable p.document = true := by
  have hseries : ∀ s ∈ p.series, Json.isWritable (seriesDocument s) = true := by
    intro s _
    simp [seriesDocument, Json.isWritable, Json.membersWritable_eq]
  cases hnext : p.next <;>
    simpa [Page.document, Json.isWritable, Json.membersWritable_eq, Json.itemsWritable_eq,
      Json.ofOption, hnext] using hseries

/-! ## Answers -/

/-- An answer that is a document is read as a page exactly if the document stands for it: all series
that it lists in their order, and the token. If it stands for none, and in particular if one of its
series gives a known field a value of the wrong kind, the answer as a whole cannot be decoded. Every
page can be written as the body of an answer. -/
theorem page_read_whole :
    (∀ (body : List UInt8) (j : Json), Json.ofBytes? body = some j →
      (∀ p, jsonBody readPage endpoint (body, true) = .ok p ↔ IsPage j p) ∧
      ((∀ p, ¬ IsPage j p) →
        jsonBody readPage endpoint (body, true) = .error (undecodable endpoint)) ∧
      ∀ items item, HasField pageFields "timeSeries" (.array items) j → item ∈ items →
        Mistyped item → jsonBody readPage endpoint (body, true) = .error (undecodable endpoint)) ∧
    ∀ p : Page, IsPage p.document p ∧ Json.ofBytes? p.document.bytes = some p.document := by
  refine ⟨fun body j hbody => ?_, fun p => ⟨isPage_document p,
    Json.ofBytes?_bytes (isWritable_document p)⟩⟩
  have hread : Json.ofBytes? body >>= readPage = readPage j := by rw [hbody]; rfl
  have hnone : (∀ p, ¬ IsPage j p) →
      jsonBody readPage endpoint (body, true) = .error (undecodable endpoint) := fun h =>
    jsonBody_of_none (.inr (hread.trans (Option.eq_none_iff_forall_ne_some.2 fun p hp =>
      h p ((reads_page j p).1 hp))))
  refine ⟨fun p => ⟨fun hok => ?_, fun hp => ?_⟩, hnone, fun items item hseries hmem hitem =>
    hnone (hitem.not_isPage hseries hmem)⟩
  · refine (reads_page j p).1 (hread.symm.trans ?_)
    exact (toOption_jsonBody readPage endpoint (body, true)).symm.trans (by rw [hok]; rfl)
  · exact jsonBody_of_some (hread.trans ((reads_page j p).2 hp))

/-- A page with members in another order and members that are not known. Its second series lacks a
metric, and its third a type. -/
def scatteredPage (value : Json) : Json :=
  .object [("unit", .string "1"), ("nextPageToken", .string "b"), ("timeSeries", .array [
    .object [("resource", .null), ("metric", .object [("labels", .object [("Value", .string "X")]),
      ("kind", .object []), ("type", .string "t")])],
    .object [("points", .array [])],
    .object [("metric", .object [("labels", .object [("zone", value)])])]])]

theorem page_read_whole_scattered :
    jsonBody readPage endpoint ((scatteredPage (.string "z")).bytes, true) = .ok
      { series := [{ metric := "t", labels := LabelMap.ofList [("Value", "X")] }, { metric := "" },
          { metric := "", labels := LabelMap.ofList [("zone", "z")] }]
        next := some "b" } ∧
    jsonBody readPage endpoint ((scatteredPage (.bool true)).bytes, true) =
      .error (undecodable endpoint) := by
  have hbody (value : Json) (h : Json.isWritable value = true) :
      Json.ofBytes? (scatteredPage value).bytes = some (scatteredPage value) :=
    Json.ofBytes?_bytes (by simp [scatteredPage, Json.isWritable, Json.membersWritable,
      Json.itemsWritable, h])
  constructor
  · refine ((page_read_whole.1 _ _ (hbody (.string "z") rfl)).1 _).2 ((reads_page _ _).1 ?_)
    decide +kernel
  · refine (page_read_whole.1 _ _ (hbody (.bool true) rfl)).2.2 _ _ (.member (.tail _ (.tail _
      (.head _)))) (.tail _ (.tail _ (.head _))) ?_
    exact .label (.member (.head _)) (.member (.head _)) (.head _) (fun _ => Json.noConfusion)

/-- A series with an array as its metric, and a page of it. -/
def listedMetric : Json := .object [("metric", .array [])]

theorem listedMetric_read :
    let page := Json.object [("timeSeries", .array [listedMetric])]
    HasField seriesFields "metric" (.array []) listedMetric ∧
    Json.ofBytes? page.bytes = some page ∧
    jsonBody readPage endpoint (page.bytes, true) =
      .ok { series := [{ metric := "" }], next := none } := by
  intro page
  have hbody : Json.ofBytes? page.bytes = some page := Json.ofBytes?_bytes rfl
  refine ⟨.member (.head _), hbody, jsonBody_of_some ?_⟩
  rw [hbody]
  decide +kernel

end NodeLabels.Cloud.Monitoring
