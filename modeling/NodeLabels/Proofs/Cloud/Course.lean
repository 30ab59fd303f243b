import NodeLabels.Proofs.Cloud.Fetch
/-!
# The course of a query

Which pages a query asks for, one after the other, and what comes of it, as a relation that knows no
patience. `Course.returns` says that a query takes its course as soon as the patience suffices for
it, so statements about queries are proved by induction on their course.
-/

namespace NodeLabels.Cloud.Monitoring

open Dialogue (Exchange Returns)

variable (m : Monitoring) (project instanceId : String) (window : Window) {σ : Type}
  (reply : (r : Http.port.Call) → σ → Http.port.Reply r × σ)

/-- The page to ask for after `p`, unless a prediction is found, no page is named, or the one that
is was named before. -/
def following (seen : List String) (found : List Series) (p : Page) : Option String :=
  if (found ++ p.series).any (·.prediction?.isSome) then none else p.next?.filter (· ∉ seen)

/-- From `page` on the pages `asked` are asked for, and `v` is returned. -/
inductive Course : (page : Option String) → (seen : List String) → (found : List Series) → σ →
    (asked : List (Option String)) → (v : Except SourceFault (List Series)) → σ →
      List (Exchange Http.port) → Prop
  | failed {page : Option String} {seen : List String} {found : List Series} {s t : σ}
      {fault : SourceFault} {log : List (Exchange Http.port)}
      (h : Returns reply (m.fetchPage project instanceId window page) s (.error fault) t log) :
      Course page seen found s [page] (.error fault) t log
  | last {page : Option String} {seen : List String} {found : List Series} {s t : σ} {p : Page}
      {log : List (Exchange Http.port)}
      (h : Returns reply (m.fetchPage project instanceId window page) s (.ok p) t log)
      (hp : following seen found p = none) :
      Course page seen found s [page] (.ok (found ++ p.series)) t log
  | next {page : Option String} {seen : List String} {found : List Series} {s t u : σ} {p : Page}
      {token : String} {asked : List (Option String)} {v : Except SourceFault (List Series)}
      {log rest : List (Exchange Http.port)}
      (h : Returns reply (m.fetchPage project instanceId window page) s (.ok p) t log)
      (hp : following seen found p = some token)
      (onward : Course (some token) (token :: seen) (found ++ p.series) t asked v u rest) :
      Course page seen found s (page :: asked) v u (log ++ rest)

variable {m project instanceId window reply} {page : Option String} {seen : List String}
  {found : List Series} {s t u : σ} {p : Page} {asked : List (Option String)}
  {v : Except SourceFault (List Series)} {log rest : List (Exchange Http.port)}

theorem following_eq_some {token : String} : following seen found p = some token ↔
    (found ++ p.series).any (·.prediction?.isSome) = false ∧ p.next? = some token ∧
      token ∉ seen := by
  unfold following
  cases (found ++ p.series).any (·.prediction?.isSome) <;> simp

/-! ## One page of a query -/

theorem collect_failed {fault : SourceFault} (patience : Nat)
    (h : Returns reply (m.fetchPage project instanceId window page) s (.error fault) t log) :
    Returns reply (m.collect project instanceId window (patience + 1) page seen found) s
      (.error fault) t log :=
  h.bind_silent (.done _ _)

theorem collect_last (patience : Nat)
    (h : Returns reply (m.fetchPage project instanceId window page) s (.ok p) t log)
    (hp : following seen found p = none) :
    Returns reply (m.collect project instanceId window (patience + 1) page seen found) s
      (.ok (found ++ p.series)) t log := by
  refine h.bind_silent ?_
  unfold following at hp
  dsimp only
  split
  · exact .done _ _
  · rename_i hany
    rw [if_neg hany] at hp
    split
    · exact .done _ _
    · rename_i token hnext
      -- the named page is an old one, or it would be followed
      have hseen : token ∈ seen := by simpa [hnext] using hp
      rw [if_pos hseen]
      exact Returns.tell_bind (.done (Except.ok (found ++ p.series)) t) _

theorem collect_next {token : String} (patience : Nat)
    (h : Returns reply (m.fetchPage project instanceId window page) s (.ok p) t log)
    (hp : following seen found p = some token)
    (onward : Returns reply (m.collect project instanceId window patience (some token)
      (token :: seen) (found ++ p.series)) t v u rest) :
    Returns reply (m.collect project instanceId window (patience + 1) page seen found) s v u
      (log ++ rest) := by
  obtain ⟨hany, hnext, hseen⟩ := following_eq_some.1 hp
  refine h.bind ?_
  simpa only [hany, hnext, if_neg hseen, Bool.false_eq_true, if_false] using onward

/-! ## The whole query -/

theorem Course.returns
    (h : Course m project instanceId window reply page seen found s asked v t log)
    {patience : Nat} (hp : asked.length ≤ patience) :
    Returns reply (m.collect project instanceId window patience page seen found) s v t log := by
  induction h generalizing patience with
  | failed h =>
    obtain ⟨patience, rfl⟩ := Nat.exists_eq_add_one.2 hp
    exact collect_failed patience h
  | last h hlast =>
    obtain ⟨patience, rfl⟩ := Nat.exists_eq_add_one.2 hp
    exact collect_last patience h hlast
  | next h hnext _ ih =>
    obtain ⟨patience, rfl⟩ := Nat.exists_eq_add_one.2 (Nat.zero_lt_of_lt hp)
    exact collect_next patience h hnext (ih (Nat.le_of_succ_le_succ hp))

theorem Course.predictionSeries_returns
    (h : Course m project instanceId window reply none [] [] s asked v t log)
    {patience : Nat} (hp : asked.length ≤ patience) :
    Returns reply (m.predictionSeries patience project instanceId window) s v t log := by
  refine (h.returns hp).bind_silent ?_
  cases v with
  | error fault => exact .done _ _
  | ok found => exact Returns.tell_bind (.done (Except.ok found) t) _

end NodeLabels.Cloud.Monitoring
