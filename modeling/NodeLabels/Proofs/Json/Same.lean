import NodeLabels.Json.Merge
/-!
# Parts of documents, and documents that are the same

A path of keys leads to a part of a document. Two documents are the same if they differ at most in
the order of members, at any depth that a path reaches: to a reader who looks members up by their
keys, the members of an object have no order.
-/

namespace NodeLabels.Json

/-- The part of a document at the end of a path of keys. -/
def at? : List String → Json → Option Json
  | [], j => some j
  | key :: path, j => (j.member? key).bind (at? path)

@[simp] theorem at?_nil (j : Json) : at? [] j = some j := rfl

@[simp] theorem at?_cons (key : String) (path : List String) (j : Json) :
    at? (key :: path) j = (j.member? key).bind (at? path) := rfl

/-- The documents are equal, or they are objects with the same keys and the same values. -/
inductive Same : Json → Json → Prop
  | refl (j : Json) : Same j j
  | object {ms ns : List (String × Json)}
      (keys : ∀ key, (ms.lookup key).isSome = (ns.lookup key).isSome)
      (values : ∀ key v w, ms.lookup key = some v → ns.lookup key = some w → Same v w) :
      Same (.object ms) (.object ns)

namespace Same

variable {a b c : Json}

theorem symm (h : Same a b) : Same b a := by
  induction h with
  | refl j => exact .refl j
  | object keys _ ih =>
    refine .object (fun key => (keys key).symm) ?_
    intro key v w hv hw
    exact ih key w v hw hv

theorem trans (h : Same a b) (g : Same b c) : Same a c := by
  induction h generalizing c with
  | refl j => exact g
  | object keys values ih =>
    cases g with
    | refl j => exact .object keys values
    | object keys' values' =>
      refine .object (fun key => (keys key).trans (keys' key)) ?_
      intro key u w hu hw
      obtain ⟨v, hv⟩ : ∃ v, List.lookup key _ = some v :=
        Option.isSome_iff_exists.1 ((keys key).symm.trans (by rw [hu]; rfl))
      exact ih key u v hu hv (values' key v w hv hw)

/-- A path leads to the same parts of both, or to nothing in either. -/
theorem at? (h : Same a b) (path : List String) :
    ((a.at? path).isSome = (b.at? path).isSome) ∧
      ∀ v w, a.at? path = some v → b.at? path = some w → Same v w := by
  induction path generalizing a b with
  | nil =>
    refine ⟨rfl, fun v w hv hw => ?_⟩
    obtain rfl := Option.some.inj hv
    obtain rfl := Option.some.inj hw
    exact h
  | cons key path ih =>
    cases h with
    | refl j =>
      refine ⟨rfl, fun v w hv hw => ?_⟩
      obtain rfl := Option.some.inj (hv.symm.trans hw)
      exact .refl v
    | @object ms ns keys values =>
      have hkey := keys key
      simp only [at?_cons, member?]
      cases hm : ms.lookup key with
      | none =>
        have hn : ns.lookup key = none := by simpa [hm] using hkey
        simp [hn]
      | some v =>
        obtain ⟨w, hn⟩ : ∃ w, ns.lookup key = some w := by
          rw [hm] at hkey
          exact Option.isSome_iff_exists.1 hkey.symm
        rw [hn]
        exact ih (values key v w hm hn)

end Same

theorem same_equivalence : Equivalence Same := ⟨.refl, .symm, .trans⟩

end NodeLabels.Json
