import Mathlib.Data.Finset.Option
import Mathlib.Data.Set.Finite.List
import NodeLabels.Proofs.Cloud.Paging
import NodeLabels.Proofs.Url.Escape
/-!
# Queries end on any server

A page is asked for by its name, which is part of the address of the request, and the length of an
address is limited. So there are finitely many pages that can be asked for at all, and a query ends
whatever the servers answer (`predictionSeries_ends`). A server that names a new page each time
comes to a name that no address has room for, and the request for that page fails before it is sent.
-/

namespace NodeLabels.Cloud

open Dialogue (Exchange Returns)
open Http.Uri (longest)

theorem Sendable.length_query_le {u : Url} {headers : List (String × String)}
    (h : Sendable u headers) : (u.query.getD []).length ≤ longest := by
  have haddress := h.address
  unfold Http.Uri.isSendable at haddress
  simp only [Bool.and_eq_true, decide_eq_true_eq] at haddress
  have hbytes := (Text.length_le_encode _).trans haddress.1.1.1
  cases hquery : u.query with
  | none => exact Nat.zero_le _
  | some q =>
    simp only [Url.resource, hquery, Url.optionalPart, List.length_append, List.length_cons]
      at hbytes
    simp only [Option.getD_some]
    omega

namespace Monitoring

/-! ## Names of pages -/

theorem finite_char : Finite Char := by
  have hlt (c : Char) : c.toNat < 1114112 := by
    have hvalid : c.toNat < 0xD800 ∨ 0xDFFF < c.toNat ∧ c.toNat < 0x110000 := c.valid
    omega
  exact .of_injective (fun c => (⟨c.toNat, hlt c⟩ : Fin 1114112)) fun c d h =>
    Char.toNat_inj.1 (Fin.mk.inj h)

theorem finite_names (n : ℕ) : {name : String | name.length ≤ n}.Finite := by
  have hfinite := finite_char
  exact (List.finite_length_le Char n).preimage fun _ _ _ _ h => String.toList_inj.1 h

/-- The names of pages for which an address can have room. -/
noncomputable def pageNames : Finset String := (finite_names longest).toFinset

theorem mem_pageNames {name : String} : name ∈ pageNames ↔ name.length ≤ longest :=
  Set.Finite.mem_toFinset _

/-- The most pages that a query can go on to: the first one, one for each of these names, and one
whose name is too long. -/
noncomputable def mostPages : ℕ := pageNames.card + 2

variable {m : Monitoring} {project instanceId : String} {window : Window} {σ : Type}
  {reply : (r : Http.port.Call) → σ → Http.port.Reply r × σ} {page : Option String} {s t : σ}

/-- A page comes only in reply to a request that can be sent. -/
theorem mem_pageNames_of_returns {p : Page} {token : String} {log : List (Exchange Http.port)}
    (h : Returns reply (m.fetchPage project instanceId window (some token)) s (.ok p) t log) :
    token ∈ pageNames := by
  cases pageLog_of_returns _ _ _ _ _ h with
  | @sent _ _ base r u hlog hr hbase htarget hsend hp =>
    obtain ⟨headers, hsend⟩ := hsend
    have hquery := hsend.length_query_le
    have hmem : ("pageToken", token) ∈ Url.Form.decode
        ((base.addQuery (pageQuery instanceId window (some token))).query.getD []) := by
      rw [Url.addQuery, Option.getD_some, Url.Form.decode_append]
      simp [pageQuery]
    exact mem_pageNames.2 ((Url.Form.length_le_of_mem_decode hmem).trans hquery)

/-! ## The end of a query -/

/-- All pages that were followed have names of which there are finitely many, except the one that is
to be asked for now. -/
theorem bounded_pageNames (m : Monitoring) (project instanceId : String) (window : Window)
    (reply : (r : Http.port.Call) → σ → Http.port.Reply r × σ) :
    Bounded m project instanceId window reply (pageNames.card + 1) fun page =>
      Seen (page.toFinset ∪ pageNames) where
  length_le {page seen} h := by
    have hone : page.toFinset.card ≤ 1 := by cases page <;> simp
    have hunion := Finset.card_union_le page.toFinset pageNames
    have hseen := h.length_le
    omega
  step {page seen s t p token log} h hfetch hnext hunseen := by
    have hshort : ∀ u ∈ seen, u ∈ pageNames := fun u hu => by
      rcases Finset.mem_union.1 (h.named u hu) with hpage | hname
      · obtain rfl := Option.mem_toFinset.1 hpage
        exact mem_pageNames_of_returns hfetch
      · exact hname
    refine Seen.cons ⟨h.fresh, fun u hu => ?_⟩ hunseen ?_
    · exact Finset.mem_union_right _ (hshort u hu)
    · exact Finset.mem_union_left _ (by simp)

/-- A query with that much patience has a result, whatever the servers answer. -/
theorem predictionSeries_ends (m : Monitoring) (project instanceId : String) (window : Window)
    {patience : ℕ} (hpatience : mostPages ≤ patience)
    (reply : (r : Http.port.Call) → σ → Http.port.Reply r × σ) (s : σ) :
    ∃ v, ((m.predictionSeries patience project instanceId window).run reply s).value = .ok v :=
  (bounded_pageNames m project instanceId window reply).exists_value .nil hpatience s

end Monitoring

end NodeLabels.Cloud
