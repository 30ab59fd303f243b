import NodeLabels.Proofs.Cloud.Failure
import NodeLabels.Proofs.Cloud.Lookup
import NodeLabels.Proofs.Cloud.Parameters
import NodeLabels.Proofs.Json.Held
import NodeLabels.Proofs.Json.Record
import NodeLabels.Proofs.Json.Written
/-!
# IDs in replies

The compute service gives the ID of an instance as a number or as the text of its digits. Either way
a lookup returns the same text, with all digits, and a reply without an ID is no fault
(`instanceId_answered`). A value that is no ID still has to be held, though: where a list holds a
number that overflows, the reply cannot be decoded (`instanceId_overflows`).
-/

namespace NodeLabels.Cloud.Compute

open Dialogue (Exchange Returns)
open Json (HasField IsHeld IsRecord)

/-! ## Reading an ID -/

abbrev replyFields : List String := ["id"]

section

variable {j id : Json} {n : Nat}

theorem readId_given (hj : IsRecord replyFields j) (hid : HasField replyFields "id" id j) :
    readId j = (Json.Reader.any idDepth id).map fun id => idOf (some id) := by
  obtain ⟨value?, hvalues, hvalue⟩ := Json.exists_field hj
  rw [(hvalue id).2 hid] at hvalues
  simp only [readId, hvalues, Option.bind_eq_bind, Option.bind_some, Option.map_eq_bind]
  rfl

theorem readId_missing (hj : IsRecord replyFields j)
    (hmissing : ∀ v, ¬ HasField replyFields "id" v j) : readId j = some none := by
  obtain ⟨value?, hvalues, hvalue⟩ := Json.exists_field hj
  rw [Option.eq_none_iff_forall_ne_some.2 fun v hv => hmissing v ((hvalue v).1 hv)] at hvalues
  simp only [readId, hvalues, Option.bind_eq_bind, Option.bind_some]
  rfl

theorem readId_held (hj : IsRecord replyFields j) (hid : HasField replyFields "id" id j)
    (hheld : IsHeld idDepth id) : readId j = some (idOf (some id)) := by
  rw [readId_given hj hid, Json.any_of_isHeld hheld, Option.map_some]

theorem readId_unheld (hj : IsRecord replyFields j) (hid : HasField replyFields "id" id j)
    (hheld : ¬ IsHeld idDepth id) : readId j = none := by
  rw [readId_given hj hid, Json.any_of_not_isHeld hheld, Option.map_none]

theorem chars_ofNat (n : Nat) : (Json.ofNat n).chars = Nat.toDigits 10 n := by
  simp [Json.ofNat, Json.chars, Json.Number.chars]

theorem isWord_ofNat (hn : n < 18446744073709551616) :
    Json.Number.isWord { whole := n } = true := by
  simp [Json.Number.isWord, Json.Number.toInt?]
  omega

theorem isHeld_ofNat (hn : n < 18446744073709551616) : IsHeld idDepth (.ofNat n) :=
  .word (isWord_ofNat hn)

/-- Numbers of 64 bits keep their digits. -/
theorem idOf_ofNat (hn : n < 18446744073709551616) :
    idOf (some (.ofNat n)) = some (toString n) := by
  change Json.Number.text? { whole := n } = _
  rw [Json.Number.text?, if_pos (isWord_ofNat hn)]
  exact congrArg (fun cs => some (String.ofList cs)) (chars_ofNat n)

theorem idOf_string {text : String} (htext : text ≠ "") :
    idOf (some (.string text)) = some text := if_neg htext

theorem toString_ne_empty (n : Nat) : toString n ≠ "" := fun h =>
  absurd (congrArg String.toList h) (by simp [Nat.toString_eq_repr, Nat.repr])

theorem toString_injective {n n' : Nat} (h : toString n = toString n') : n = n' := by
  have hdigits : Nat.toDigits 10 n = Nat.toDigits 10 n' := String.ofList_injective h
  rw [← Text.decimal_toDigits n, hdigits, Text.decimal_toDigits]

end

/-! ## Lookups that are answered -/

section

variable {σ : Type} (c : Compute) (project zone name : String)
  (reply : (r : Http.port.Call) → σ → Http.port.Reply r × σ)

/-- The lookup gets as far as its request, and a whole and successful answer with the body. -/
inductive Answered (s : σ) (body : List UInt8) : Prop
  | answered {u : Url} {token : String} {t : σ} {log : List (Exchange Http.port)}
      {r : Http.Request} {status : Nat} (hurl : Url.parse (c.url project zone name) = .ok u)
      (htoken : Returns reply c.tokens.token s (.ok token) t log)
      (hrequest : prepare endpoint u [bearer token] = .ok r)
      (hanswer : (reply r t).1 = .answer status body) (hstatus : Http.isSuccess status = true)

variable {c project zone name reply} {s : σ} {body : List UInt8}

theorem Answered.value (h : Answered c project zone name reply s body) :
    ((c.instanceId project zone name).run reply s).value =
      .ok (jsonBody readId endpoint (body, true)) := by
  cases h with
  | answered hurl htoken hrequest hanswer hstatus =>
    have hsent := instanceId_sent project zone name hurl htoken hrequest
    rw [hanswer, received, hstatus, if_pos rfl] at hsent
    exact hsent.value

section

variable {j : Json} (h : Answered c project zone name reply s body)
  (hbody : Json.ofBytes? body = some j)

include h hbody

theorem Answered.value_of_some {id? : Option String} (hread : readId j = some id?) :
    ((c.instanceId project zone name).run reply s).value = .ok (.ok id?) := by
  have hall : Json.ofBytes? body >>= readId = some id? := by rw [hbody]; exact hread
  rw [h.value, Monitoring.jsonBody_of_some hall]

theorem Answered.value_of_none (hread : readId j = none) :
    ((c.instanceId project zone name).run reply s).value = .ok (.error (undecodable endpoint)) := by
  have hall : Json.ofBytes? body >>= readId = none := by rw [hbody]; exact hread
  rw [h.value, Monitoring.jsonBody_of_none (.inr hall)]

end

/-- What a server at a plain address answers to everything is the answer to a lookup. -/
theorem answered_of_plainBase {authority : List Char} {token : String}
    (hbase : PlainBase c.base authority) (htokens : c.tokens = .fixed token)
    (hprintable : isHeaderText (bearer token).2 = true) (hfits : c.Fits project zone name)
    (body : List UInt8) :
    Answered c project zone name (fun _ (_ : Unit) => (.answer 200 body, ())) () body := by
  obtain ⟨u, hurl, hlookup⟩ := exists_url project zone name hbase
  have htoken : Returns (fun _ (_ : Unit) => (Http.Reply.answer 200 body, ())) c.tokens.token ()
      (.ok token) () [] := by
    rw [htokens]
    exact .done _ _
  have hheaders : [bearer token].all (isHeaderText ·.2) = true := by simp [hprintable]
  have hsend := (hlookup.sendable_iff project zone name hheaders).2
    ((fits_iff project zone name hurl).1 hfits)
  exact .answered hurl htoken (prepare_eq_ok_iff.2 ⟨hsend, rfl⟩) rfl rfl

end

/-! ## IDs that are found -/

/-- What a lookup returns if it is answered with a document that gives the ID once or not at all.
The number and the text of its digits come to the same, for every number of 64 bits, and all other
texts are returned as they are. No ID is found where it is missing, null, empty, a truth value, or a
list or an object; but a list or an object that cannot be held makes the whole reply a fault.
Numbers are written by their digits, and different ones lead to different filters. -/
theorem instanceId_answered :
    (∀ {σ : Type} (c : Compute) (project zone name : String)
        (reply : (r : Http.port.Call) → σ → Http.port.Reply r × σ) (s : σ) (body : List UInt8)
        (j : Json), Answered c project zone name reply s body → Json.ofBytes? body = some j →
      IsRecord replyFields j →
      let value := ((c.instanceId project zone name).run reply s).value
      (∀ n < 18446744073709551616, HasField replyFields "id" (.ofNat n) j ∨
        HasField replyFields "id" (.string (toString n)) j →
          value = .ok (.ok (some (toString n)))) ∧
      (∀ text, text ≠ "" → HasField replyFields "id" (.string text) j →
        value = .ok (.ok (some text))) ∧
      ((∀ id, ¬ HasField replyFields "id" id j) → value = .ok (.ok none)) ∧
      (∀ id, HasField replyFields "id" id j →
        id = .null ∨ id = .string "" ∨ (∃ b, id = .bool b) → value = .ok (.ok none)) ∧
      ∀ id, HasField replyFields "id" id j →
        (∃ items, id = .array items) ∨ (∃ members, id = .object members) →
          (IsHeld idDepth id → value = .ok (.ok none)) ∧
          (¬ IsHeld idDepth id → value = .ok (.error (undecodable endpoint)))) ∧
    (∀ n, (Json.ofNat n).chars = Nat.toDigits 10 n) ∧
    (∀ members, Json.membersWritable members = true →
      Json.ofBytes? (Json.object members).bytes = some (.object members)) ∧
    ∀ n n' : Nat, n ≠ n' → toString n ≠ toString n' ∧
      Monitoring.filter (toString n) ≠ Monitoring.filter (toString n') := by
  refine ⟨?_, chars_ofNat, fun members hmembers => Json.ofBytes?_bytes hmembers,
    fun n n' hne => ⟨fun h => hne (toString_injective h),
      fun h => hne (toString_injective (Monitoring.filter_injective h))⟩⟩
  intro σ c project zone name reply s body j hanswered hbody hj value
  have hheld {id : Json} (hid : HasField replyFields "id" id j) (hheld : IsHeld idDepth id) :
      value = .ok (.ok (idOf (some id))) :=
    hanswered.value_of_some hbody (readId_held hj hid hheld)
  have htext (text : String) (hne : text ≠ "")
      (hid : HasField replyFields "id" (.string text) j) : value = .ok (.ok (some text)) := by
    rw [hheld hid (.string text), idOf_string hne]
  refine ⟨?_, htext, fun hmissing => hanswered.value_of_some hbody (readId_missing hj hmissing),
    ?_, ?_⟩
  · rintro n hn (hid | hid)
    · rw [hheld hid (isHeld_ofNat hn), idOf_ofNat hn]
    · exact htext _ (toString_ne_empty n) hid
  · rintro id hid (rfl | rfl | ⟨b, rfl⟩)
    · exact hheld hid .null
    · exact hheld hid (.string _)
    · exact hheld hid (.bool b)
  · intro id hid hkind
    constructor
    · intro hholds
      rw [hheld hid hholds]
      rcases hkind with ⟨items, rfl⟩ | ⟨members, rfl⟩ <;> rfl
    · intro hunheld
      exact hanswered.value_of_none hbody (readId_unheld hj hid hunheld)

/-- What a lookup returns where a server at a plain address answers everything with the document. -/
def plainLookup (j : Json) : Except Halt (Except SourceFault (Option String)) :=
  ((plainCompute.instanceId "p" "z" "i").run
    (fun _ (_ : Unit) => (Http.Reply.answer 200 j.bytes, ())) ()).value

theorem answered_plainLookup (j : Json) : Answered plainCompute "p" "z" "i"
    (fun _ (_ : Unit) => (.answer 200 j.bytes, ())) () j.bytes :=
  answered_of_plainBase plainBase_plainCompute rfl (by decide) (by decide +kernel) j.bytes

/-- A reply with other members around the ID. -/
def surrounded (id : Json) : Json :=
  .object [("kind", .string "instance"), ("id", id), ("x", .null)]

theorem instanceId_answered_largest :
    plainLookup (surrounded (.ofNat 18446744073709551615)) =
      .ok (.ok (some "18446744073709551615")) ∧
    plainLookup (surrounded (.string "18446744073709551615")) =
      .ok (.ok (some "18446744073709551615")) ∧
    plainLookup (surrounded (.array [.bool true])) = .ok (.ok none) := by
  have hbody (id : Json) (h : Json.isWritable id = true) :
      Json.ofBytes? (surrounded id).bytes = some (surrounded id) :=
    instanceId_answered.2.2.1 _ (by simp [Json.membersWritable, Json.isWritable, h])
  have hid (id : Json) : HasField replyFields "id" id (surrounded id) := .member (.tail _ (.head _))
  have hrecord (id : Json) : IsRecord replyFields (surrounded id) := .object (by simp)
  have hvalue (id : Json) (h : Json.isWritable id = true) := instanceId_answered.1 plainCompute
    "p" "z" "i" _ () _ (surrounded id) (answered_plainLookup _) (hbody id h) (hrecord id)
  refine ⟨?_, ?_, ?_⟩
  · exact (hvalue _ rfl).1 18446744073709551615 (by decide) (.inl (hid _))
  · exact (hvalue _ rfl).2.1 _ (by decide) (hid _)
  · exact ((hvalue _ rfl).2.2.2.2 _ (hid _) (.inl ⟨_, rfl⟩)).1 (.array (by simp [IsHeld.bool]))

/-- A list with a number that overflows. -/
def overflowing : Json := .array [.number { whole := 1, exponent := some 999 }]

theorem instanceId_overflows :
    HasField replyFields "id" overflowing (surrounded overflowing) ∧
    Json.ofBytes? (surrounded overflowing).bytes = some (surrounded overflowing) ∧
    plainLookup (surrounded overflowing) = .ok (.error (undecodable endpoint)) := by
  have hbody : Json.ofBytes? (surrounded overflowing).bytes = some (surrounded overflowing) :=
    Json.ofBytes?_bytes rfl
  have hid : HasField replyFields "id" overflowing (surrounded overflowing) :=
    .member (.tail _ (.head _))
  have hunheld : ¬ IsHeld idDepth overflowing := fun h => absurd h.isKept.1 (by decide +kernel)
  exact ⟨hid, hbody, (answered_plainLookup _).value_of_none hbody
    (readId_unheld (.object (by simp)) hid hunheld)⟩

end NodeLabels.Cloud.Compute
