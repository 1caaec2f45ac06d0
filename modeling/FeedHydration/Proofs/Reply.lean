import FeedHydration.Proofs.Member
import FeedHydration.Skeleton.Basic

/-!
# What a reply of a generator means

The status of a reply is looked at before its body. A status outside the XRPC set says that the
generator cannot be reached, and asking again may help. A known status other than 200 is passed on
with what the body says about it. Only with 200 the body is read as a skeleton, and a body that is
none will be none the next time.
-/

namespace FeedHydration

/-! ### Bodies of errors -/

namespace XrpcError

/-- A value of the member `message`: a text, or null for none. -/
inductive IsMessage : Option String → JsonNode → Prop
  | text (s : String) : IsMessage (some s) (.str s)
  | null : IsMessage none .null

/-- The documents of an error: an object that names it once and has at most one message, or an array
of the name and perhaps the message. -/
inductive IsWritten : XrpcError → JsonNode → Prop
  | object {members : List (String × JsonNode)} {error : String} {message : Option String}
      {node : JsonNode} : JsonNode.IsSole members "error" (.str error) →
      JsonNode.IsSole members "message" node → IsMessage message node →
      IsWritten ⟨error, message⟩ (.obj members)
  | bareObject {members : List (String × JsonNode)} {error : String} :
      JsonNode.IsSole members "error" (.str error) → "message" ∉ members.map Prod.fst →
      IsWritten ⟨error, none⟩ (.obj members)
  | array {error : String} {message : Option String} {node : JsonNode} : IsMessage message node →
      IsWritten ⟨error, message⟩ (.arr [.str error, node])
  | bareArray {error : String} : IsWritten ⟨error, none⟩ (.arr [.str error])

def IsTold (e : XrpcError) (body : Bytes) : Prop :=
  ∃ node, JsonNode.ofBytes? body = some node ∧ e.IsWritten node

end XrpcError

namespace XrpcError

open JsonNode (Member)

theorem nullable?_str?_eq_some_iff {message : Option String} {node : JsonNode} :
    JsonNode.nullable? JsonNode.str? node = some message ↔ IsMessage message node := by
  constructor
  · intro h
    cases node <;> simp [JsonNode.nullable?, JsonNode.str?] at h <;> subst h <;> constructor
  · rintro (s | -) <;> rfl

theorem required?_error_eq_some_iff {a b : Member} {error : String} :
    JsonNode.Record.required? [("error", a), ("message", b)] "error" JsonNode.str? = some error ↔
      a = .given (.str error) := by
  constructor
  · intro h
    cases a with
    | given node =>
      change JsonNode.str? node = some error at h
      cases node <;> simp [JsonNode.str?] at h
      rw [h]
    | absent | cutOff => cases h
  · rintro rfl
    rfl

theorem trailing?_message_eq_some_iff {a b : Member} {message : Option String} :
    JsonNode.Record.trailing? [("error", a), ("message", b)] "message" JsonNode.str? =
        some message ↔
      (∃ node, b = .given node ∧ IsMessage message node) ∨
        (b = .absent ∨ b = .cutOff) ∧ message = none := by
  cases b with
  | given node =>
    change JsonNode.nullable? JsonNode.str? node = some message ↔ _
    simp [nullable?_str?_eq_some_iff]
  | absent | cutOff =>
    change some none = some message ↔ _
    simp [eq_comm]

theorem ofNode?_eq_some_iff_record {node : JsonNode} {e : XrpcError} :
    ofNode? node = some e ↔ ∃ r, node.record? ["error", "message"] = some r ∧
      r.required? "error" JsonNode.str? = some e.error ∧
      r.trailing? "message" JsonNode.str? = some e.message := by
  unfold ofNode?
  simp only [Option.bind_eq_bind, Option.bind_eq_some_iff, Option.some.injEq]
  constructor
  · rintro ⟨r, hr, error, herror, message, hmessage, rfl⟩
    exact ⟨r, hr, herror, hmessage⟩
  · rintro ⟨r, hr, herror, hmessage⟩
    exact ⟨r, hr, e.error, herror, e.message, hmessage, rfl⟩

theorem isWritten_of_ofNode? {node : JsonNode} {e : XrpcError} (h : ofNode? node = some e) :
    e.IsWritten node := by
  obtain ⟨r, hr, herror, hmessage⟩ := ofNode?_eq_some_iff_record.1 h
  obtain ⟨error, message⟩ := e
  cases node with
  | obj members =>
    obtain ⟨a, b, ha, hb, rfl⟩ := JsonNode.named?_pair_eq_some_iff.1 hr
    rw [required?_error_eq_some_iff.1 herror, JsonNode.findMember?_eq_given_iff] at ha
    obtain ⟨node, rfl, hnode⟩ | ⟨rfl | rfl, hnone⟩ := trailing?_message_eq_some_iff.1 hmessage
    · exact .object ha (JsonNode.findMember?_eq_given_iff.1 hb) hnode
    · cases hnone
      exact .bareObject ha (JsonNode.findMember?_eq_absent_iff.1 hb)
    · exact absurd hb JsonNode.findMember?_ne_cutOff
  | arr items =>
    obtain ⟨rfl, rfl⟩ | ⟨a, rfl, rfl⟩ | ⟨a, b, rfl, rfl⟩ := JsonNode.record?_pair_of_arr hr
    · cases herror
    · cases required?_error_eq_some_iff.1 herror
      obtain ⟨node, hcut, -⟩ | ⟨-, hnone⟩ := trailing?_message_eq_some_iff.1 hmessage
      · cases hcut
      · cases hnone
        exact .bareArray
    · cases required?_error_eq_some_iff.1 herror
      obtain ⟨node, hgiven, hnode⟩ | ⟨habsent | hcut, -⟩ :=
        trailing?_message_eq_some_iff.1 hmessage
      · cases hgiven
        exact .array hnode
      · cases habsent
      · cases hcut
  | _ => cases hr

theorem ofNode?_of_isWritten {node : JsonNode} {e : XrpcError} (h : e.IsWritten node) :
    ofNode? node = some e := by
  rw [ofNode?_eq_some_iff_record]
  cases h with
  | object herror hmessage hnode =>
    have hr := JsonNode.named?_pair_eq_some_iff.2 ⟨_, _,
      JsonNode.findMember?_eq_given_iff.2 herror, JsonNode.findMember?_eq_given_iff.2 hmessage, rfl⟩
    exact ⟨_, hr, required?_error_eq_some_iff.2 rfl,
      trailing?_message_eq_some_iff.2 (.inl ⟨_, rfl, hnode⟩)⟩
  | bareObject herror hmessage =>
    have hr := JsonNode.named?_pair_eq_some_iff.2 ⟨_, _,
      JsonNode.findMember?_eq_given_iff.2 herror, JsonNode.findMember?_eq_absent_iff.2 hmessage,
      rfl⟩
    exact ⟨_, hr, required?_error_eq_some_iff.2 rfl,
      trailing?_message_eq_some_iff.2 (.inr ⟨.inl rfl, rfl⟩)⟩
  | array hnode =>
    exact ⟨_, rfl, required?_error_eq_some_iff.2 rfl,
      trailing?_message_eq_some_iff.2 (.inl ⟨_, rfl, hnode⟩)⟩
  | bareArray =>
    exact ⟨_, rfl, required?_error_eq_some_iff.2 rfl,
      trailing?_message_eq_some_iff.2 (.inr ⟨.inr rfl, rfl⟩)⟩

theorem ofBody?_eq_some_iff {body : Bytes} {e : XrpcError} :
    ofBody? body = some e ↔ e.IsTold body := by
  unfold ofBody? IsTold
  rw [Option.bind_eq_bind, Option.bind_eq_some_iff]
  exact exists_congr fun node =>
    and_congr_right fun _ => ⟨isWritten_of_ofNode?, ofNode?_of_isWritten⟩

theorem ofBody?_eq_none_iff {body : Bytes} :
    ofBody? body = none ↔ ∀ e : XrpcError, ¬ e.IsTold body := by
  rw [Option.eq_none_iff_forall_ne_some]
  exact forall_congr' fun e => not_congr ofBody?_eq_some_iff

end XrpcError

/-! ### Outcomes -/

theorem HttpStatus.exists_reason? {status : Nat} (h : status ∈ Xrpc.knownStatuses) :
    ∃ reason, HttpStatus.reason? status = some reason := by
  have hall : ∀ status ∈ Xrpc.knownStatuses, (HttpStatus.reason? status).isSome := by decide
  exact Option.isSome_iff_exists.1 (hall status h)

theorem Xrpc.badRequest_le {status : Nat} (h : status ∈ Xrpc.knownStatuses)
    (hok : status ≠ HttpStatus.ok) : HttpStatus.badRequest ≤ status := by
  have hall : ∀ status ∈ Xrpc.knownStatuses, status ≠ HttpStatus.ok →
      HttpStatus.badRequest ≤ status := by decide
  exact hall status h hok

theorem Xrpc.isKnownStatus_iff {status : Nat} :
    Xrpc.isKnownStatus status = true ↔ status ∈ Xrpc.knownStatuses := by
  rw [Xrpc.isKnownStatus, List.contains_iff_mem]

namespace Skeleton

variable {reply : HttpReply} {status : Nat} {body : Bytes} {e : XrpcError}

theorem refusal_of_isTold (h : e.IsTold body) :
    refusal status body =
      if status = HttpStatus.badRequest ∧ e.error = "UnknownFeed" then .unknownFeed e.message
      else .refused status e.error e.message := by
  rw [refusal, XrpcError.ofBody?_eq_some_iff.2 h]

theorem refusal_of_not_isTold (hknown : status ∈ Xrpc.knownStatuses)
    (h : ∀ e : XrpcError, ¬ e.IsTold body) :
    ∃ reason, HttpStatus.reason? status = some reason ∧
      refusal status body = .refused status reason none := by
  obtain ⟨reason, hreason⟩ := HttpStatus.exists_reason? hknown
  refine ⟨reason, hreason, ?_⟩
  rw [refusal, XrpcError.ofBody?_eq_none_iff.2 h, hreason]
  rfl

theorem refusal_eq_unknownFeed_iff {message : Option String} :
    refusal status body = .unknownFeed message ↔
      status = HttpStatus.badRequest ∧ XrpcError.IsTold ⟨"UnknownFeed", message⟩ body := by
  constructor
  · intro h
    cases hbody : XrpcError.ofBody? body with
    | none =>
      rw [refusal, hbody] at h
      cases h
    | some e =>
      have htold := XrpcError.ofBody?_eq_some_iff.1 hbody
      rw [refusal_of_isTold htold] at h
      split at h
      · rename_i hunknown
        obtain ⟨error, message⟩ := e
        cases h
        exact ⟨hunknown.1, hunknown.2 ▸ htold⟩
      · cases h
  · rintro ⟨hstatus, htold⟩
    rw [refusal_of_isTold htold, if_pos ⟨hstatus, rfl⟩]

theorem badRequest_le_httpStatus_refusal (hknown : status ∈ Xrpc.knownStatuses)
    (hok : status ≠ HttpStatus.ok) : HttpStatus.badRequest ≤ (refusal status body).httpStatus := by
  unfold refusal
  split
  · split
    · exact Nat.le_refl _
    · exact Xrpc.badRequest_le hknown hok
  · exact Xrpc.badRequest_le hknown hok

theorem isRetryable_refusal : (refusal status body).isRetryable = false := by
  unfold refusal
  split
  · split <;> rfl
  · rfl

theorem ofReply_of_unknown (h : reply.status ∉ Xrpc.knownStatuses) :
    ofReply reply = .error (.feedUnavailable (.status reply.status (some reply.body))) := by
  rw [← Xrpc.isKnownStatus_iff, Bool.not_eq_true] at h
  rw [ofReply, h]
  rfl

theorem ofReply_of_known (h : reply.status ∈ Xrpc.knownStatuses)
    (hok : reply.status ≠ HttpStatus.ok) :
    ofReply reply = .error (refusal reply.status reply.body) := by
  rw [← Xrpc.isKnownStatus_iff] at h
  rw [ofReply, h, if_neg (by decide), if_pos hok]

def ofBody? (contentLanguage : Option String) (body : Bytes) : Option Skeleton :=
  (JsonNode.ofBytes? body).bind (ofNode? contentLanguage)

theorem ofReply_of_ok (h : reply.status = HttpStatus.ok) :
    ofReply reply =
      match ofBody? (reply.headers.first? HeaderName.contentLanguage) reply.body with
      | some skeleton => .ok skeleton
      | none => .error (.invalidFeedResponse "not a feed skeleton") := by
  rw [ofReply, h, if_neg (by decide), if_neg (by simp)]
  rfl

theorem of_ofReply_eq_error {e : FeedError} (h : ofReply reply = .error e) :
    HttpStatus.badRequest ≤ e.httpStatus ∧
      (e.isRetryable = true ↔ reply.status ∉ Xrpc.knownStatuses) := by
  by_cases hknown : reply.status ∈ Xrpc.knownStatuses
  · have hnot : ¬ reply.status ∉ Xrpc.knownStatuses := not_not_intro hknown
    rw [iff_false_right hnot, Bool.not_eq_true]
    by_cases hok : reply.status = HttpStatus.ok
    · rw [ofReply_of_ok hok] at h
      split at h
      · cases h
      · cases h
        exact ⟨by decide, rfl⟩
    · rw [ofReply_of_known hknown hok] at h
      cases h
      exact ⟨badRequest_le_httpStatus_refusal hknown hok, isRetryable_refusal⟩
  · rw [ofReply_of_unknown hknown] at h
    cases h
    have hstatus : HttpStatus.badRequest ≤ HttpStatus.badGateway := by decide
    exact ⟨hstatus, iff_of_true rfl hknown⟩

end Skeleton

/-- **Every reply has one outcome.** A status outside the XRPC set makes the feed unavailable,
whatever the body. A known status other than 200 is an unknown feed if it is 400 and the body tells
of the error of that name, and a refusal otherwise, in the words of the body or, if it tells of no
error, of the status. What comes with 200 is a skeleton or an invalid response. No failure is told
with a status below 400, and only one of the first kind invites to try again. -/
theorem reply_has_one_outcome (reply : HttpReply) :
    (reply.status ∉ Xrpc.knownStatuses →
      Skeleton.ofReply reply =
        .error (.feedUnavailable (.status reply.status (some reply.body)))) ∧
    (reply.status ∈ Xrpc.knownStatuses → reply.status ≠ HttpStatus.ok →
      (∀ message, Skeleton.ofReply reply = .error (.unknownFeed message) ↔
        reply.status = HttpStatus.badRequest ∧
          XrpcError.IsTold ⟨"UnknownFeed", message⟩ reply.body) ∧
      (∀ e : XrpcError, e.IsTold reply.body →
        ¬ (reply.status = HttpStatus.badRequest ∧ e.error = "UnknownFeed") →
        Skeleton.ofReply reply = .error (.refused reply.status e.error e.message)) ∧
      ((∀ e : XrpcError, ¬ e.IsTold reply.body) →
        ∃ reason, HttpStatus.reason? reply.status = some reason ∧
          Skeleton.ofReply reply = .error (.refused reply.status reason none))) ∧
    (reply.status = HttpStatus.ok →
      (∃ skeleton, Skeleton.ofReply reply = .ok skeleton) ∨
        ∃ reason, Skeleton.ofReply reply = .error (.invalidFeedResponse reason)) ∧
    ∀ e, Skeleton.ofReply reply = .error e →
      HttpStatus.badRequest ≤ e.httpStatus ∧
        (e.isRetryable = true ↔ reply.status ∉ Xrpc.knownStatuses) := by
  refine ⟨Skeleton.ofReply_of_unknown, ?_, ?_, fun _ => Skeleton.of_ofReply_eq_error⟩
  · intro hknown hok
    rw [Skeleton.ofReply_of_known hknown hok]
    refine ⟨?_, ?_, ?_⟩
    · intro message
      rw [Except.error.injEq]
      exact Skeleton.refusal_eq_unknownFeed_iff
    · intro e htold hother
      rw [Skeleton.refusal_of_isTold htold, if_neg hother]
    · intro hnone
      obtain ⟨reason, hreason, hrefusal⟩ := Skeleton.refusal_of_not_isTold hknown hnone
      exact ⟨reason, hreason, by rw [hrefusal]⟩
  · intro hok
    rw [Skeleton.ofReply_of_ok hok]
    split
    · exact .inl ⟨_, rfl⟩
    · exact .inr ⟨_, rfl⟩

namespace Sample

/-- An error in the form of an array, with a status that makes it an unknown feed. -/
def unknownFeed : HttpReply := ⟨400, ⟨[]⟩, Utf8.encode "[\"UnknownFeed\"]".toList⟩

/-- A body that repeats a member tells of no error. -/
def repeated : HttpReply :=
  ⟨403, ⟨[]⟩, Utf8.encode "\x7b\"error\":\"UnknownFeed\",\"error\":\"A\"\x7d".toList⟩

theorem isTold_unknownFeed : XrpcError.IsTold ⟨"UnknownFeed", none⟩ unknownFeed.body := by
  apply XrpcError.ofBody?_eq_some_iff.1
  decide +kernel

theorem not_isTold_repeated : ∀ e : XrpcError, ¬ e.IsTold repeated.body := by
  apply XrpcError.ofBody?_eq_none_iff.1
  decide +kernel

end Sample

theorem reply_has_one_outcome_sample :
    Skeleton.ofReply Sample.unknownFeed = .error (.unknownFeed none) ∧
    Skeleton.ofReply Sample.repeated = .error (.refused 403 "Forbidden" none) ∧
    Skeleton.ofReply { Sample.unknownFeed with status := 418 } =
      .error (.feedUnavailable (.status 418 (some Sample.unknownFeed.body))) ∧
    ∃ reason, Skeleton.ofReply { Sample.unknownFeed with status := 200 } =
      .error (.invalidFeedResponse reason) := by
  refine ⟨?_, ?_, ?_, ?_⟩
  · obtain ⟨hunknown, -, -⟩ :=
      (reply_has_one_outcome Sample.unknownFeed).2.1 (by decide) (by decide)
    exact (hunknown none).2 ⟨rfl, Sample.isTold_unknownFeed⟩
  · obtain ⟨-, -, hnone⟩ := (reply_has_one_outcome Sample.repeated).2.1 (by decide) (by decide)
    obtain ⟨reason, hreason, hreply⟩ := hnone Sample.not_isTold_repeated
    cases hreason
    exact hreply
  · exact (reply_has_one_outcome { Sample.unknownFeed with status := 418 }).1 (by decide)
  · obtain ⟨skeleton, hok⟩ | hinvalid :=
      (reply_has_one_outcome { Sample.unknownFeed with status := 200 }).2.2.1 rfl
    · have hnot : (Skeleton.ofReply { Sample.unknownFeed with status := 200 }).toBool = false := by
        decide +kernel
      rw [hok] at hnot
      cases hnot
    · exact hinvalid

end FeedHydration
