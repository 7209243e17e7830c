import TracedService.Export.Call
import TracedService.Proofs.Fallible
import TracedService.Proofs.Http.Headers

/-! Calls that carry a token. A request arrives exactly if there is a token that can stand in a
header and somebody is there at its address, and it counts as done exactly if a whole answer comes
back that is no error. The token is always on the request, but it stands alone only where neither
the address nor the request itself says who calls. -/

namespace TracedService

open Text.Utf8 (Bytes)

namespace Url

theorem overHttp_eq_ok_iff {u target : Url} :
    u.overHttp = .ok target ↔ u.isHttp = true ∧ u = target := by
  unfold overHttp
  split <;> simp_all

theorem isHttp_withoutUser (u : Url) : u.withoutUser.isHttp = u.isHttp := by
  unfold withoutUser
  split <;> rfl

end Url

namespace Outgoing

variable {server : Outgoing → Exchange} {token : String} {r : Http.Request} {out : Outgoing}
  {address target : Url}

theorem bearer_eq (token : String) :
    bearer token = Text.Utf8.encodeText "Bearer " ++ Text.Utf8.encodeText token := by
  rw [bearer, Text.Utf8.encodeText, String.toList_append, Text.Utf8.encode, List.flatMap_append]
  rfl

theorem isValid_bearer (token : String) :
    Http.HeaderValue.isValid (bearer token) =
      Http.HeaderValue.isValid (Text.Utf8.encodeText token) := by
  have hword : (Text.Utf8.encodeText "Bearer ").all Http.HeaderValue.isByte = true := by
    decide +kernel
  rw [bearer_eq, Http.HeaderValue.isValid, List.all_append, hword, Bool.true_and]
  rfl

/-- A request is made up if its URI names a machine, the token can stand in a header and the machine
is called over HTTP. -/
theorem authorized_eq_ok_iff :
    authorized token r = .ok out ↔ ∃ address target, Url.ofHost r.uri.text = .ok address ∧
      Http.HeaderValue.isValid (bearer token) = true ∧ address.withoutUser.overHttp = .ok target ∧
      out = ofRequest target (basic address ++ [(authorization, bearer token)]) r := by
  unfold authorized
  cases haddress : Url.ofHost r.uri.text with
  | error f => simp [bind, Except.bind, mapError_error]
  | ok address =>
    by_cases hvalid : Http.HeaderValue.isValid (bearer token) = true
    · cases htarget : address.withoutUser.overHttp with
      | error f => simp [bind, Except.bind, mapError_ok, mapError_error, hvalid, htarget]
      | ok target =>
        simp [bind, Except.bind, mapError_ok, hvalid, htarget, pure, Except.pure, eq_comm]
    · simp [bind, Except.bind, mapError_ok, hvalid, throw, throwThe, MonadExceptOf.throw]

theorem of_authorized (h : authorized token r = .ok out) :
    ∃ address, Url.ofHost r.uri.text = .ok address ∧
      out.headers = ⟨basic address ++ (authorization, bearer token) :: r.headers.fields⟩ := by
  obtain ⟨address, target, haddress, -, -, rfl⟩ := authorized_eq_ok_iff.mp h
  exact ⟨address, haddress, by simp [ofRequest]⟩

theorem authorized_of_address (haddress : Url.ofHost r.uri.text = .ok address)
    (htarget : address.withoutUser.overHttp = .ok target)
    (hvalid : Http.HeaderValue.isValid (bearer token) = true) :
    authorized token r =
      .ok (ofRequest target (basic address ++ [(authorization, bearer token)]) r) :=
  authorized_eq_ok_iff.mpr ⟨address, target, haddress, hvalid, htarget, rfl⟩

theorem values_basic_eq_nil_iff :
    Http.Headers.values ⟨basic address⟩ "authorization" = [] ↔ address.user? = none := by
  unfold basic
  cases address.user? with
  | none => simp [Http.Headers.values]
  | some user => simp [Http.Headers.values, authorization]

theorem values_basic_of_ne {name : String} (h : authorization ≠ name) :
    Http.Headers.values ⟨basic address⟩ name = [] := by
  unfold basic
  cases address.user? with
  | none => simp [Http.Headers.values]
  | some user => simp [Http.Headers.values, h]

theorem not_authorized
    (hinvalid : Http.HeaderValue.isValid (Text.Utf8.encodeText token) = false) (out : Outgoing) :
    authorized token r ≠ .ok out := by
  intro h
  obtain ⟨address, target, -, hvalid, -⟩ := authorized_eq_ok_iff.mp h
  rw [isValid_bearer, hinvalid] at hvalid
  cases hvalid

/-- The request is the one that was given, at the address of its URI, with the same values under
every header name but `authorization`. The headers that the HTTP client adds itself are not among
those of the model. -/
structure Passes (out : Outgoing) (r : Http.Request) : Prop where
  method : out.method = r.method
  body : out.body = r.body
  address : ∃ u, Url.ofHost r.uri.text = .ok u ∧ out.address = u.withoutUser
  headers : ∀ name, name ≠ "authorization" → out.headers.values name = r.headers.values name

theorem passes_of_authorized (h : authorized token r = .ok out) : out.Passes r := by
  obtain ⟨address, target, haddress, -, htarget, rfl⟩ := authorized_eq_ok_iff.mp h
  obtain ⟨-, rfl⟩ := Url.overHttp_eq_ok_iff.mp htarget
  refine ⟨rfl, rfl, ⟨address, haddress, rfl⟩, fun name hname => ?_⟩
  have hother : authorization ≠ name := Ne.symm hname
  have hfront :
      Http.Headers.values ⟨basic address ++ [(authorization, bearer token)]⟩ name = [] := by
    rw [Http.Headers.values_append, values_basic_of_ne hother,
      Http.Headers.values_cons_of_ne hother]
    rfl
  rw [ofRequest, Http.Headers.values_append, hfront, List.nil_append]

/-- Who calls is told by the address, then by the token, then by the request itself. -/
theorem authorization_of_authorized (h : authorized token r = .ok out) :
    ∃ u, Url.ofHost r.uri.text = .ok u ∧ out.headers.values "authorization" =
      Http.Headers.values ⟨basic u⟩ "authorization" ++
        bearer token :: r.headers.values "authorization" := by
  obtain ⟨u, hu, hheaders⟩ := of_authorized h
  refine ⟨u, hu, ?_⟩
  rw [hheaders, Http.Headers.values_append, authorization, Http.Headers.values_cons_self]

theorem call_unmade {made : Except SendFault Outgoing} (h : ∀ out, made ≠ .ok out) :
    (call server made).sent = none ∧ ∃ f, (call server made).result = .error f := by
  cases made with
  | error f => exact ⟨rfl, f, rfl⟩
  | ok out => exact absurd rfl (h out)

theorem sent_answered (out : Outgoing) (status : Nat) (body : Bytes) (complete : Bool) :
    (Call.answered out status body complete).sent = some out := by
  unfold Call.answered
  split
  · rfl
  · split <;> rfl

theorem sent_call_iff {made : Except SendFault Outgoing} :
    (call server made).sent = some out ↔
      made = .ok out ∧ ∀ reason, server out ≠ .unreachable reason := by
  cases made with
  | error f => simp [call]
  | ok out' =>
    by_cases hthere : ∀ reason, server out' ≠ .unreachable reason
    · have hsent : (call server (.ok out')).sent = some out' := by
        unfold call
        dsimp only
        cases hs : server out' with
        | unreachable reason => exact absurd hs (hthere reason)
        | closed => rfl
        | answered status body complete => exact sent_answered ..
      rw [hsent]
      constructor
      · rintro ⟨⟩
        exact ⟨rfl, hthere⟩
      · rintro ⟨⟨⟩, -⟩
        rfl
    · have hnone : (call server (.ok out')).sent = none := by
        simp only [Classical.not_forall, Classical.not_not] at hthere
        obtain ⟨reason, hs⟩ := hthere
        simp [call, hs]
      rw [hnone]
      refine ⟨nofun, ?_⟩
      rintro ⟨⟨⟩, h⟩
      exact absurd h hthere

theorem sent_of_call {made : Except SendFault Outgoing}
    (h : (call server made).sent = some out) : made = .ok out :=
  (sent_call_iff.mp h).1

end Outgoing

/-- The answer came as a whole and is no error. What is told of it is its status and its body. -/
structure Exchange.Counts (e : Exchange) (response : Http.Response) : Prop where
  whole : e = .answered response.status response.body true
  fine : ¬ (400 ≤ response.status ∧ response.status ≤ 599)
  plain : response.allow = none

theorem Exchange.Counts.reached {e : Exchange} {response : Http.Response} (h : e.Counts response)
    (reason : String) : e ≠ .unreachable reason := by
  rw [h.whole]
  nofun

namespace Outgoing

variable {server : Outgoing → Exchange} {out : Outgoing} {response : Http.Response}

theorem result_answered_iff {status : Nat} {body : Bytes} {complete : Bool} :
    (Call.answered out status body complete).result = .ok response ↔
      (Exchange.answered status body complete).Counts response := by
  unfold Call.answered
  by_cases herror : (400 ≤ status && status < 600) = true
  · rw [if_pos herror]
    refine ⟨nofun, fun h => ?_⟩
    obtain ⟨rfl, rfl, rfl⟩ := Exchange.answered.inj h.whole
    simp only [Bool.and_eq_true, decide_eq_true_eq] at herror
    have hfine := h.fine
    omega
  · rw [if_neg herror]
    simp only [Bool.and_eq_true, decide_eq_true_eq] at herror
    cases complete with
    | false =>
      refine ⟨nofun, fun h => ?_⟩
      cases h.whole
    | true =>
      constructor
      · rintro ⟨⟩
        exact ⟨rfl, fun h => herror ⟨h.1, Nat.lt_succ_of_le h.2⟩, rfl⟩
      · rintro ⟨hwhole, -, hplain⟩
        obtain ⟨hstatus, hbody, -⟩ := Exchange.answered.inj hwhole
        cases response
        cases hstatus
        cases hbody
        cases hplain
        rfl

theorem result_call_iff {made : Except SendFault Outgoing} :
    (call server made).result = .ok response ↔
      ∃ out, (call server made).sent = some out ∧ (server out).Counts response := by
  cases made with
  | error f => simp [call]
  | ok out =>
    have hresult : (call server (.ok out)).result = .ok response ↔
        (server out).Counts response := by
      unfold call
      dsimp only
      cases hs : server out with
      | unreachable reason => exact ⟨nofun, fun h => absurd rfl (h.reached reason)⟩
      | closed =>
        refine ⟨nofun, fun h => ?_⟩
        cases h.whole
      | answered status body complete => exact result_answered_iff
    rw [hresult]
    constructor
    · intro h
      exact ⟨out, sent_call_iff.mpr ⟨rfl, h.reached⟩, h⟩
    · rintro ⟨out', hsent, h⟩
      obtain rfl : out = out' := Except.ok.inj (sent_call_iff.mp hsent).1
      exact h

end Outgoing

/-- Whoever calls over HTTP at the address of a URI is connected. -/
def Reachable (server : Outgoing → Exchange) (uri : Http.Uri) : Prop :=
  ∃ u, Url.ofHost uri.text = .ok u ∧ u.isHttp = true ∧
    ∀ out, out.address = u.withoutUser → ∀ reason, server out ≠ .unreachable reason

theorem authorized_of_reachable {server : Outgoing → Exchange} {token : String} {r : Http.Request}
    (hvalid : Http.HeaderValue.isValid (Text.Utf8.encodeText token) = true)
    (hthere : Reachable server r.uri) : ∃ out, Outgoing.authorized token r = .ok out ∧
      ∀ reason, server out ≠ .unreachable reason := by
  obtain ⟨u, hu, hhttp, hserver⟩ := hthere
  have htarget : u.withoutUser.overHttp = .ok u.withoutUser :=
    Url.overHttp_eq_ok_iff.mpr ⟨by rwa [Url.isHttp_withoutUser], rfl⟩
  rw [← Outgoing.isValid_bearer] at hvalid
  exact ⟨_, Outgoing.authorized_of_address hu htarget hvalid, hserver _ rfl⟩

def localUri : Http.Uri :=
  .absolute "http".toList "127.0.0.1:4318".toList ⟨"/v1/traces".toList, none⟩

def localAddress : Url where
  scheme := "http".toList
  host := some (.address4 0x7F000001)
  port := some 4318
  path := "/v1/traces".toList

theorem ofHost_local : Url.ofHost localUri.text = .ok localAddress :=
  ok_of_toOption (by decide +kernel)

def accepting (_ : Outgoing) : Exchange :=
  .answered 202 (Text.Utf8.encodeText "taken") true

theorem reachable_local : Reachable accepting localUri :=
  ⟨localAddress, ofHost_local, by decide +kernel, fun _ _ => nofun⟩

def spansTo (headers : Http.Headers) : Http.Request where
  method := "POST"
  uri := localUri
  headers := headers
  body := Text.Utf8.encodeText "spans"

theorem sent_spansTo (headers : Http.Headers) :
    ∃ out, (sendAuthorized (.ok "ya29") accepting (spansTo headers)).sent = some out := by
  obtain ⟨out, hmade, hserver⟩ : ∃ out, Outgoing.authorized "ya29" (spansTo headers) = .ok out ∧
      ∀ reason, accepting out ≠ .unreachable reason :=
    authorized_of_reachable (by decide +kernel) reachable_local
  exact ⟨out, Outgoing.sent_call_iff.mpr ⟨hmade, hserver⟩⟩

/-- Who calls is told by the user of the address, by the token, and by whatever the request says
itself under any spelling of the name. So the token stands alone exactly if neither of the others
says anything. -/
theorem sent_authorized_once_iff {token : String} {server : Outgoing → Exchange} {r : Http.Request}
    {fields : List (String × Bytes)} {out : Outgoing}
    (hfields : Http.Headers.ofList? fields = some r.headers)
    (hsent : (sendAuthorized (.ok token) server r).sent = some out) :
    ∃ u, Url.ofHost r.uri.text = .ok u ∧
      out.headers.values "authorization" =
        Http.Headers.values ⟨Outgoing.basic u⟩ "authorization" ++
          Text.Utf8.encodeText ("Bearer " ++ token) :: r.headers.values "authorization" ∧
      (out.headers.values "authorization" = [Text.Utf8.encodeText ("Bearer " ++ token)] ↔
        u.user? = none ∧ ∀ f ∈ fields, Http.HeaderName.read? f.1 ≠ some "authorization") := by
  obtain ⟨u, hu, htold⟩ := Outgoing.authorization_of_authorized (Outgoing.sent_of_call hsent)
  refine ⟨u, hu, htold, ?_⟩
  rw [htold, ← Outgoing.values_basic_eq_nil_iff, ← Http.Headers.values_eq_nil_iff hfields,
    List.append_eq_singleton_iff]
  simp [Outgoing.bearer]

theorem sent_authorized_once_plain : ∃ headers out,
    Http.Headers.ofList? [("Content-Type", Text.Utf8.encodeText "application/x-protobuf")] =
        some headers ∧
      (sendAuthorized (.ok "ya29") accepting (spansTo headers)).sent = some out ∧
      out.headers.values "authorization" = [Text.Utf8.encodeText "Bearer ya29"] := by
  obtain ⟨headers, hfields⟩ := Option.isSome_iff_exists.mp (show (Http.Headers.ofList?
    [("Content-Type", Text.Utf8.encodeText "application/x-protobuf")]).isSome = true by
      decide +kernel)
  obtain ⟨out, hsent⟩ := sent_spansTo headers
  obtain ⟨u, hu, -, honce⟩ := sent_authorized_once_iff hfields hsent
  obtain rfl : localAddress = u := Except.ok.inj (ofHost_local.symm.trans hu)
  exact ⟨headers, out, hfields, hsent, honce.mpr ⟨by decide +kernel, by decide +kernel⟩⟩

/-- A request that names a user itself arrives with two credentials. -/
theorem sent_authorized_twice : ∃ headers out,
    Http.Headers.ofList? [("Authorization", Text.Utf8.encodeText "Basic b3Bz")] = some headers ∧
      (sendAuthorized (.ok "ya29") accepting (spansTo headers)).sent = some out ∧
      out.headers.values "authorization" =
        [Text.Utf8.encodeText "Bearer ya29", Text.Utf8.encodeText "Basic b3Bz"] := by
  obtain ⟨headers, hfields⟩ := Option.isSome_iff_exists.mp (show (Http.Headers.ofList?
    [("Authorization", Text.Utf8.encodeText "Basic b3Bz")]).isSome = true by decide +kernel)
  obtain ⟨out, hsent⟩ := sent_spansTo headers
  obtain ⟨u, hu, htold⟩ := Outgoing.authorization_of_authorized (Outgoing.sent_of_call hsent)
  obtain rfl : localAddress = u := Except.ok.inj (ofHost_local.symm.trans hu)
  have hnobody : Http.Headers.values ⟨Outgoing.basic localAddress⟩ "authorization" = [] :=
    Outgoing.values_basic_eq_nil_iff.mpr (by decide +kernel)
  have hown : headers.values "authorization" = [Text.Utf8.encodeText "Basic b3Bz"] := by
    rw [Http.Headers.values_ofList? hfields]
    decide +kernel
  refine ⟨headers, out, hfields, hsent, ?_⟩
  rw [htold, hnobody, spansTo, hown]
  rfl

/-- Without a token, or with one that cannot stand in a header, nothing is sent, and who asked is
told; a source that fails has its own words passed on. Else the request arrives as it was given
wherever somebody is there. The call is done exactly if a whole answer comes back that is no error,
and in every other case it has failed. -/
theorem sendAuthorized_reports (token : Except TokenFault String) (server : Outgoing → Exchange)
    (r : Http.Request) :
    let call := sendAuthorized token server r
    (∀ fault, token = .error fault → call.sent = none ∧ ∃ f, call.result = .error f ∧
      f.summary = fault.message) ∧
    (∀ t, token = .ok t → Http.HeaderValue.isValid (Text.Utf8.encodeText t) = false →
      call.sent = none ∧ ∃ f, call.result = .error f) ∧
    (∀ t, token = .ok t → Http.HeaderValue.isValid (Text.Utf8.encodeText t) = true →
      (Reachable server r.uri → ∃ out, call.sent = some out) ∧
      ∀ out, call.sent = some out → out.Passes r) ∧
    (∀ response, call.result = .ok response ↔
      ∃ out, call.sent = some out ∧ (server out).Counts response) ∧
    ((∃ f, call.result = .error f) ↔
      ¬ ∃ out response, call.sent = some out ∧ (server out).Counts response) := by
  intro call
  have hresult (response : Http.Response) : call.result = .ok response ↔
      ∃ out, call.sent = some out ∧ (server out).Counts response :=
    Outgoing.result_call_iff
  refine ⟨?_, ?_, ?_, hresult, ?_⟩
  · rintro fault rfl
    exact ⟨rfl, _, rfl, rfl⟩
  · rintro t rfl hinvalid
    exact Outgoing.call_unmade (Outgoing.not_authorized hinvalid)
  · rintro t rfl hvalid
    constructor
    · intro hthere
      obtain ⟨out, hmade, hserver⟩ := authorized_of_reachable hvalid hthere
      exact ⟨out, Outgoing.sent_call_iff.mpr ⟨hmade, hserver⟩⟩
    · intro out hsent
      exact Outgoing.passes_of_authorized (Outgoing.sent_of_call hsent)
  · cases hcall : call.result with
    | error f =>
      refine ⟨fun _ => ?_, fun _ => ⟨f, rfl⟩⟩
      rintro ⟨out, response, hsent, hcounts⟩
      have hok := (hresult response).mpr ⟨out, hsent, hcounts⟩
      rw [hcall] at hok
      cases hok
    | ok response =>
      obtain ⟨out, hsent, hcounts⟩ := (hresult response).mp hcall
      exact ⟨nofun, fun hnone => absurd ⟨out, response, hsent, hcounts⟩ hnone⟩

/-- Values that share a name arrive in their order; a source that fails and a token of two lines
keep the request back. -/
theorem sendAuthorized_reports_repeated : ∃ headers out, Http.Headers.ofList?
        [("X-Batch", Text.Utf8.encodeText "1"), ("x-batch", Text.Utf8.encodeText "2")] =
        some headers ∧
      (sendAuthorized (.ok "ya29") accepting (spansTo headers)).sent = some out ∧
      out.headers.values "x-batch" = [Text.Utf8.encodeText "1", Text.Utf8.encodeText "2"] ∧
      out.body = Text.Utf8.encodeText "spans" ∧
      (sendAuthorized (.ok "ya29") accepting (spansTo headers)).result =
        .ok ⟨202, Text.Utf8.encodeText "taken", none⟩ ∧
      (sendAuthorized (.error (.refused "revoked")) accepting (spansTo headers)).sent = none ∧
      (sendAuthorized (.ok "ya\n29") accepting (spansTo headers)).sent = none := by
  obtain ⟨headers, hfields⟩ := Option.isSome_iff_exists.mp (show (Http.Headers.ofList?
    [("X-Batch", Text.Utf8.encodeText "1"), ("x-batch", Text.Utf8.encodeText "2")]).isSome = true by
      decide +kernel)
  obtain ⟨-, -, hpasses, hresult, -⟩ :=
    sendAuthorized_reports (.ok "ya29") accepting (spansTo headers)
  obtain ⟨harrives, hpasses⟩ := hpasses "ya29" rfl (by decide +kernel)
  obtain ⟨out, hsent⟩ := harrives reachable_local
  have hbatch : headers.values "x-batch" =
      [Text.Utf8.encodeText "1", Text.Utf8.encodeText "2"] := by
    rw [Http.Headers.values_ofList? hfields]
    decide +kernel
  have hrefused :=
    (sendAuthorized_reports (.error (.refused "revoked")) accepting (spansTo headers)).1
  have hbroken := (sendAuthorized_reports (.ok "ya\n29") accepting (spansTo headers)).2.1
  refine ⟨headers, out, hfields, hsent, ?_, (hpasses out hsent).body, ?_, (hrefused _ rfl).1,
    (hbroken _ rfl (by decide +kernel)).1⟩
  · rw [(hpasses out hsent).headers "x-batch" (by decide)]
    exact hbatch
  · exact (hresult _).mpr ⟨out, hsent, rfl, by decide, rfl⟩

end TracedService
