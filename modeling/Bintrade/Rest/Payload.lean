import Bintrade.System.UrlEncoded
import Bintrade.Rest.RequestWire
import Bintrade.Rest.SignatureCoverage

/-! What a receiver takes for the parameters of a request: the form body, or the query string
that it finds in the request line, where a blank, a line end or another control character
ends the target. -/

namespace Bintrade.Rest

open Bintrade.System Bintrade.System.Http Bintrade.Core Bintrade.Auth

/-- The request line, as it is written. -/
def HttpRequest.requestLine (request : HttpRequest) : List Char :=
  RequestMessage.requestLine ⟨verbString request.verb, request.target, [], request.body⟩

/-- What a receiver takes for the parameters: the form body of a `POST`, or what follows the
path and its `?` in the target of the request line, if that is one. -/
def HttpRequest.payload (request : HttpRequest) (path : String) : Option (List Char) :=
  match request.verb with
  | .post => some request.body.toList
  | _ =>
    (receivedTarget (request.requestLine ++ lineEnd)).map fun target =>
      target.toList.drop (path.toList.length + 1)

/-- The methods of the client that send parameters. -/
inductive Call where
  | publicGet
  | asyncPublicGet
  | signed (method : SignedMethod)

/-- The parameters are sent in the target of the request line. -/
def Call.inTarget : Call → Bool
  | .publicGet | .asyncPublicGet => true
  | .signed method =>
    match method with
    | .post | .asyncPost => false
    | .get | .delete | .asyncGet | .asyncDelete => true

/-- A text that the exchange reads from the call as it is written. -/
def Call.Reads (call : Call) (text : String) : Prop :=
  PlainText text ∧ (call.inTarget = true → Visible text)

/-- An entry that the exchange reads back from the call. -/
def Call.Legible (call : Call) (entry : String × String) : Prop :=
  '=' ∉ entry.1.toList ∧ call.Reads entry.1 ∧ call.Reads entry.2

section Calls

variable (services : Services) (credentials : Credentials) (limits : RateLimits) (path : String)
  (params : Params)

def Call.request : Call → Except Exception HttpRequest
  | .publicGet => pure (get services.layouts.copied path params)
  | .asyncPublicGet => pure (asyncGet services.layouts.copied path params)
  | .signed method => method.request services ⟨some credentials, limits⟩ path params

/-- What a signed method adds to the parameters of the caller. -/
def Call.added : Call → List (String × String)
  | .publicGet | .asyncPublicGet => []
  | .signed _ =>
    [("timestamp", toString services.clock),
      ("signature", sign services.hmac credentials
        (signedQuery services.layouts services.clock params))]

/-- The exchange reads every entry of the caller once, and what signing adds. -/
def Call.Faithful (call : Call) : Prop :=
  ∃ request payload, call.request services credentials limits path params = .ok request ∧
    request.payload path = some payload ∧
      (decodeForm payload).Perm (params.entries ++ call.added services credentials params)

end Calls

theorem formPair_eq_pairText (entry : String × String) :
    formPair entry = (pairText entry).toList := by
  simp [formPair, pairText]

theorem decodeForm_trailText (text : List Char) (entries : List (String × String)) :
    decodeForm (text ++ trailText entries) =
      decodeForm text ++ entries.flatMap fun entry => decodeForm (formPair entry) := by
  induction entries generalizing text with
  | nil => simp [trailText]
  | cons entry entries ih =>
    have trail : trailText (entry :: entries) = '&' :: (formPair entry ++ trailText entries) := by
      simp [trailText, formPair_eq_pairText]
    rw [trail, decodeForm_append, ih, List.flatMap_cons]

/-- The pairs are read one by one, each for itself. -/
theorem decodeForm_joinPairs (entries : List (String × String)) :
    decodeForm (joinPairs entries).toList =
      entries.flatMap fun entry => decodeForm (formPair entry) := by
  cases entries with
  | nil => rfl
  | cons entry entries =>
    rw [joinPairs_cons, ← formPair_eq_pairText, decodeForm_trailText, List.flatMap_cons]

section Cut

variable {shown : Char → Bool}

/-- A text of pairs that is cut off yields less than the pairs, and all of them only if
nothing is cut off. -/
theorem formSize_takeWhile (separator : shown '&' = true) (equals : shown '=' = true)
    (entry : String × String) (entries : List (String × String)) :
    let text := formPair entry ++ trailText entries
    formSize (decodeForm (text.takeWhile shown)) ≤ formSize (entry :: entries) ∧
      (formSize (entry :: entries) ≤ formSize (decodeForm (text.takeWhile shown)) →
        text.takeWhile shown = text) := by
  intro text
  by_cases whole : ∀ character ∈ formPair entry, shown character = true
  · have first := formSize_decodeForm_formPair_le entry
    cases entries with
    | nil =>
      have same : text.takeWhile shown = formPair entry := by
        simp only [text, trailText, List.flatMap_nil, List.append_nil]
        exact List.takeWhile_eq_self_iff.mpr whole
      rw [same, formSize_cons, formSize_nil]
      exact ⟨by omega, fun _ => (List.append_nil _).symm⟩
    | cons next rest =>
      have trail : trailText (next :: rest) = '&' :: (formPair next ++ trailText rest) := by
        simp [trailText, formPair_eq_pairText]
      obtain ⟨bounded, full⟩ := formSize_takeWhile separator equals next rest
      have same : text.takeWhile shown =
          formPair entry ++ '&' :: (formPair next ++ trailText rest).takeWhile shown := by
        simp only [text]
        rw [trail, List.takeWhile_append_of_pos whole, List.takeWhile_cons_of_pos separator]
      rw [same, decodeForm_append, formSize_append, formSize_cons]
      refine ⟨by omega, fun everything => ?_⟩
      rw [full (by omega)]
      exact congrArg (formPair entry ++ ·) trail.symm
  · have less := formSize_cut_lt whole equals
    have same : text.takeWhile shown = (formPair entry).takeWhile shown :=
      takeWhile_append_of_cut whole _
    rw [same, formSize_cons]
    exact ⟨by omega, by omega⟩

end Cut

section Payload

variable {services : Services} {credentials : Credentials} {limits : RateLimits} {path : String}
  {params : Params}

/-- The map whose entries a call writes. -/
def Call.sent (services : Services) (credentials : Credentials) (params : Params) : Call → Params
  | .publicGet | .asyncPublicGet => params.copy services.layouts.copied
  | .signed method =>
    method.sent services.layouts (signParameters services.hmac credentials services.layouts
      services.clock params)

/-- The text of the parameters. -/
def Call.text (services : Services) (credentials : Credentials) (params : Params) (call : Call) :
    String :=
  joinPairs (call.sent services credentials params).entries

/-- What reaches the exchange of a text. -/
def Call.received (call : Call) (text : List Char) : List Char :=
  if call.inTarget then text.takeWhile isTargetChar else text

theorem payload_of_post {request : HttpRequest} (post : request.verb = .post) :
    request.payload path = some request.body.toList := by
  simp only [HttpRequest.payload, post]

theorem payload_of_query {request : HttpRequest} (query : request.verb ≠ .post) :
    request.payload path =
      (receivedTarget (request.requestLine ++ lineEnd)).map fun target =>
        target.toList.drop (path.toList.length + 1) := by
  unfold HttpRequest.payload
  split
  · exact absurd ‹_› query
  · rfl

/-- What a receiver finds of a query, under a path that is a target itself. -/
theorem payload_query {request : HttpRequest} {query : String} (reachable : IsTarget path)
    (verb : request.verb ≠ .post) (target : request.target = path ++ "?" ++ query) :
    (∀ payload, request.payload path = some payload →
        payload = query.toList.takeWhile isTargetChar) ∧
      (query.toList.takeWhile isTargetChar = query.toList →
        request.payload path = some query.toList) := by
  have token := HttpClient.isToken_verbString request.verb
  have split : request.target.toList = path.toList ++ '?' :: query.toList := by
    simp [target]
  have shownPath : ∀ char ∈ path.toList ++ ['?'], isTargetChar char = true := by
    intro char member
    rcases List.mem_append.mp member with inside | mark
    · exact reachable.2 char inside
    · rw [List.mem_singleton.mp mark]
      decide
  have regroup : path.toList ++ '?' :: query.toList = (path.toList ++ ['?']) ++ query.toList := by
    simp
  have length : (path.toList ++ ['?']).length = path.toList.length + 1 := by simp
  rw [payload_of_query verb]
  constructor
  · intro payload found
    obtain ⟨read, received, rfl⟩ := Option.map_eq_some_iff.mp found
    have cut := toList_receivedTarget token received
    rw [cut]
    change (request.target.toList.takeWhile isTargetChar).drop _ = _
    rw [split, regroup, List.takeWhile_append_of_pos shownPath, ← length, List.drop_left]
  · intro whole
    have visible : IsTarget request.target := by
      refine ⟨by rw [split]; simp, ?_⟩
      intro char member
      rw [split, regroup] at member
      rcases List.mem_append.mp member with front | inside
      · exact shownPath char front
      · exact List.takeWhile_eq_self_iff.mp whole char inside
    have received : receivedTarget (request.requestLine ++ lineEnd) = some request.target :=
      receivedTarget_of_isTarget token visible
    rw [received, Option.map_some, split, regroup, ← length, List.drop_left]

theorem payload_path {request : HttpRequest} (reachable : IsTarget path)
    (verb : request.verb ≠ .post) (target : request.target = path) :
    request.payload path = some [] := by
  have received : receivedTarget (request.requestLine ++ lineEnd) = some path := by
    rw [← target]
    exact receivedTarget_of_isTarget (HttpClient.isToken_verbString request.verb)
      (target ▸ reachable)
  rw [payload_of_query verb, received, Option.map_some, List.drop_eq_nil_of_le (by simp)]

/-- The request of a call, and what a receiver takes for its parameters: nothing but what is
received of their text, and the text itself if it is received whole. -/
structure Call.Carries (call : Call) (path : String) (text : List Char) (request : HttpRequest) :
    Prop where
  only : ∀ payload, request.payload path = some payload → payload = call.received text
  whole : call.received text = text → request.payload path = some text

theorem Call.Carries.ofQuery {call : Call} {request : HttpRequest} {text : String}
    (inTarget : call.inTarget = true) (reachable : IsTarget path) (verb : request.verb ≠ .post)
    (target : request.target = path ++ "?" ++ text) : call.Carries path text.toList request := by
  obtain ⟨only, whole⟩ := payload_query reachable verb target
  constructor
  · rw [Call.received, if_pos inTarget]
    exact only
  · rw [Call.received, if_pos inTarget]
    exact whole

theorem Call.Carries.ofBody {call : Call} {request : HttpRequest} {text : String}
    (inBody : call.inTarget = false) (post : request.verb = .post) (body : request.body = text) :
    call.Carries path text.toList request := by
  have received : call.received text.toList = text.toList := by
    rw [Call.received, inBody]
    rfl
  have payload : request.payload path = some text.toList := by
    rw [payload_of_post post, body]
  refine ⟨?_, fun _ => payload⟩
  intro found same
  rw [payload] at same
  rw [received]
  exact (Option.some.inj same).symm

theorem carries_get (reachable : IsTarget path) {call : Call} (inTarget : call.inTarget = true)
    (copied : Layout String) :
    call.Carries path (joinPairs (params.copy copied).entries).toList (get copied path params) := by
  have verb : (get copied path params).verb ≠ .post := by
    intro same
    cases same
  by_cases empty : (params.copy copied).order = []
  · have nothing : (joinPairs (params.copy copied).entries).toList = [] := by
      simp [UnorderedMap.entries, empty, joinPairs]
    have target : (get copied path params).target = path := by
      simp [get, asyncGet, buildQueryString, empty, targetWith]
    have payload := payload_path reachable verb target
    rw [nothing]
    refine ⟨?_, fun _ => payload⟩
    intro found same
    rw [payload] at same
    cases same
    simp [Call.received]
  · exact .ofQuery inTarget reachable verb (targetWith_query empty)

theorem carries_signed (reachable : IsTarget path) {method : SignedMethod} {request : HttpRequest}
    {text : String}
    (built : method.request services ⟨some credentials, limits⟩ path params = .ok request)
    (transmitted : request.Transmits path text) :
    Call.Carries (.signed method) path text.toList request := by
  cases method with
  | post | asyncPost =>
    cases built
    exact .ofBody rfl rfl transmitted.2
  | get | delete | asyncGet | asyncDelete =>
    cases built
    exact .ofQuery rfl reachable nofun transmitted.1

theorem exists_request_carries (reachable : IsTarget path) (services : Services)
    (credentials : Credentials) (limits : RateLimits) (params : Params) (call : Call) :
    ∃ request, call.request services credentials limits path params = .ok request ∧
      call.Carries path (call.text services credentials params).toList request := by
  cases call with
  | publicGet => exact ⟨_, rfl, carries_get reachable rfl _⟩
  | asyncPublicGet => exact ⟨_, rfl, carries_get reachable rfl _⟩
  | signed method =>
    obtain ⟨request, built, transmitted⟩ :=
      exists_request method services credentials limits path params
    exact ⟨request, built, carries_signed reachable built transmitted⟩

end Payload

section Received

variable {services : Services} {credentials : Credentials} {params : Params}

/-- What is received of a text yields no more than its pairs, and all of them only if it is
received whole. -/
theorem formSize_received (call : Call) (entries : List (String × String)) :
    formSize (decodeForm (call.received (joinPairs entries).toList)) ≤ formSize entries ∧
      (formSize entries ≤ formSize (decodeForm (call.received (joinPairs entries).toList)) →
        call.received (joinPairs entries).toList = (joinPairs entries).toList) := by
  unfold Call.received
  split
  · cases entries with
    | nil => exact ⟨Nat.le_refl _, fun _ => rfl⟩
    | cons entry entries =>
      rw [joinPairs_cons, ← formPair_eq_pairText]
      exact formSize_takeWhile (by decide) (by decide) entry entries
  · rw [decodeForm_joinPairs]
    exact ⟨formSize_flatMap_le entries, fun _ => rfl⟩

def VisibleEntry (entry : String × String) : Prop := Visible entry.1 ∧ Visible entry.2

theorem visible_pairText_iff {entry : String × String} :
    Visible (pairText entry) ↔ VisibleEntry entry := by
  have equals : isTargetChar '=' = true := by decide
  simp [Visible, VisibleEntry, pairText, or_imp, forall_and, equals]

theorem visible_joinPairs_iff {entries : List (String × String)} :
    Visible (joinPairs entries) ↔ ∀ entry ∈ entries, VisibleEntry entry := by
  simp only [← visible_pairText_iff]
  cases entries with
  | nil => exact iff_of_true nofun nofun
  | cons first rest =>
    unfold Visible
    rw [joinPairs_cons, trailText, List.forall_mem_cons]
    constructor
    · intro visible
      refine ⟨fun char inside => visible char (List.mem_append_left _ inside), ?_⟩
      intro entry own char inside
      refine visible char (List.mem_append_right _ (List.mem_flatMap.mpr ⟨entry, own, ?_⟩))
      exact List.mem_cons_of_mem _ inside
    · rintro ⟨front, others⟩ char member
      rcases List.mem_append.mp member with early | later
      · exact front char early
      · obtain ⟨entry, own, written⟩ := List.mem_flatMap.mp later
        rcases List.mem_cons.mp written with rfl | inside
        · decide
        · exact others entry own char inside

/-- A text is received whole exactly if the call does not care or the text is visible. -/
theorem received_eq_iff (call : Call) (text : String) :
    call.received text.toList = text.toList ↔ (call.inTarget = true → Visible text) := by
  unfold Call.received
  split
  · rename_i inTarget
    rw [List.takeWhile_eq_self_iff]
    exact ⟨fun visible _ => visible, fun visible => visible inTarget⟩
  · rename_i inBody
    exact iff_of_true rfl fun inTarget => absurd inTarget inBody

theorem Call.legible_iff {call : Call} {entry : String × String} :
    call.Legible entry ↔ Transparent entry ∧ (call.inTarget = true → VisibleEntry entry) := by
  unfold Call.Legible Call.Reads Transparent VisibleEntry
  constructor
  · rintro ⟨uncut, ⟨keyPlain, keyVisible⟩, valuePlain, valueVisible⟩
    exact ⟨⟨uncut, keyPlain, valuePlain⟩, fun sent => ⟨keyVisible sent, valueVisible sent⟩⟩
  · rintro ⟨⟨uncut, keyPlain, valuePlain⟩, visible⟩
    exact ⟨uncut, ⟨keyPlain, fun sent => (visible sent).1⟩, valuePlain,
      fun sent => (visible sent).2⟩

end Received

end Bintrade.Rest
