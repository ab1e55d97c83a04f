import Bintrade.Rest.Client

/-! What a signature covers. The parameters are written once to be signed and once
to be sent, each time in the order in which the map is iterated then. -/

namespace Bintrade.Rest

open Bintrade.System Bintrade.Core Bintrade.Auth

/-- The entries of a map in a given order of its keys. -/
def entriesAlong (order : List String) (value : String → String) : List (String × String) :=
  order.map fun key => (key, value key)

/-- Everything up to the value of a key that comes after some others. -/
theorem joinPairs_upTo (before : List String) (key : String) (after : List String)
    (value : String → String) :
    (joinPairs (entriesAlong (before ++ key :: after) value)).toList =
      (leadText (entriesAlong before value) ++ key.toList ++ ['=']) ++
        ((value key).toList ++ trailText (entriesAlong after value)) := by
  rw [entriesAlong, List.map_append, List.map_cons, joinPairs_middle]
  simp [pairText, entriesAlong]

theorem entriesAlong_update_of_not_mem {order : List String} {key : String} (absent : key ∉ order)
    (value : String → String) (text : String) :
    entriesAlong order (Function.update value key text) = entriesAlong order value :=
  UnorderedMap.map_update_of_not_mem absent

theorem leadText_append (first second : List (String × String)) :
    leadText (first ++ second) = leadText first ++ leadText second :=
  List.flatMap_append

/-- Two texts that start alike up to different lengths and then go on with the same
character cannot do so for two different characters. -/
theorem false_of_two_continuations {short long : List Char} {x y : Char} {a b c d : List Char}
    (shorter : short.length < long.length) (different : x ≠ y)
    (firstText : short ++ x :: a = long ++ b) (secondText : short ++ y :: c = long ++ d) :
    False := by
  have atX : long[short.length]? = some x := by
    rw [← List.getElem?_append_left shorter, ← firstText]
    simp
  have atY : long[short.length]? = some y := by
    rw [← List.getElem?_append_left shorter, ← secondText]
    simp
  rw [atX] at atY
  exact different (Option.some.inj atY)

/-- Two different orders of the same keys are told apart by a value of some key. -/
theorem exists_distinguishing_key {first second : List String} (distinct : first.Nodup)
    (same : first.Perm second) (different : first ≠ second) :
    ∃ key ∈ first, ∀ value : String → String, ¬ (
      joinPairs (entriesAlong first (Function.update value key "1")) =
        joinPairs (entriesAlong second (Function.update value key "1")) ∧
      joinPairs (entriesAlong first (Function.update value key "2")) =
        joinPairs (entriesAlong second (Function.update value key "2"))) := by
  obtain ⟨common, key, rest, other, between, after, rfl, rfl, fresh, apart, skipped⟩ :=
    exists_divergence distinct same different
  refine ⟨key, by simp, ?_⟩
  rintro value ⟨ones, twos⟩
  have late : key ∉ common ++ other :: between := by
    simp [fresh, apart, skipped]
  have regroup : common ++ other :: (between ++ key :: after) =
      (common ++ other :: between) ++ key :: after := by
    simp
  rw [regroup] at ones twos
  have texts {text : String}
      (equal : joinPairs (entriesAlong (common ++ key :: rest) (Function.update value key text)) =
        joinPairs (entriesAlong ((common ++ other :: between) ++ key :: after)
          (Function.update value key text))) :
      (leadText (entriesAlong common value) ++ key.toList ++ ['=']) ++
          (text.toList ++ trailText (entriesAlong rest (Function.update value key text))) =
        (leadText (entriesAlong (common ++ other :: between) value) ++ key.toList ++ ['=']) ++
          (text.toList ++ trailText (entriesAlong after (Function.update value key text))) := by
    have lists := congrArg String.toList equal
    rw [joinPairs_upTo, joinPairs_upTo, entriesAlong_update_of_not_mem fresh,
      entriesAlong_update_of_not_mem late, Function.update_self] at lists
    exact lists
  refine false_of_two_continuations ?_ (by decide : ('1' : Char) ≠ '2') (texts ones) (texts twos)
  have longer : 0 < (leadText (entriesAlong (other :: between) value)).length := by
    rw [entriesAlong, List.map_cons, leadText, List.flatMap_cons, List.length_append,
      List.length_append, List.length_singleton]
    omega
  have split : leadText (entriesAlong (common ++ other :: between) value) =
      leadText (entriesAlong common value) ++ leadText (entriesAlong (other :: between) value) := by
    rw [← leadText_append]
    simp [entriesAlong]
  rw [split]
  simp only [List.length_append, List.length_cons, List.length_nil]
  omega

/-- The signed methods of the client. -/
inductive SignedMethod where
  | get
  | post
  | delete
  | asyncGet
  | asyncPost
  | asyncDelete
  deriving DecidableEq

namespace SignedMethod

def request (services : Services) (client : Client) (path : String) (params : Params) :
    SignedMethod → Except Exception HttpRequest
  | .get => signedGetRequest services client path params
  | .post => signedPostRequest services client path params
  | .delete => signedDeleteRequest services client path params
  | .asyncGet => asyncSignedGetRequest services client path params
  | .asyncPost => asyncSignedPostRequest services client path params
  | .asyncDelete => asyncSignedDeleteRequest services client path params

/-- The map whose iteration writes the query string or the form body: a copy of the
signed map for `GET` and `DELETE`, the signed map itself for `POST`. -/
def sent (layouts : Layouts) (signed : Params) : SignedMethod → Params
  | .post | .asyncPost => signed
  | .get | .delete | .asyncGet | .asyncDelete => signed.copy layouts.copied

end SignedMethod

/-- The request transmits the payload, as its form body or as its query string. -/
def HttpRequest.Transmits (request : HttpRequest) (path payload : String) : Prop :=
  match request.verb with
  | .post => request.target = path ∧ request.body = payload
  | _ => request.target = path ++ "?" ++ payload ∧ request.body = ""

/-- The text passed to HMAC is the transmitted one without its `signature` pair and
without one of the separators next to it. -/
def SignedMethod.Covers (method : SignedMethod) (services : Services) (credentials : Credentials)
    (limits : RateLimits) (path : String) (params : Params) : Prop :=
  let signed :=
    signParameters services.hmac credentials services.layouts services.clock params
  ∃ request before signature after,
    method.request services ⟨some credentials, limits⟩ path params = .ok request ∧
    (method.sent services.layouts signed).entries = before ++ ("signature", signature) :: after ∧
    request.Transmits path (joinPairs (before ++ ("signature", signature) :: after)) ∧
    signedQuery services.layouts services.clock params = joinPairs (before ++ after)

/-- The order in which the parameters are written to be signed. -/
def signedOrder (layouts : Layouts) (keys : List String) : List String :=
  layouts.stamped.arrange ("timestamp" :: keys)

/-- The order in which the signed parameters are written to be sent. -/
def SignedMethod.sentOrder (layouts : Layouts) (keys : List String) : SignedMethod → List String
  | .post | .asyncPost => layouts.signed.arrange ("signature" :: signedOrder layouts keys)
  | .get | .delete | .asyncGet | .asyncDelete =>
    layouts.copied.arrange (layouts.signed.arrange ("signature" :: signedOrder layouts keys))

section Coverage

variable {method : SignedMethod} {layouts : Layouts} {keys : List String}

theorem signedOrder_perm : (signedOrder layouts keys).Perm ("timestamp" :: keys) :=
  layouts.stamped.perm _

theorem sentOrder_perm :
    (method.sentOrder layouts keys).Perm ("signature" :: signedOrder layouts keys) := by
  cases method with
  | post | asyncPost => exact layouts.signed.perm _
  | get | delete | asyncGet | asyncDelete =>
    exact (layouts.copied.perm _).trans (layouts.signed.perm _)

theorem signedOrder_nodup (distinct : keys.Nodup) (unstamped : "timestamp" ∉ keys) :
    (signedOrder layouts keys).Nodup :=
  signedOrder_perm.nodup_iff.mpr (List.nodup_cons.mpr ⟨unstamped, distinct⟩)

theorem signature_not_mem_signedOrder (unsigned : "signature" ∉ keys) :
    "signature" ∉ signedOrder layouts keys := by
  rw [signedOrder_perm.mem_iff]
  simp [unsigned]

variable {services : Services} {credentials : Credentials} {limits : RateLimits} {path : String}
  {params : Params}

/-- The values of the signed text: those of the caller, and the time stamp. -/
def signedValue (clock : Int) (params : Params) : String → String :=
  Function.update params.value "timestamp" (toString clock)

theorem order_stampedParameters (unstamped : "timestamp" ∉ params.order) (clock : Int) :
    (stampedParameters layouts clock params).order = signedOrder layouts params.order :=
  UnorderedMap.order_assign unstamped

theorem signedQuery_eq (unstamped : "timestamp" ∉ params.order) (clock : Int) :
    signedQuery layouts clock params =
      joinPairs (entriesAlong (signedOrder layouts params.order) (signedValue clock params)) := by
  rw [signedQuery, UnorderedMap.entries, order_stampedParameters unstamped]
  rfl

theorem entries_sent (method : SignedMethod) (layouts : Layouts) (hmac : Hmac)
    (credentials : Credentials) (clock : Int) (unstamped : "timestamp" ∉ params.order)
    (unsigned : "signature" ∉ params.order) :
    (method.sent layouts (signParameters hmac credentials layouts clock params)).entries =
      entriesAlong (method.sentOrder layouts params.order)
        (Function.update (signedValue clock params) "signature"
          (sign hmac credentials (signedQuery layouts clock params))) := by
  have fresh : "signature" ∉ (stampedParameters layouts clock params).order := by
    rw [order_stampedParameters unstamped]
    exact signature_not_mem_signedOrder unsigned
  have order : (signParameters hmac credentials layouts clock params).order =
      layouts.signed.arrange ("signature" :: signedOrder layouts params.order) := by
    rw [signParameters, UnorderedMap.order_assign fresh, order_stampedParameters unstamped]
  cases method with
  | post | asyncPost =>
    rw [SignedMethod.sent, UnorderedMap.entries, order]
    rfl
  | get | delete | asyncGet | asyncDelete =>
    rw [SignedMethod.sent, UnorderedMap.entries_copy, order]
    rfl

theorem targetWith_query {sent : Params} (nonempty : sent.order ≠ []) :
    targetWith path (buildQueryString sent) = path ++ "?" ++ joinPairs sent.entries := by
  obtain ⟨key, rest, order⟩ := List.exists_cons_of_ne_nil nonempty
  have written : (joinPairs sent.entries).isEmpty = false := by
    apply Bool.eq_false_iff.mpr
    intro empty
    have nothing := congrArg String.toList (String.isEmpty_iff.mp empty)
    rw [UnorderedMap.entries, order, List.map_cons, joinPairs_cons] at nothing
    exact pairText_ne_empty _ (List.append_eq_nil_iff.mp nothing).1
  have query : buildQueryString sent = joinPairs sent.entries := by
    rw [buildQueryString, order]
    rfl
  rw [targetWith, query, written]
  rfl

theorem signed_copy_nonempty {hmac : Hmac} {clock : Int} :
    ((signParameters hmac credentials layouts clock params).copy layouts.copied).order ≠ [] := by
  apply List.ne_nil_of_mem
  rw [UnorderedMap.mem_order_copy]
  exact UnorderedMap.mem_order_assign.mpr (.inl rfl)

/-- Every method transmits the entries of the map it sends. -/
theorem exists_request (method : SignedMethod) (services : Services) (credentials : Credentials)
    (limits : RateLimits) (path : String) (params : Params) :
    ∃ request, method.request services ⟨some credentials, limits⟩ path params = .ok request ∧
      request.Transmits path (joinPairs (method.sent services.layouts (signParameters services.hmac
        credentials services.layouts services.clock params)).entries) := by
  cases method with
  | post | asyncPost => exact ⟨_, rfl, rfl, rfl⟩
  | get | delete | asyncGet | asyncDelete =>
    exact ⟨_, rfl, targetWith_query signed_copy_nonempty, rfl⟩

theorem eraseP_entriesAlong (order : List String) (value : String → String) :
    (entriesAlong order value).eraseP (fun entry => "signature" == entry.1) =
      entriesAlong (order.erase "signature") value := by
  rw [entriesAlong, List.eraseP_map, List.erase_eq_eraseP]
  rfl

theorem eraseP_split {before after : List (String × String)} {signature : String}
    (distinct : ((before ++ ("signature", signature) :: after).map Prod.fst).Nodup) :
    (before ++ ("signature", signature) :: after).eraseP (fun entry => "signature" == entry.1) =
      before ++ after := by
  have absent : ∀ entry ∈ before, ¬ ("signature" == entry.1) = true := by
    intro entry member same
    rw [List.map_append, List.map_cons] at distinct
    have fresh := (List.nodup_cons.mp (List.nodup_middle.mp distinct)).1
    have found : entry.1 ∈ before.map Prod.fst := List.mem_map_of_mem member
    rw [← beq_iff_eq.mp same] at found
    exact fresh (List.mem_append_left _ found)
  rw [List.eraseP_append_right _ absent, List.eraseP_cons_of_pos rfl]

/-- One request is covered exactly if both orders write the same text. -/
theorem covers_iff (unstamped : "timestamp" ∉ params.order)
    (unsigned : "signature" ∉ params.order) :
    method.Covers services credentials limits path params ↔
      joinPairs (entriesAlong (signedOrder services.layouts params.order)
          (signedValue services.clock params)) =
        joinPairs (entriesAlong ((method.sentOrder services.layouts params.order).erase "signature")
          (signedValue services.clock params)) := by
  have sentDistinct : (method.sentOrder services.layouts params.order).Nodup :=
    sentOrder_perm.nodup_iff.mpr (List.nodup_cons.mpr
      ⟨signature_not_mem_signedOrder unsigned, signedOrder_nodup params.distinct unstamped⟩)
  have remaining (signature : String) :
      (entriesAlong (method.sentOrder services.layouts params.order)
        (Function.update (signedValue services.clock params) "signature" signature)).eraseP
          (fun entry => "signature" == entry.1) =
        entriesAlong ((method.sentOrder services.layouts params.order).erase "signature")
          (signedValue services.clock params) := by
    rw [eraseP_entriesAlong, entriesAlong_update_of_not_mem sentDistinct.not_mem_erase]
  have keys (value : String → String) :
      ((entriesAlong (method.sentOrder services.layouts params.order) value).map
        Prod.fst).Nodup := by
    simpa [entriesAlong, Function.comp_def] using sentDistinct
  unfold SignedMethod.Covers
  simp only [entries_sent method services.layouts services.hmac credentials services.clock
    unstamped unsigned, signedQuery_eq unstamped services.clock]
  constructor
  · rintro ⟨request, before, signature, after, -, split, -, covered⟩
    rw [covered, ← remaining, split, eraseP_split (by rw [← split]; exact keys _)]
  · intro agree
    obtain ⟨request, built, transmitted⟩ :=
      exists_request method services credentials limits path params
    rw [entries_sent method services.layouts services.hmac credentials services.clock unstamped
      unsigned, signedQuery_eq unstamped services.clock] at transmitted
    have present : "signature" ∈ method.sentOrder services.layouts params.order :=
      sentOrder_perm.mem_iff.mpr List.mem_cons_self
    obtain ⟨early, late, order⟩ := List.append_of_mem present
    have split (value : String → String) :
        entriesAlong (method.sentOrder services.layouts params.order) value =
          entriesAlong early value ++
            ("signature", value "signature") :: entriesAlong late value := by
      rw [order]
      simp [entriesAlong]
    refine ⟨request, _, _, _, built, split _, ?_, ?_⟩
    · rw [← split]
      exact transmitted
    · rw [agree, ← eraseP_split (by rw [← split]; exact keys _), ← split, remaining]

/-- Every key can be given any number as its value in the signed text: the time stamp
by the clock, the others by the caller. -/
theorem exists_signedValue (distinct : keys.Nodup) (key : String) :
    ∃ value : String → String, ∀ number : Int,
      ∃ (clock : Int) (params : Params), params.order = keys ∧
        signedValue clock params = Function.update value key (toString number) := by
  by_cases stamp : key = "timestamp"
  · refine ⟨fun _ => "", fun number => ⟨number, ⟨keys, distinct, fun _ => ""⟩, rfl, ?_⟩⟩
    rw [stamp]
    rfl
  · refine ⟨Function.update (fun _ => "") "timestamp" "0", fun number =>
      ⟨0, ⟨keys, distinct, Function.update (fun _ => "") key (toString number)⟩, rfl, ?_⟩⟩
    exact Function.update_comm stamp _ _ _

end Coverage

/-- Services that reach no network. -/
def offline (layouts : Layouts) (clock : Int) : Services where
  hmac _ _ := []
  layouts := layouts
  clock := clock
  parse _ := .error .parseError
  stoi _ := .error .invalidArgument
  execute _ := .error (.network "offline")

/-- Whatever its parameters, a signed request is covered by its signature exactly if
the order in which it is sent, with `signature` left out, is the order in which it
was signed. -/
theorem signature_covers_sent_iff (method : SignedMethod) (layouts : Layouts) (keys : List String)
    (distinct : keys.Nodup) (unstamped : "timestamp" ∉ keys) (unsigned : "signature" ∉ keys) :
    (∀ (services : Services) (credentials : Credentials) (limits : RateLimits) (path : String)
      (params : Params), services.layouts = layouts → params.order = keys →
        method.Covers services credentials limits path params) ↔
      (method.sentOrder layouts keys).erase "signature" = signedOrder layouts keys := by
  constructor
  · intro covered
    by_contra different
    have same : (signedOrder layouts keys).Perm
        ((method.sentOrder layouts keys).erase "signature") := by
      have erased := (sentOrder_perm : (method.sentOrder layouts keys).Perm _).erase "signature"
      rw [List.erase_cons_head] at erased
      exact erased.symm
    obtain ⟨key, -, told⟩ := exists_distinguishing_key (signedOrder_nodup distinct unstamped)
      same (Ne.symm different)
    obtain ⟨value, choose⟩ := exists_signedValue distinct key
    have equal (number : Int) :
        joinPairs (entriesAlong (signedOrder layouts keys)
            (Function.update value key (toString number))) =
          joinPairs (entriesAlong ((method.sentOrder layouts keys).erase "signature")
            (Function.update value key (toString number))) := by
      obtain ⟨clock, params, rfl, chosen⟩ := choose number
      have one := (covers_iff unstamped unsigned).mp
        (covered (offline layouts clock) ⟨none⟩ ⟨0, 0, 0⟩ "" params rfl rfl)
      rw [← chosen]
      exact one
    exact told value ⟨equal 1, equal 2⟩
  · rintro agree services credentials limits path params rfl rfl
    rw [covers_iff unstamped unsigned, agree]

/-- A library that keeps the order of a map and puts new keys in front: a request
for one symbol is covered. -/
theorem signature_covers_symbol :
    SignedMethod.get.Covers (offline ⟨.keep, .keep, .keep, .keep⟩ 1) ⟨none⟩ ⟨0, 0, 0⟩
      "/api/v3/order" (UnorderedMap.empty.assign .keep "symbol" "BTCUSDT") := by
  have covered := signature_covers_sent_iff .get ⟨.keep, .keep, .keep, .keep⟩ ["symbol"]
    (by decide) (by decide) (by decide)
  exact covered.mpr (by decide) _ _ _ _ _ rfl rfl

/-- A library that turns the order round when it rehashes for `signature`: the text
that was signed is not the one that is sent. -/
theorem rehash_not_covered :
    let services := offline ⟨.keep, .keep, .reverse, .keep⟩ 1
    let params : Params := UnorderedMap.empty.assign .keep "symbol" "BTCUSDT"
    signedQuery services.layouts 1 params = "timestamp=1&symbol=BTCUSDT" ∧
      (signedPostRequest services ⟨some ⟨none⟩, ⟨0, 0, 0⟩⟩ "/api/v3/order" params).map
        HttpRequest.body = .ok "symbol=BTCUSDT&timestamp=1&signature=" ∧
      ¬ SignedMethod.post.Covers services ⟨none⟩ ⟨0, 0, 0⟩ "/api/v3/order" params := by
  refine ⟨by decide, by decide, ?_⟩
  rw [covers_iff (by decide) (by decide)]
  decide

end Bintrade.Rest
