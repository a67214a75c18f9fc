/-
  ApigeeEnvoy.Server.AccessLog — `StreamAccessLogs` and `handleHTTPLogs` (accesslog.go): the
  access-log stream Envoy opens, each HTTP log entry turned into one analytics record and sent.

  A stream is the list of what `srv.Recv()` returns, in order, ending at `io.EOF`. The analytics
  manager answers each `SendRecords` call with an error or nil as a function of the calls made
  before it, so the theorems cover every pattern of send failures. The `*Handler` these
  functions read, and the constant `extAuthzFilterNamespace`, are declared outside these
  sources: they are the fields of `Handler` and `AccessLogServer`. A nil pointer dereference
  is `Exit.panic`; logging is left out.

  Proved, over every stream, every list of entries and every outcome of every send:
  - `handleHTTPLogs_none_iff`, `handleHTTPLogs_ok`: short of a panic, `handleHTTPLogs`
    returns nil exactly when it sent one record per entry that decodes to an API, in order,
    and every send was accepted;
  - `handleHTTPLogs_err`: when it returns an error, that is the error of the first refused
    send, and no entry after it was sent;
  - `streamAccessLogs_err_mem`, `streamAccessLogs_calls`: yet `StreamAccessLogs` returns only
    errors of `Recv`, and hands every HTTP log message to `handleHTTPLogs` in turn whatever
    became of the ones before: the handling error is tested in a scope where it is no longer
    visible, so a refused send is counted under status "error" and the stream goes on
    (`failed_send_is_dropped`).
-/

import ApigeeEnvoy.Config.Spec
import ApigeeEnvoy.Server.Timestamp

namespace ApigeeEnvoy.Server

open ApigeeEnvoy.Config (GoMap)

/-! ## Messages and records -/

/-- `structpb.Value`'s kind; `unset` is a nil kind. -/
inductive Kind where
  | nullValue
  | numberValue (n : Float)
  | stringValue (s : String)
  | boolValue (b : Bool)
  | structValue
  | listValue
  | unset

/-- `structpb.Struct`: its fields in the order `range` visits them. -/
structure Struct where
  fields : List (String × Kind)

structure AccessLogCommon where
  /-- `Metadata.FilterMetadata`; `none` is a nil `Metadata`. -/
  filterMetadata : Option (GoMap Struct)
  startTime : Option Timestamp
  timeToLastRxByte : Option Duration
  timeToFirstUpstreamTxByte : Option Duration
  timeToLastUpstreamTxByte : Option Duration
  timeToFirstUpstreamRxByte : Option Duration
  timeToLastUpstreamRxByte : Option Duration
  timeToFirstDownstreamTxByte : Option Duration
  timeToLastDownstreamTxByte : Option Duration

structure HTTPRequestProperties where
  requestHeaders : GoMap String
  path : String
  /-- `RequestMethod.String()` -/
  requestMethod : String
  userAgent : String
  forwardedFor : String

structure HTTPResponseProperties where
  responseCode : Option Nat

structure HTTPAccessLogEntry where
  commonProperties : Option AccessLogCommon
  request : Option HTTPRequestProperties
  response : Option HTTPResponseProperties

/-- `StreamAccessLogsMessage.LogEntries`. -/
inductive LogEntries where
  | httpLogs (logEntry : List HTTPAccessLogEntry)
  | tcpLogs
  | none

inductive AttributeValue where
  | nil
  | number (n : Float)
  | string (s : String)
  | bool (b : Bool)

structure Attribute where
  name : String
  value : AttributeValue

/-- `analytics.Record`, the fields `handleHTTPLogs` sets. -/
structure Record where
  clientReceivedStartTimestamp : Int
  clientReceivedEndTimestamp : Int
  targetSentStartTimestamp : Int
  targetSentEndTimestamp : Int
  targetReceivedStartTimestamp : Int
  targetReceivedEndTimestamp : Int
  clientSentStartTimestamp : Int
  clientSentEndTimestamp : Int
  apiProxy : String
  requestURI : String
  requestPath : String
  requestVerb : String
  userAgent : String
  responseStatusCode : Int
  gatewaySource : String
  clientIP : String
  attributes : List Attribute

/-- One `analyticsMan.SendRecords(authContext, records)` call. -/
structure Call (AuthContext : Type) where
  authContext : AuthContext
  records : List Record

/-- What the server reads of its `*Handler`. -/
structure Handler (AuthContext : Type) where
  orgName : String
  operationConfigType : String
  appendMetadataHeaders : Bool
  decodeExtAuthzMetadata : List (String × Kind) → String × AuthContext
  decodeMetadataHeaders : GoMap String → String × AuthContext
  /-- `analyticsMan.SendRecords`: its error, given the calls made before this one. -/
  sendRecords : List (Call AuthContext) → Call AuthContext → Option String

structure AccessLogServer (AuthContext : Type) where
  handler : Handler AuthContext
  gatewaySource : String
  /-- the package constant `extAuthzFilterNamespace` -/
  extAuthzFilterNamespace : String

def defaultGatewaySource : String := "envoy"

def managedGatewaySource : String := "configurable"

def datacaptureNamespace : String := "envoy.filters.http.apigee.datacapture"

/-- `Register`, given `product.ProxyOperationConfigType`. -/
def AccessLogServer.register {AuthContext : Type} (handler : Handler AuthContext)
    (extAuthzFilterNamespace proxyOperationConfigType : String) : AccessLogServer AuthContext :=
  ⟨handler, if handler.operationConfigType = proxyOperationConfigType then managedGatewaySource
    else defaultGatewaySource, extAuthzFilterNamespace⟩

/-- How a call ends short of returning nil: it returns `err`, or it panics. -/
inductive Exit where
  | err (err : String)
  | panic
  deriving DecidableEq, Repr

/-- The calls made to `SendRecords` and the increments of `prometheusAnalyticsRequests`. -/
structure St (AuthContext : Type) where
  calls : List (Call AuthContext)
  /-- the labels (org, status) of each increment, in order -/
  requests : List (String × String)

/-- `status := "ok"; if err != nil { status = "error" }` -/
def requestStatus : Option Exit → String
  | none => "ok"
  | some _ => "error"

/-! ## The handler -/

section Model

variable {AuthContext : Type} (a : AccessLogServer AuthContext)

/-- The closure `getMetadata`. -/
def getMetadata (v : HTTPAccessLogEntry) (ns : String) : Option Struct := do
  let props ← v.commonProperties
  let metadata ← props.filterMetadata
  metadata.lookup ns

/-- The API and auth context of an entry: from the ext_authz metadata, else from the request
    headers when the handler appends them; `none` is the `continue` that skips the entry. -/
def decodeEntry (v : HTTPAccessLogEntry) : Option (String × AuthContext) :=
  match getMetadata v a.extAuthzFilterNamespace with
  | some m => some (a.handler.decodeExtAuthzMetadata m.fields)
  | none =>
    if a.handler.appendMetadataHeaders then
      some (a.handler.decodeMetadataHeaders ((v.request.map (·.requestHeaders)).getD ∅))
    else none

/-- One iteration of the loop over the data-capture fields: struct and list values are
    skipped, a null or unset value is kept with a nil value. -/
def fieldAttribute : String × Kind → Option Attribute
  | (k, .numberValue n) => some ⟨k, .number n⟩
  | (k, .stringValue s) => some ⟨k, .string s⟩
  | (k, .boolValue b) => some ⟨k, .bool b⟩
  | (_, .structValue) | (_, .listValue) => none
  | (k, .nullValue) | (k, .unset) => some ⟨k, .nil⟩

def attributes (v : HTTPAccessLogEntry) : List Attribute :=
  match getMetadata v datacaptureNamespace with
  | some m => if 0 < m.fields.length then m.fields.filterMap fieldAttribute else []
  | none => []

/-- The record of an entry for `api`; `none` is the nil pointer dereference of a missing
    `Response`, `Request` or `CommonProperties`. -/
def record (v : HTTPAccessLogEntry) (api : String) : Option Record := do
  let response ← v.response
  let req ← v.request
  let cp ← v.commonProperties
  let add := pbTimestampAddDurationApigee cp.startTime
  pure {
    clientReceivedStartTimestamp := pbTimestampToApigee cp.startTime
    clientReceivedEndTimestamp := add cp.timeToLastRxByte
    targetSentStartTimestamp := add cp.timeToFirstUpstreamTxByte
    targetSentEndTimestamp := add cp.timeToLastUpstreamTxByte
    targetReceivedStartTimestamp := add cp.timeToFirstUpstreamRxByte
    targetReceivedEndTimestamp := add cp.timeToLastUpstreamRxByte
    clientSentStartTimestamp := add cp.timeToFirstDownstreamTxByte
    clientSentEndTimestamp := add cp.timeToLastDownstreamTxByte
    apiProxy := api
    requestURI := req.path
    -- `strings.SplitN(req.Path, "?", 2)[0]`
    requestPath := ⟨req.path.data.takeWhile (· ≠ '?')⟩
    requestVerb := req.requestMethod
    userAgent := req.userAgent
    responseStatusCode := (response.responseCode.getD 0 : Nat)
    gatewaySource := a.gatewaySource
    clientIP := req.forwardedFor
    attributes := attributes v }

/-- `handleHTTPLogs`, from the calls made so far: the calls made by then, and nil (`none`),
    the error of the first refused send, or a panic. -/
def handleHTTPLogs (calls : List (Call AuthContext)) :
    List HTTPAccessLogEntry → List (Call AuthContext) × Option Exit
  | [] => (calls, none)
  | v :: vs =>
    match decodeEntry a v with
    | none => handleHTTPLogs calls vs
    | some (api, authContext) =>
      if api = "" then handleHTTPLogs calls vs
      else match record a v api with
        | none => (calls, some .panic)
        | some r =>
          let c : Call AuthContext := ⟨authContext, [r]⟩
          match a.handler.sendRecords calls c with
          | some err => (calls ++ [c], some (.err err))
          | none => handleHTTPLogs (calls ++ [c]) vs

/-- `StreamAccessLogs` over what `srv.Recv()` returns, in order, the list ending where it
    returns `io.EOF`. -/
def streamAccessLogs (s : St AuthContext) :
    List (Except String LogEntries) → St AuthContext × Option Exit
  | [] => (s, none)
  | .error err :: _ => (s, some (.err err))
  | .ok msg :: rs =>
    -- the `err` of `msg, err := srv.Recv()`, nil past the two checks above
    let err : Option String := none
    match msg with
    | .httpLogs es =>
      -- `if err := a.handleHTTPLogs(msg); err != nil`: this `err` lives in the `if` only
      let (calls, herr) := handleHTTPLogs a s.calls es
      match herr with
      | some .panic => ({ s with calls }, some .panic)
      | some (.err _) | none =>
        let s : St AuthContext := ⟨calls, s.requests ++ [(a.handler.orgName, requestStatus herr)]⟩
        match err with
        | some err => (s, some (.err err))
        | none => streamAccessLogs s rs
    | .tcpLogs | .none => streamAccessLogs s rs

/-- What one iteration of `handleHTTPLogs` does with an entry. -/
inductive EntryStep (AuthContext : Type) where
  | skip
  | panic
  | send (c : Call AuthContext)

def entryStep (v : HTTPAccessLogEntry) : EntryStep AuthContext :=
  match decodeEntry a v with
  | none => .skip
  | some (api, authContext) =>
    if api = "" then .skip
    else match record a v api with
      | none => .panic
      | some r => .send ⟨authContext, [r]⟩

end Model

def EntryStep.call? {AuthContext : Type} : EntryStep AuthContext → Option (Call AuthContext)
  | .send c => some c
  | _ => none

@[simp] theorem EntryStep.call?_send {AuthContext : Type} (c : Call AuthContext) :
    (EntryStep.send c).call? = some c := rfl

@[simp] theorem EntryStep.call?_skip {AuthContext : Type} : (EntryStep.skip : EntryStep AuthContext).call? = none := rfl

/-- Every call of the list, each made after the calls before it, is accepted by `send`. -/
def Accepted {AuthContext : Type} (send : List (Call AuthContext) → Call AuthContext → Option String) :
    List (Call AuthContext) → List (Call AuthContext) → Prop
  | _, [] => True
  | calls, c :: cs => send calls c = none ∧ Accepted send (calls ++ [c]) cs

theorem accepted_append {AuthContext : Type} (send : List (Call AuthContext) → Call AuthContext → Option String)
    (calls xs ys : List (Call AuthContext)) :
    Accepted send calls (xs ++ ys) ↔ Accepted send calls xs ∧ Accepted send (calls ++ xs) ys := by
  induction xs generalizing calls with
  | nil => simp [Accepted]
  | cons x xs ih => simp [Accepted, ih, and_assoc]

/-! ## A sample entry and a flaky analytics manager -/

/-- A request to `petstore`, logged with its ext_authz metadata. -/
def petstoreEntry : HTTPAccessLogEntry :=
  ⟨some ⟨some ((∅ : GoMap Struct).insert "envoy.filters.http.ext_authz" ⟨[]⟩),
      none, none, none, none, none, none, none, none⟩,
    some ⟨∅, "/v1/petstore?id=1", "GET", "curl/7.68.0", "10.0.0.1"⟩, some ⟨some 200⟩⟩

/-- A server whose analytics manager refuses the first call and accepts every later one. -/
def flakyServer : AccessLogServer Unit :=
  ⟨⟨"org", "", false, fun _ => ("petstore", ()), fun _ => ("", ()),
      fun calls _ => if calls.isEmpty then some "unavailable" else none⟩,
    defaultGatewaySource, "envoy.filters.http.ext_authz"⟩

/-! ## One entry, one message -/

section Steps

variable {AuthContext : Type} (a : AccessLogServer AuthContext)

theorem handleHTTPLogs_cons (calls : List (Call AuthContext)) (v : HTTPAccessLogEntry) (vs) :
    handleHTTPLogs a calls (v :: vs) =
      match entryStep a v with
      | .skip => handleHTTPLogs a calls vs
      | .panic => (calls, some .panic)
      | .send c =>
        match a.handler.sendRecords calls c with
        | some err => (calls ++ [c], some (.err err))
        | none => handleHTTPLogs a (calls ++ [c]) vs := by
  simp only [handleHTTPLogs, entryStep]
  split
  · rfl
  · split
    · rfl
    · split <;> rfl

/-- A message's handling ends in a panic, or the stream goes on with the next message, its
    handling error counted and dropped. -/
theorem streamAccessLogs_httpLogs (s : St AuthContext) (es rs) :
    streamAccessLogs a s (.ok (.httpLogs es) :: rs) =
      if (handleHTTPLogs a s.calls es).2 = some .panic then
        ({ s with calls := (handleHTTPLogs a s.calls es).1 }, some .panic)
      else streamAccessLogs a ⟨(handleHTTPLogs a s.calls es).1,
        s.requests ++ [(a.handler.orgName, requestStatus (handleHTTPLogs a s.calls es).2)]⟩ rs := by
  simp only [streamAccessLogs]
  rcases handleHTTPLogs a s.calls es with ⟨calls, _ | _ | _⟩ <;> rfl

/-! ## Whole messages, whole streams -/

/-- The calls of `handleHTTPLogs` extend those made before with a sublist of its entries'
    calls. -/
theorem handleHTTPLogs_sent (calls : List (Call AuthContext)) (es : List HTTPAccessLogEntry) :
    ∃ sent, (handleHTTPLogs a calls es).1 = calls ++ sent ∧
      sent.Sublist (es.filterMap (entryStep a · |>.call?)) := by
  induction es generalizing calls with
  | nil => exact ⟨[], by simp [handleHTTPLogs]⟩
  | cons v vs ih =>
    rw [handleHTTPLogs_cons]
    cases hs : entryStep a v with
    | skip =>
      obtain ⟨sent, h1, h2⟩ := ih calls
      exact ⟨sent, h1, by simpa [hs] using h2⟩
    | panic => exact ⟨[], by simp, List.nil_sublist _⟩
    | send c =>
      dsimp only
      cases a.handler.sendRecords calls c with
      | some err => exact ⟨[c], rfl, by simp [hs]⟩
      | none =>
        obtain ⟨sent, h1, h2⟩ := ih (calls ++ [c])
        exact ⟨c :: sent, by simp [h1], by simpa [hs] using h2⟩

/-- Sends that were all accepted leave `handleHTTPLogs` nothing to return but nil or a panic. -/
theorem handleHTTPLogs_none_of_accepted (calls : List (Call AuthContext)) (es : List HTTPAccessLogEntry)
    (hp : (handleHTTPLogs a calls es).2 ≠ some .panic) (sent : List (Call AuthContext))
    (h1 : (handleHTTPLogs a calls es).1 = calls ++ sent) (h2 : Accepted a.handler.sendRecords calls sent) :
    (handleHTTPLogs a calls es).2 = none := by
  induction es generalizing calls sent with
  | nil => rfl
  | cons v vs ih =>
    rw [handleHTTPLogs_cons] at hp h1 ⊢
    cases hs : entryStep a v with
    | skip => simp only [hs] at hp h1 ⊢; exact ih calls hp sent h1 h2
    | panic => simp [hs] at hp
    | send c =>
      simp only [hs] at hp h1 ⊢
      cases hc : a.handler.sendRecords calls c with
      | some err =>
        simp only [hc, List.append_cancel_left_eq] at h1
        simp [← h1, Accepted, hc] at h2
      | none =>
        simp only [hc] at hp h1 ⊢
        obtain ⟨rest, hrest, -⟩ := handleHTTPLogs_sent a (calls ++ [c]) vs
        rw [hrest, List.append_assoc, List.append_cancel_left_eq] at h1
        exact ih (calls ++ [c]) hp rest hrest (by simpa [← h1, Accepted, hc] using h2)

/-- Short of a panic, `handleHTTPLogs` returns nil exactly when it sent, in order, one call for
    each entry that decodes to an API and every one of them was accepted. -/
theorem handleHTTPLogs_none_iff (calls : List (Call AuthContext)) (es : List HTTPAccessLogEntry)
    (hp : (handleHTTPLogs a calls es).2 ≠ some .panic) :
    (handleHTTPLogs a calls es).2 = none ↔
      (handleHTTPLogs a calls es).1 = calls ++ es.filterMap (entryStep a · |>.call?) ∧
        Accepted a.handler.sendRecords calls (es.filterMap (entryStep a · |>.call?)) := by
  refine ⟨fun h => ?_, fun ⟨h1, h2⟩ => handleHTTPLogs_none_of_accepted a calls es hp _ h1 h2⟩
  clear hp
  induction es generalizing calls with
  | nil => simp [handleHTTPLogs, Accepted]
  | cons v vs ih =>
    rw [handleHTTPLogs_cons] at h ⊢
    cases hs : entryStep a v with
    | skip => simpa [hs] using ih calls (by simpa [hs] using h)
    | panic => simp [hs] at h
    | send c =>
      cases hc : a.handler.sendRecords calls c with
      | some err => simp [hs, hc] at h
      | none =>
        obtain ⟨h1, h2⟩ := ih (calls ++ [c]) (by simpa [hs, hc] using h)
        simp [hs, hc, h1, h2, Accepted]

/-- `handleHTTPLogs` returning nil has sent, in order, one call for each entry that decodes
    to an API, and every one of them was accepted. -/
theorem handleHTTPLogs_ok (calls : List (Call AuthContext)) (es : List HTTPAccessLogEntry)
    (h : (handleHTTPLogs a calls es).2 = none) :
    (handleHTTPLogs a calls es).1 = calls ++ es.filterMap (entryStep a · |>.call?) ∧
      Accepted a.handler.sendRecords calls (es.filterMap (entryStep a · |>.call?)) :=
  (handleHTTPLogs_none_iff a calls es (by simp [h])).mp h

theorem handleHTTPLogs_ok_flaky :
    (handleHTTPLogs flakyServer [⟨(), []⟩] [petstoreEntry]).2 = none ∧
      ((handleHTTPLogs flakyServer [⟨(), []⟩] [petstoreEntry]).1 =
          [⟨(), []⟩] ++ [petstoreEntry].filterMap (entryStep flakyServer · |>.call?) ∧
        Accepted flakyServer.handler.sendRecords [⟨(), []⟩] ([petstoreEntry].filterMap (entryStep flakyServer · |>.call?))) :=
  ⟨rfl, handleHTTPLogs_ok flakyServer _ _ rfl⟩

/-- An error of `handleHTTPLogs` is the error of a refused send, made after every entry
    before it was handled with nil, and no entry after it is looked at. -/
theorem handleHTTPLogs_err (calls : List (Call AuthContext)) (es : List HTTPAccessLogEntry) (err : String)
    (h : (handleHTTPLogs a calls es).2 = some (.err err)) :
    ∃ pre v post c, es = pre ++ v :: post ∧ (handleHTTPLogs a calls pre).2 = none ∧
      entryStep a v = .send c ∧ a.handler.sendRecords (handleHTTPLogs a calls pre).1 c = some err ∧
      (handleHTTPLogs a calls es).1 = (handleHTTPLogs a calls pre).1 ++ [c] := by
  induction es generalizing calls with
  | nil => simp [handleHTTPLogs] at h
  | cons v vs ih =>
    rw [handleHTTPLogs_cons] at h ⊢
    cases hs : entryStep a v with
    | skip =>
      obtain ⟨pre, w, post, c, rfl, h1, h2, h3, h4⟩ := ih calls (by simpa [hs] using h)
      refine ⟨v :: pre, w, post, c, rfl, ?_⟩
      simpa [handleHTTPLogs_cons, hs] using ⟨h1, h2, h3, h4⟩
    | panic => simp [hs] at h
    | send c =>
      cases hc : a.handler.sendRecords calls c with
      | some e =>
        simp only [hs, hc, Option.some.injEq, Exit.err.injEq] at h ⊢
        exact ⟨[], v, vs, c, rfl, rfl, hs, h ▸ hc, rfl⟩
      | none =>
        obtain ⟨pre, w, post, c', rfl, h1, h2, h3, h4⟩ := ih (calls ++ [c]) (by simpa [hs, hc] using h)
        refine ⟨v :: pre, w, post, c', rfl, ?_⟩
        simpa [handleHTTPLogs_cons, hs, hc] using ⟨h1, h2, h3, h4⟩

theorem handleHTTPLogs_err_flaky :
    (handleHTTPLogs flakyServer [] [petstoreEntry, petstoreEntry]).2 = some (.err "unavailable") ∧
      ∃ pre v post c, [petstoreEntry, petstoreEntry] = pre ++ v :: post ∧
        (handleHTTPLogs flakyServer [] pre).2 = none ∧ entryStep flakyServer v = .send c ∧
        flakyServer.handler.sendRecords (handleHTTPLogs flakyServer [] pre).1 c = some "unavailable" ∧
        (handleHTTPLogs flakyServer [] [petstoreEntry, petstoreEntry]).1 = (handleHTTPLogs flakyServer [] pre).1 ++ [c] :=
  ⟨rfl, handleHTTPLogs_err flakyServer _ _ _ rfl⟩

/-- The HTTP log messages of a stream, in order. -/
def httpLogsOf : List (Except String LogEntries) → List (List HTTPAccessLogEntry) :=
  List.filterMap fun
    | .ok (.httpLogs es) => some es
    | _ => none

/-- A stream that ends at `io.EOF` hands every HTTP log message to `handleHTTPLogs` in turn,
    from the calls made so far, whatever became of the messages before it. -/
theorem streamAccessLogs_calls (s : St AuthContext) (rs : List (Except String LogEntries))
    (h : (streamAccessLogs a s rs).2 = none) :
    (streamAccessLogs a s rs).1.calls =
      (httpLogsOf rs).foldl (fun calls es => (handleHTTPLogs a calls es).1) s.calls := by
  induction rs generalizing s with
  | nil => rfl
  | cons r rs ih =>
    rcases r with e | (es | _ | _)
    · simp [streamAccessLogs] at h
    · rw [streamAccessLogs_httpLogs] at h ⊢
      split
      · simp_all
      · exact ih _ (by simpa [*] using h)
    all_goals exact ih s h

theorem streamAccessLogs_calls_flaky :
    (streamAccessLogs flakyServer ⟨[], []⟩ [.ok (.httpLogs [petstoreEntry]), .ok (.httpLogs [petstoreEntry])]).2 = none ∧
      (streamAccessLogs flakyServer ⟨[], []⟩ [.ok (.httpLogs [petstoreEntry]), .ok (.httpLogs [petstoreEntry])]).1.calls =
        (httpLogsOf [.ok (.httpLogs [petstoreEntry]), .ok (.httpLogs [petstoreEntry])]).foldl
          (fun calls es => (handleHTTPLogs flakyServer calls es).1) [] :=
  ⟨rfl, streamAccessLogs_calls flakyServer ⟨[], []⟩ _ rfl⟩

/-- `StreamAccessLogs` returns no error but one that `Recv` returned: a refused send, which
    ends `handleHTTPLogs` with its error, never ends the stream. -/
theorem streamAccessLogs_err_mem (s : St AuthContext) (rs : List (Except String LogEntries)) (err : String)
    (h : (streamAccessLogs a s rs).2 = some (.err err)) : .error err ∈ rs := by
  induction rs generalizing s with
  | nil => simp [streamAccessLogs] at h
  | cons r rs ih =>
    rcases r with e | (es | _ | _)
    · simp only [streamAccessLogs, Option.some.injEq, Exit.err.injEq] at h
      simp [h]
    · rw [streamAccessLogs_httpLogs] at h
      split at h
      · simp at h
      · exact List.mem_cons_of_mem _ (ih _ h)
    all_goals exact List.mem_cons_of_mem _ (ih s h)

theorem streamAccessLogs_err_mem_reset :
    (streamAccessLogs flakyServer ⟨[], []⟩ [.ok (.httpLogs [petstoreEntry]), .error "reset"]).2 = some (.err "reset") ∧
      (.error "reset" : Except String LogEntries) ∈ [.ok (.httpLogs [petstoreEntry]), .error "reset"] :=
  ⟨rfl, streamAccessLogs_err_mem flakyServer ⟨[], []⟩ _ _ rfl⟩

/-- Two messages of one entry each, the first send refused: the stream ends with nil, the
    first message counted under "error", and the second one still received and sent. -/
theorem failed_send_is_dropped :
    (handleHTTPLogs flakyServer [] [petstoreEntry]).2 = some (.err "unavailable") ∧
    (streamAccessLogs flakyServer ⟨[], []⟩ [.ok (.httpLogs [petstoreEntry]), .ok (.httpLogs [petstoreEntry])]).2 = none ∧
    (streamAccessLogs flakyServer ⟨[], []⟩
      [.ok (.httpLogs [petstoreEntry]), .ok (.httpLogs [petstoreEntry])]).1.requests = [("org", "error"), ("org", "ok")] ∧
    (streamAccessLogs flakyServer ⟨[], []⟩
      [.ok (.httpLogs [petstoreEntry]), .ok (.httpLogs [petstoreEntry])]).1.calls.length = 2 :=
  ⟨rfl, rfl, rfl, rfl⟩

end Steps

end ApigeeEnvoy.Server
