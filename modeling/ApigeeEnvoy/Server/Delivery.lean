/-
  ApigeeEnvoy.Server.Delivery — what of a stream reaches the analytics manager, and when the
  access-log server crashes, over every stream and every outcome of every `SendRecords` call.

  `receivedHTTPLogs` are the HTTP log messages `Recv` returns before it returns an error, and
  `receivedEntries` their entries; each entry is skipped (no ext_authz metadata and no header
  fallback, or an empty API), sent as one record, or dereferences a nil pointer (`entryStep`).

  Proved:
  - `streamAccessLogs_sent`: the calls a stream makes are appended to those made before, and
    they are a sublist of the calls of its received entries: no record is invented, none is
    sent twice, and they go out in the order received, whatever the sends answer and however
    the stream ends.
  - `streamAccessLogs_records`: every call a stream of the registered server makes carries one
    record, which names a non-empty API proxy and the gateway source `Register` chose.
  - `streamAccessLogs_no_error_iff_delivered`: short of a panic, the org's "error" counter of
    `prometheusAnalyticsRequests` stays put exactly when every received record was sent and
    accepted: a dropped handling error is still visible in the metric.
  - `streamAccessLogs_counted`: short of a panic, the counter is incremented once per HTTP log
    message received, under the handler's org.
  - `handleHTTPLogs_panic`: `handleHTTPLogs` panics exactly when the first entry it reaches
    past the accepted ones decodes to an API and lacks its common properties, request or
    response. `getMetadata` guards a nil `CommonProperties`, and the header fallback then
    decodes an API anyway: the record's `cp.StartTime` is the nil dereference.
  - `streamAccessLogs_no_panic`: a stream whose received entries all carry the three never
    panics.
-/

import ApigeeEnvoy.Server.AccessLog

namespace ApigeeEnvoy.Server

/-- The HTTP log messages `Recv` returns before it returns an error. -/
def receivedHTTPLogs : List (Except String LogEntries) → List (List HTTPAccessLogEntry)
  | [] => []
  | .error _ :: _ => []
  | .ok (.httpLogs es) :: rs => es :: receivedHTTPLogs rs
  | .ok .tcpLogs :: rs | .ok .none :: rs => receivedHTTPLogs rs

/-- Their entries. -/
def receivedEntries (rs : List (Except String LogEntries)) : List HTTPAccessLogEntry :=
  (receivedHTTPLogs rs).flatten

section

variable {AuthContext : Type} (a : AccessLogServer AuthContext)

/-! ## One entry -/

theorem record_eq_none (v : HTTPAccessLogEntry) (api : String) :
    record a v api = none ↔ v.response = none ∨ v.request = none ∨ v.commonProperties = none := by
  rcases v with ⟨_ | cp, _ | req, _ | resp⟩ <;> simp [record]

theorem entryStep_eq_panic (v : HTTPAccessLogEntry) :
    entryStep a v = .panic ↔ (∃ api authContext, decodeEntry a v = some (api, authContext) ∧ api ≠ "") ∧
      (v.response = none ∨ v.request = none ∨ v.commonProperties = none) := by
  unfold entryStep
  rcases decodeEntry a v with _ | ⟨api, ctx⟩
  · simp
  · by_cases he : api = ""
    · simp [he]
    · rw [← record_eq_none a v api]
      cases hr : record a v api <;> simp [he, hr]

/-! ## What is sent and counted -/

/-- A stream only adds to the calls made and to the counter's increments, and the calls it
    adds are a sublist of those of its received entries. -/
theorem streamAccessLogs_extends (s : St AuthContext) (rs : List (Except String LogEntries)) :
    ∃ sent new, (streamAccessLogs a s rs).1.calls = s.calls ++ sent ∧
      sent.Sublist ((receivedEntries rs).filterMap (entryStep a · |>.call?)) ∧
      (streamAccessLogs a s rs).1.requests = s.requests ++ new := by
  induction rs generalizing s with
  | nil => exact ⟨[], [], by simp [streamAccessLogs, receivedEntries, receivedHTTPLogs]⟩
  | cons r rs ih =>
    rcases r with e | (es | _ | _)
    · exact ⟨[], [], by simp [streamAccessLogs], List.nil_sublist _, by simp [streamAccessLogs]⟩
    · obtain ⟨sent, h1, h2⟩ := handleHTTPLogs_sent a s.calls es
      rw [streamAccessLogs_httpLogs]
      split
      · have h2' := h2.trans (List.sublist_append_left _
          ((receivedEntries rs).filterMap (entryStep a · |>.call?)))
        exact ⟨sent, [], h1, by simpa [receivedEntries, receivedHTTPLogs] using h2', by simp⟩
      · obtain ⟨sent', new, h3, h4, h5⟩ := ih ⟨(handleHTTPLogs a s.calls es).1,
          s.requests ++ [(a.handler.orgName, requestStatus (handleHTTPLogs a s.calls es).2)]⟩
        exact ⟨sent ++ sent', (a.handler.orgName, requestStatus (handleHTTPLogs a s.calls es).2) :: new,
          by rw [h3, h1, List.append_assoc],
          by simpa [receivedEntries, receivedHTTPLogs] using h2.append h4, by rw [h5]; simp⟩
    all_goals exact ih s

/-- No record is invented or sent twice, and they go out in the order received. -/
theorem streamAccessLogs_sent (s : St AuthContext) (rs : List (Except String LogEntries)) :
    ∃ sent, (streamAccessLogs a s rs).1.calls = s.calls ++ sent ∧
      sent.Sublist ((receivedEntries rs).filterMap (entryStep a · |>.call?)) :=
  let ⟨sent, _, h1, h2, _⟩ := streamAccessLogs_extends a s rs
  ⟨sent, h1, h2⟩

theorem record_eq_some {v : HTTPAccessLogEntry} {api : String} {r : Record} (h : record a v api = some r) :
    r.apiProxy = api ∧ r.gatewaySource = a.gatewaySource := by
  rcases v with ⟨_ | cp, _ | req, _ | resp⟩ <;> simp [record] at h
  exact ⟨by rw [← h], by rw [← h]⟩

/-- A call is only ever one record, for a non-empty API. -/
theorem entryStep_eq_send {v : HTTPAccessLogEntry} {c : Call AuthContext} (h : entryStep a v = .send c) :
    ∃ r, c.records = [r] ∧ r.apiProxy ≠ "" ∧ r.gatewaySource = a.gatewaySource := by
  unfold entryStep at h
  split at h
  · cases h
  · next api ctx _ =>
    split_ifs at h with he
    split at h
    · cases h
    · next r hr =>
      cases h
      exact ⟨r, rfl, (record_eq_some a hr).1 ▸ he, (record_eq_some a hr).2⟩

/-- Every call a stream of the registered server adds carries one record, which names a
    non-empty API proxy and the gateway source `Register` chose. -/
theorem streamAccessLogs_records (handler : Handler AuthContext) (ns proxyType : String) (s : St AuthContext)
    (rs : List (Except String LogEntries)) :
    ∃ sent, (streamAccessLogs (.register handler ns proxyType) s rs).1.calls = s.calls ++ sent ∧
      ∀ c ∈ sent, ∃ r, c.records = [r] ∧ r.apiProxy ≠ "" ∧
        r.gatewaySource = if handler.operationConfigType = proxyType then managedGatewaySource
          else defaultGatewaySource := by
  obtain ⟨sent, -, h1, h2, -⟩ := streamAccessLogs_extends (.register handler ns proxyType) s rs
  refine ⟨sent, h1, fun c hc => ?_⟩
  obtain ⟨v, -, hv⟩ := List.mem_filterMap.mp (h2.subset hc)
  cases hs : entryStep (.register handler ns proxyType) v with
  | send c' =>
    rw [hs, EntryStep.call?_send, Option.some.injEq] at hv
    exact hv ▸ entryStep_eq_send _ hs
  | _ => simp [hs, EntryStep.call?] at hv

/-- Short of a panic, the org's "error" counter does not move exactly when every received entry
    that decodes to an API was sent, once and in order, and every send was accepted: no record
    is lost without an "error", and no "error" is counted without a lost record. -/
theorem streamAccessLogs_no_error_iff_delivered (s : St AuthContext) (rs : List (Except String LogEntries))
    (hp : (streamAccessLogs a s rs).2 ≠ some .panic) :
    (streamAccessLogs a s rs).1.requests.count (a.handler.orgName, "error") =
        s.requests.count (a.handler.orgName, "error") ↔
      (streamAccessLogs a s rs).1.calls = s.calls ++ (receivedEntries rs).filterMap (entryStep a · |>.call?) ∧
        Accepted a.handler.sendRecords s.calls ((receivedEntries rs).filterMap (entryStep a · |>.call?)) := by
  induction rs generalizing s with
  | nil => simp [streamAccessLogs, receivedEntries, receivedHTTPLogs, Accepted]
  | cons r rs ih =>
    rcases r with e | (es | _ | _)
    · simp [streamAccessLogs, receivedEntries, receivedHTTPLogs, Accepted]
    · rw [streamAccessLogs_httpLogs] at hp ⊢
      split at hp
      · simp at hp
      · next hm =>
        rw [if_neg hm]
        have hmsg := handleHTTPLogs_none_iff a s.calls es hm
        have hacc := handleHTTPLogs_none_of_accepted a s.calls es hm
        obtain ⟨sent, h0, -⟩ := handleHTTPLogs_sent a s.calls es
        have ih' := ih _ hp
        obtain ⟨sent', new, hc, -, hr⟩ := streamAccessLogs_extends a ⟨(handleHTTPLogs a s.calls es).1,
          s.requests ++ [(a.handler.orgName, requestStatus (handleHTTPLogs a s.calls es).2)]⟩ rs
        rw [hc, hr] at ih' ⊢
        simp only [receivedEntries, receivedHTTPLogs, List.flatten_cons, List.filterMap_append, accepted_append, List.count_append] at ih' ⊢
        generalize handleHTTPLogs a s.calls es = h at hm hmsg hacc h0 ih' ⊢
        rcases h with ⟨calls, _ | x⟩
        · -- handled with nil: counted "ok", every call of the message sent and accepted
          obtain ⟨rfl, hes⟩ := hmsg.mp rfl
          simpa [requestStatus, hes] using ih'
        · -- a refused send: counted "error", and the refused call is among the sent ones
          simp only [requestStatus, List.count_singleton_self] at h0 ⊢
          refine ⟨fun h => by omega, fun ⟨hcalls, hes, hrs⟩ => ?_⟩
          rw [h0, List.append_assoc, List.append_cancel_left_eq] at hcalls
          have hsent : Accepted a.handler.sendRecords s.calls (sent ++ sent') := by
            rw [hcalls, accepted_append]; exact ⟨hes, hrs⟩
          exact absurd (hacc sent h0 ((accepted_append _ _ _ _).mp hsent).1) (by simp)
    all_goals simpa [streamAccessLogs, receivedEntries, receivedHTTPLogs] using ih s hp

/-- The first send refused: one "error" counted, and a record lost. -/
theorem no_error_iff_delivered_flaky :
    (streamAccessLogs flakyServer ⟨[], []⟩ [.ok (.httpLogs [petstoreEntry]), .ok (.httpLogs [petstoreEntry])]).2 ≠
      some .panic ∧
    ((streamAccessLogs flakyServer ⟨[], []⟩
        [.ok (.httpLogs [petstoreEntry]), .ok (.httpLogs [petstoreEntry])]).1.requests.count ("org", "error") =
        ([] : List (String × String)).count ("org", "error") ↔
      (streamAccessLogs flakyServer ⟨[], []⟩ [.ok (.httpLogs [petstoreEntry]), .ok (.httpLogs [petstoreEntry])]).1.calls =
          [] ++ (receivedEntries [.ok (.httpLogs [petstoreEntry]), .ok (.httpLogs [petstoreEntry])]).filterMap
            (entryStep flakyServer · |>.call?) ∧
        Accepted flakyServer.handler.sendRecords []
          ((receivedEntries [.ok (.httpLogs [petstoreEntry]), .ok (.httpLogs [petstoreEntry])]).filterMap
            (entryStep flakyServer · |>.call?))) :=
  have hp : (streamAccessLogs flakyServer ⟨[], []⟩
      [.ok (.httpLogs [petstoreEntry]), .ok (.httpLogs [petstoreEntry])]).2 ≠ some .panic := by
    decide
  ⟨hp, streamAccessLogs_no_error_iff_delivered flakyServer ⟨[], []⟩ _ hp⟩

/-- Short of a panic, the counter is incremented once for each HTTP log message received,
    under the handler's org, whatever became of the message. -/
theorem streamAccessLogs_counted (s : St AuthContext) (rs : List (Except String LogEntries))
    (hp : (streamAccessLogs a s rs).2 ≠ some .panic) :
    ∃ statuses : List String,
      (streamAccessLogs a s rs).1.requests = s.requests ++ statuses.map (a.handler.orgName, ·) ∧
        statuses.length = (receivedHTTPLogs rs).length := by
  induction rs generalizing s with
  | nil => exact ⟨[], by simp [streamAccessLogs, receivedHTTPLogs]⟩
  | cons r rs ih =>
    rcases r with e | (es | _ | _)
    · exact ⟨[], by simp [streamAccessLogs, receivedHTTPLogs]⟩
    · rw [streamAccessLogs_httpLogs] at hp ⊢
      split at hp
      · simp at hp
      · rw [if_neg ‹_›]
        obtain ⟨statuses, h1, h2⟩ := ih _ hp
        exact ⟨requestStatus (handleHTTPLogs a s.calls es).2 :: statuses, by rw [h1]; simp,
          by simp [receivedHTTPLogs, h2]⟩
    all_goals simpa [streamAccessLogs, receivedHTTPLogs] using ih s hp

theorem counted_flaky :
    (streamAccessLogs flakyServer ⟨[], []⟩ [.ok (.httpLogs [petstoreEntry]), .ok (.httpLogs [petstoreEntry])]).2 ≠
      some .panic ∧
    ∃ statuses : List String,
      (streamAccessLogs flakyServer ⟨[], []⟩
          [.ok (.httpLogs [petstoreEntry]), .ok (.httpLogs [petstoreEntry])]).1.requests =
        [] ++ statuses.map ("org", ·) ∧
      statuses.length = (receivedHTTPLogs [.ok (.httpLogs [petstoreEntry]), .ok (.httpLogs [petstoreEntry])]).length :=
  have hp : (streamAccessLogs flakyServer ⟨[], []⟩
      [.ok (.httpLogs [petstoreEntry]), .ok (.httpLogs [petstoreEntry])]).2 ≠ some .panic := by
    decide
  ⟨hp, streamAccessLogs_counted flakyServer ⟨[], []⟩ _ hp⟩

/-! ## Panics -/

/-- Entries handled with nil leave the rest to be handled from the calls they made. -/
theorem handleHTTPLogs_append_of_none (calls : List (Call AuthContext)) (pre rest : List HTTPAccessLogEntry)
    (h : (handleHTTPLogs a calls pre).2 = none) :
    handleHTTPLogs a calls (pre ++ rest) = handleHTTPLogs a (handleHTTPLogs a calls pre).1 rest := by
  induction pre generalizing calls with
  | nil => rfl
  | cons v pre ih =>
    rw [List.cons_append, handleHTTPLogs_cons, handleHTTPLogs_cons]
    rw [handleHTTPLogs_cons] at h
    cases hs : entryStep a v with
    | skip => simpa [hs] using ih calls (by simpa [hs] using h)
    | panic => simp [hs] at h
    | send c =>
      cases hc : a.handler.sendRecords calls c with
      | some err => simp [hs, hc] at h
      | none => simpa [hs, hc] using ih (calls ++ [c]) (by simpa [hs, hc] using h)

/-- A panic of `handleHTTPLogs` happens at an entry that panics, every entry before it handled
    with nil. -/
theorem handleHTTPLogs_panic_at (calls : List (Call AuthContext)) (es : List HTTPAccessLogEntry)
    (h : (handleHTTPLogs a calls es).2 = some .panic) :
    ∃ pre v post, es = pre ++ v :: post ∧ (handleHTTPLogs a calls pre).2 = none ∧ entryStep a v = .panic := by
  induction es generalizing calls with
  | nil => simp [handleHTTPLogs] at h
  | cons v vs ih =>
    rw [handleHTTPLogs_cons] at h
    cases hs : entryStep a v with
    | skip =>
      obtain ⟨pre, w, post, rfl, h1, h2⟩ := ih calls (by simpa [hs] using h)
      exact ⟨v :: pre, w, post, rfl, by simpa [handleHTTPLogs_cons, hs] using h1, h2⟩
    | panic => exact ⟨[], v, vs, rfl, rfl, hs⟩
    | send c =>
      cases hc : a.handler.sendRecords calls c with
      | some err => simp [hs, hc] at h
      | none =>
        obtain ⟨pre, w, post, rfl, h1, h2⟩ := ih (calls ++ [c]) (by simpa [hs, hc] using h)
        exact ⟨v :: pre, w, post, rfl, by simpa [handleHTTPLogs_cons, hs, hc] using h1, h2⟩

/-- `handleHTTPLogs` panics exactly at the first entry it reaches, every send before it
    accepted, that decodes to an API and lacks its response, request or common properties. -/
theorem handleHTTPLogs_panic (calls : List (Call AuthContext)) (es : List HTTPAccessLogEntry) :
    (handleHTTPLogs a calls es).2 = some .panic ↔
      ∃ pre v post, es = pre ++ v :: post ∧ (handleHTTPLogs a calls pre).2 = none ∧
        (∃ api authContext, decodeEntry a v = some (api, authContext) ∧ api ≠ "") ∧
        (v.response = none ∨ v.request = none ∨ v.commonProperties = none) := by
  simp only [← entryStep_eq_panic a]
  refine ⟨handleHTTPLogs_panic_at a calls es, fun ⟨pre, v, post, hes, h1, h2⟩ => ?_⟩
  rw [hes, handleHTTPLogs_append_of_none a calls pre _ h1, handleHTTPLogs_cons, h2]

/-- The header fallback on an entry without common properties: `getMetadata` returns nil, the
    headers give an API, and the record's `cp.StartTime` dereferences the nil pointer. -/
example : (handleHTTPLogs (⟨⟨"org", "", true, fun _ => ("", ()), fun _ => ("petstore", ()),
      fun _ _ => none⟩, defaultGatewaySource, "envoy.filters.http.ext_authz"⟩ : AccessLogServer Unit)
    [] [⟨none, some ⟨∅, "/v1/petstore", "GET", "curl/7.68.0", "10.0.0.1"⟩, some ⟨some 200⟩⟩]).2 =
      some .panic := rfl

/-- Entries that carry their common properties, request and response never make
    `handleHTTPLogs` panic. -/
theorem handleHTTPLogs_ne_panic (calls : List (Call AuthContext)) (es : List HTTPAccessLogEntry)
    (h : ∀ v ∈ es, v.commonProperties.isSome ∧ v.request.isSome ∧ v.response.isSome) :
    (handleHTTPLogs a calls es).2 ≠ some .panic := by
  intro hp
  obtain ⟨pre, v, post, rfl, -, hv⟩ := handleHTTPLogs_panic_at a calls _ hp
  obtain ⟨hc, hr, hresp⟩ := h v (by simp)
  rcases ((entryStep_eq_panic a v).mp hv).2 with h' | h' | h' <;> simp [h'] at *

/-- A stream whose received entries all carry their common properties, request and response
    never panics. -/
theorem streamAccessLogs_no_panic (s : St AuthContext) (rs : List (Except String LogEntries))
    (h : ∀ v ∈ receivedEntries rs, v.commonProperties.isSome ∧ v.request.isSome ∧ v.response.isSome) :
    (streamAccessLogs a s rs).2 ≠ some .panic := by
  induction rs generalizing s with
  | nil => simp [streamAccessLogs]
  | cons r rs ih =>
    rcases r with e | (es | _ | _)
    · simp [streamAccessLogs]
    · simp only [receivedEntries, receivedHTTPLogs, List.flatten_cons, List.mem_append] at h
      rw [streamAccessLogs_httpLogs]
      split
      · exact absurd ‹_› (handleHTTPLogs_ne_panic a s.calls es fun v hv => h v (.inl hv))
      · exact ih _ fun v hv => h v (.inr hv)
    all_goals exact ih s h

end

theorem streamAccessLogs_no_panic_flaky :
    (∀ v ∈ receivedEntries [.ok (.httpLogs [petstoreEntry]), .ok (.httpLogs [petstoreEntry])],
      v.commonProperties.isSome ∧ v.request.isSome ∧ v.response.isSome) ∧
    (streamAccessLogs flakyServer ⟨[], []⟩
      [.ok (.httpLogs [petstoreEntry]), .ok (.httpLogs [petstoreEntry])]).2 ≠ some .panic :=
  have h : ∀ v ∈ receivedEntries [.ok (.httpLogs [petstoreEntry]), .ok (.httpLogs [petstoreEntry])],
      v.commonProperties.isSome ∧ v.request.isSome ∧ v.response.isSome := by
    simp [receivedEntries, receivedHTTPLogs, petstoreEntry]
  ⟨h, streamAccessLogs_no_panic flakyServer ⟨[], []⟩ _ h⟩

end ApigeeEnvoy.Server
