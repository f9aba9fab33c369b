/-
ChaosDemo/IdempotencyStore.lean

chaos_service/store.py: the order documents and the idempotency records.

A record is a dictionary; the key `_raw` that a loaded or reserved record
carries besides its own fields is the field `raw` here, because it never gets
into a stored text.  A request reserves a key with `SET NX`, the record it
stores names it by a fresh `owner_token`, and whoever finds a record that
should have been finished long ago may remove exactly that record and reserve
anew.  Every stored text is built by one of the three builders.
-/
import ChaosDemo.Retry

namespace ChaosDemo

open CallTree

variable {K : Type} [Field K] [LinearOrder K] [IsStrictOrderedRing K] [FloorRing K]

def idemStateProcessing : String := "PROCESSING"
def idemStateSuccess : String := "SUCCESS"
def idemStateFailed : String := "FAILED"
def idemStateExpired : String := "EXPIRED"

def legacyStateMap : List (String × String) :=
  [("processing", idemStateProcessing), ("succeeded", idemStateSuccess),
    ("failed", idemStateFailed), ("expired", idemStateExpired)]

/-- A record in memory: its fields, and the text it was loaded from or stored
as. -/
structure Record where
  fields : Dict
  raw : Option Raw

/-- `{}`. -/
def Record.empty : Record := ⟨[], none⟩

def Record.get (r : Record) (k : String) : Json := Dict.get r.fields k

inductive ReserveState
  | owner
  | replay
  | conflict
  | processing
deriving DecidableEq

inductive WaitState
  | replay
  | conflict
  | missing
  | processing
deriving DecidableEq

/-! ### Redis with retries -/

/-- `_execute_redis_once`. -/
def executeRedisOnce (operation : String) (c : Cmd K) : Host K c.Ret := do
  Host.beforeStoreOperation operation
  Host.redis c

/-- `_execute_redis`. -/
def executeRedis (ctx : Ctx K) (operation : String) (c : Cmd K) : Host K c.Ret :=
  (buildRetryPolicy ctx).execute (executeRedisOnce operation c)

/-! ### Orders -/

/-- `get_order_from_store`. -/
def getOrderFromStore (ctx : Ctx K) (orderId : String) : Host K (Option Dict) :=
  executeRedis ctx "order_store_get" (.get (.order orderId))

/-- `put_order_in_store`. -/
def putOrderInStore (ctx : Ctx K) (orderId : String) (doc : Dict) : Host K Unit :=
  executeRedis ctx "order_store_set" (.setex (.order orderId) ctx.orderTtlSec doc)

/-! ### Fingerprints -/

/-- Two hex digits of a control character. -/
def hexByte (n : ℕ) : String :=
  let digit (d : ℕ) : Char := "0123456789abcdef".toList.getD d '0'
  String.ofList [digit (n / 16), digit (n % 16)]

/-- One character of a JSON string, as `json.dumps(..., ensure_ascii=False)`
writes it. -/
def jsonChar (c : Char) : String :=
  if c = '"' then "\\\""
  else if c = '\\' then "\\\\"
  else if c = '\n' then "\\n"
  else if c = '\r' then "\\r"
  else if c = '\t' then "\\t"
  else if c.toNat = 8 then "\\b"
  else if c.toNat = 12 then "\\f"
  else if c.toNat < 32 then "\\u00" ++ hexByte c.toNat
  else String.ofList [c]

/-- A JSON string. -/
def jsonString (s : String) : String := "\"" ++ String.join (s.toList.map jsonChar) ++ "\""

/-- `idem_payload_fingerprint`. -/
def idemPayloadFingerprint (itemId : String) (quantity : ℤ) : String :=
  "\x7b\"item_id\":" ++ jsonString itemId ++ ",\"quantity\":" ++ toString quantity ++ "\x7d"

/-! ### Reading records -/

/-- `_normalize_state`. -/
def normalizeState (state : Json) : String :=
  if !state.truthy then idemStateSuccess
  else if state = .str idemStateProcessing ∨ state = .str idemStateSuccess ∨
      state = .str idemStateFailed ∨ state = .str idemStateExpired then state.pyStr
  else (legacyStateMap.lookup (pyStrip state.pyStr).toLower).getD state.pyStr

/-- `_record_timestamp`. -/
def recordTimestamp (record : Dict) : Host K ℤ :=
  match (["updated_at", "created_at", "timestamp"].findSome? fun field =>
      (record.get field).number?) with
  | some q => pure (pyInt q)
  | none => do
      let now ← Host.time
      pure (pyInt now)

/-- `_is_processing_stale`. -/
def isProcessingStale (ctx : Ctx K) (record : Dict) : Host K Bool :=
  if normalizeState (record.get "state") ≠ idemStateProcessing then pure false
  else match (record.get "created_at").number? with
    | none => pure false
    | some createdAt => do
        let now ← Host.time
        pure (decide ((max ctx.idemPendingTtlSec 0 : ℤ) ≤ now - (createdAt : K)))

/-- The defaults `_normalize_record` gives a SUCCESS record. -/
def fillSuccess (record : Dict) : Dict :=
  let record := match (record.get "response_body").dict? with
    | some _ => record
    | none =>
        if (record.get "order_id").truthy then
          record.set "response_body"
            (.obj [("status", .str "ok"), ("order_id", record.get "order_id")])
        else record
  record.setdefault "response_status" (.int 201)

/-- The fields `_normalize_record` leaves, once the timestamp and the staleness
test are known. -/
def normalizeFields (data : Dict) (timestamp : ℤ) (stale : Bool) : Dict :=
  let state := normalizeState (data.get "state")
  let record := (data.set "state" (.str state)).setdefault "timestamp" (.int timestamp)
  let record := if stale then record.set "state" (.str idemStateExpired) else record
  let record := if state = idemStateSuccess then fillSuccess record else record
  if state = idemStateFailed then record.setdefault "response_status" (.int 503) else record

/-- `state == PROCESSING and _is_processing_stale(ctx, record)`. -/
def foundStale (ctx : Ctx K) (state : String) (record : Dict) : Host K Bool :=
  if state = idemStateProcessing then isProcessingStale ctx record else pure false

/-- `_normalize_record`. -/
def normalizeRecord (ctx : Ctx K) (data : Dict) (raw : Raw) : Host K Record := do
  let state := normalizeState (data.get "state")
  let record := data.set "state" (.str state)
  let timestamp ← recordTimestamp record
  let record := record.setdefault "timestamp" (.int timestamp)
  let stale ← foundStale ctx state record
  pure ⟨normalizeFields data timestamp stale, some raw⟩

/-- The fields `load_idempotency_record` takes from a text: those of the object,
or those made up for a bare order id. -/
def Raw.data : Raw → Dict
  | .object fields => fields
  | .text s =>
      [("state", .str idemStateSuccess), ("order_id", .str s), ("response_status", .int 201),
        ("response_body", .obj [("status", .str "ok"), ("order_id", .str s)])]

/-- `load_idempotency_record`. -/
def loadIdempotencyRecord (ctx : Ctx K) (idemKey : String) : Host K (Option Record) := do
  let raw ← executeRedis ctx "idempotency_get" (.get (.idem idemKey))
  match raw with
  | none => pure none
  | some raw =>
      if raw.truthy then do
        let record ← normalizeRecord ctx raw.data raw
        pure (some record)
      else pure none

/-- `load_idempotency_record(...) or {}`. -/
def loadOrEmpty (ctx : Ctx K) (idemKey : String) : Host K Record := do
  let record ← loadIdempotencyRecord ctx idemKey
  pure (record.getD .empty)

/-- `fp and fp != payload_fp`. -/
def Record.conflicts (r : Record) (payloadFp : String) : Bool :=
  (r.get "payload_fp").truthy && r.get "payload_fp" != .str payloadFp

/-- `state in (SUCCESS, FAILED)`. -/
def Record.isTerminal (r : Record) : Bool :=
  r.get "state" == .str idemStateSuccess || r.get "state" == .str idemStateFailed

/-- `state == EXPIRED`. -/
def Record.isExpired (r : Record) : Bool := r.get "state" == .str idemStateExpired

/-! ### Building records -/

/-- `_serialize_record`: without the private keys, the rest sorted. -/
def serializeRecord (record : Dict) : Raw :=
  .object (Dict.sortKeys (record.filter fun f => f.1.toList.head? != some '_'))

/-- The fields of a PROCESSING record built at second `now`. -/
def processingRecord (now : ℤ) (ownerToken payloadFp : String) : Dict :=
  [("state", .str idemStateProcessing), ("owner_token", .str ownerToken),
    ("payload_fp", .str payloadFp), ("created_at", .int now), ("updated_at", .int now),
    ("timestamp", .int now)]

/-- `_build_processing_record`. -/
def buildProcessingRecord (payloadFp : String) : Host K Dict := do
  let now ← Host.time
  let ownerToken ← Host.uuid4
  pure (processingRecord (pyInt now) ownerToken payloadFp)

/-- The fields of a SUCCESS record built at second `now`. -/
def successRecord (now : ℤ) (payloadFp orderId : String) (responseStatus : ℤ)
    (responseBody : Dict) : Dict :=
  [("state", .str idemStateSuccess), ("payload_fp", .str payloadFp),
    ("order_id", .str orderId), ("response_status", .int responseStatus),
    ("response_body", .obj responseBody), ("updated_at", .int now), ("timestamp", .int now)]

/-- The fields of a FAILED record built at second `now`. -/
def failedRecord (now : ℤ) (payloadFp errorMessage : String) (responseStatus : ℤ)
    (responseBody : Dict) : Dict :=
  [("state", .str idemStateFailed), ("payload_fp", .str payloadFp),
    ("error_message", .str errorMessage), ("response_status", .int responseStatus),
    ("response_body", .obj responseBody), ("updated_at", .int now), ("timestamp", .int now)]

/-! ### The operations -/

/-- `_compare_and_delete`. -/
def compareAndDelete (ctx : Ctx K) (idemKey : String) (expected : Option Raw) :
    Host K Bool :=
  match expected with
  | none => pure false
  | some raw =>
      if raw.truthy then
        executeRedis ctx "idempotency_compare_delete" (.compareAndDelete idemKey raw)
      else pure false

/-- `int(v)` of a JSON value. -/
def jsonInt : Json → Except Exc ℤ
  | .int i => .ok i
  | .bool b => .ok (if b then 1 else 0)
  | .num q => .ok (pyInt q)
  | .str s => match (pyStrip s).toInt? with
      | some i => .ok i
      | none => .error .valueError
  | _ => .error .typeError

/-- `build_replay_response`. -/
def buildReplayResponse (record : Record) : Except Exc (ℤ × Dict) :=
  let state := normalizeState (record.get "state")
  let payload : Dict := ((record.get "response_body").dict?).getD []
  if state = idemStateSuccess then
    let payload :=
      if !Dict.has payload "order_id" && (record.get "order_id").truthy then
        Dict.set payload "order_id" (record.get "order_id")
      else payload
    .ok (200, (Dict.setdefault payload "status" (.str "ok")).set "idempotent" (.bool true))
  else if state = idemStateFailed then
    let payload :=
      if payload.isEmpty then
        [("error", (record.get "error_message").orElse (.str "request failed"))]
      else payload
    (jsonInt ((record.get "response_status").orElse (.int 503))).map fun status =>
      (status, Dict.set payload "idempotent" (.bool true))
  else .ok (202, [("status", .str "processing"), ("idempotent", .bool true)])

/-- `_reserve_new_processing`. -/
def reserveNewProcessing (ctx : Ctx K) (idemKey payloadFp : String) :
    Host K (Bool × Record) := do
  let pending ← buildProcessingRecord payloadFp
  let pendingRaw := serializeRecord pending
  let ok ← executeRedis ctx "idempotency_reserve"
    (.setNxEx (.idem idemKey) pendingRaw ctx.idemPendingTtlSec)
  pure (ok, ⟨pending, some pendingRaw⟩)

/-- The end of `reserve_idempotency_key` after a takeover that did not succeed. -/
def rereadAfterTakeover (ctx : Ctx K) (idemKey payloadFp : String) :
    Host K (ReserveState × Record) := do
  let existing ← loadOrEmpty ctx idemKey
  if existing.conflicts payloadFp then pure (.conflict, existing)
  else if existing.isTerminal then pure (.replay, existing)
  else pure (.processing, existing)

/-- The EXPIRED branch of `reserve_idempotency_key`. -/
def takeOver (ctx : Ctx K) (idemKey payloadFp : String) (existing : Record) :
    Host K (ReserveState × Record) := do
  let deleted ← compareAndDelete ctx idemKey existing.raw
  if deleted then do
    let (reserved, pending) ← reserveNewProcessing ctx idemKey payloadFp
    if reserved then pure (.owner, pending)
    else rereadAfterTakeover ctx idemKey payloadFp
  else rereadAfterTakeover ctx idemKey payloadFp

/-- `reserve_idempotency_key`. -/
def reserveIdempotencyKey (ctx : Ctx K) (idemKey payloadFp : String) :
    Host K (ReserveState × Record) := do
  let (reserved, pending) ← reserveNewProcessing ctx idemKey payloadFp
  if reserved then pure (.owner, pending)
  else do
    let existing ← loadOrEmpty ctx idemKey
    if existing.conflicts payloadFp then pure (.conflict, existing)
    else if existing.isTerminal then pure (.replay, existing)
    else if existing.isExpired then takeOver ctx idemKey payloadFp existing
    else pure (.processing, existing)

/-- The polling loop of `wait_for_idempotency_result`, for at most `polls`
rounds; `none` when it ends without an answer. -/
def pollIdempotencyResult (ctx : Ctx K) (idemKey payloadFp : String) (deadline : K) :
    (polls : ℕ) → Host K (Option (WaitState × Record))
  | 0 => pure none
  | polls + 1 => do
      let now ← Host.time
      if now < deadline then do
        let current ← loadIdempotencyRecord ctx idemKey
        match current with
        | none => pure (some (.missing, .empty))
        | some current =>
            if current.conflicts payloadFp then pure (some (.conflict, current))
            else if current.isTerminal then pure (some (.replay, current))
            else if current.isExpired then pure (some (.missing, current))
            else do
              Host.sleep ((max ctx.idemWaitPollMs 1 : ℤ) / 1000)
              pollIdempotencyResult ctx idemKey payloadFp deadline polls
      else pure none

/-- `wait_for_idempotency_result`. -/
def waitForIdempotencyResult (ctx : Ctx K) (idemKey payloadFp : String) :
    Host K (WaitState × Record) := do
  let now ← Host.time
  let deadline := now + (max ctx.idemWaitTimeoutMs 0 : ℤ) / 1000
  let answer ← pollIdempotencyResult ctx idemKey payloadFp deadline ctx.maxPolls
  match answer with
  | some answer => pure answer
  | none => do
      let current ← loadOrEmpty ctx idemKey
      if current.conflicts payloadFp then pure (.conflict, current)
      else if current.isTerminal then pure (.replay, current)
      else pure (.processing, current)

/-- `finalize_idempotency_success`. -/
def finalizeIdempotencySuccess (ctx : Ctx K) (idemKey payloadFp orderId : String)
    (responseStatus : ℤ) (responseBody : Dict) : Host K Unit := do
  let successBody :=
    if responseBody.isEmpty then [("status", .str "ok"), ("order_id", .str orderId)]
    else responseBody
  let now ← Host.time
  let record := successRecord (pyInt now) payloadFp orderId responseStatus successBody
  executeRedis ctx "idempotency_finalize"
    (.setex (.idem idemKey) ctx.idemTtlSec (serializeRecord record))

/-- `save_failed`. -/
def saveFailed (ctx : Ctx K) (idemKey payloadFp errorMessage : String)
    (responseStatus : ℤ) (responseBody : Dict) : Host K Unit := do
  let failedBody :=
    if responseBody.isEmpty then [("error", .str errorMessage)] else responseBody
  let now ← Host.time
  let record := failedRecord (pyInt now) payloadFp errorMessage responseStatus failedBody
  executeRedis ctx "idempotency_save_failed"
    (.setex (.idem idemKey) ctx.idemTtlSec (serializeRecord record))

/-- `release_idempotency_reservation`. -/
def releaseIdempotencyReservation (ctx : Ctx K) (idemKey : String) (record : Record) :
    Host K Bool :=
  compareAndDelete ctx idemKey record.raw

/-! ### What is in a stored text -/

/-- The state a text is read as, staleness aside. -/
def Raw.state (raw : Raw) : String := normalizeState (raw.data.get "state")

/-- The text of a PROCESSING record. -/
def processingRaw (now : ℤ) (ownerToken payloadFp : String) : Raw :=
  serializeRecord (processingRecord now ownerToken payloadFp)

/-- The text of a SUCCESS record. -/
def successRaw (now : ℤ) (payloadFp orderId : String) (responseStatus : ℤ)
    (responseBody : Dict) : Raw :=
  serializeRecord (successRecord now payloadFp orderId responseStatus responseBody)

/-- The text of a FAILED record. -/
def failedRaw (now : ℤ) (payloadFp errorMessage : String) (responseStatus : ℤ)
    (responseBody : Dict) : Raw :=
  serializeRecord (failedRecord now payloadFp errorMessage responseStatus responseBody)

/-- A record without private keys and without repetitions is stored field by
field. -/
theorem serializeRecord_get {d : Dict} (hwf : d.Wf)
    (hpub : ∀ f ∈ d, f.1.toList.head? ≠ some '_') (k : String) :
    (serializeRecord d).data.get k = d.get k := by
  have hfilter : d.filter (fun f => f.1.toList.head? != some '_') = d := by
    rw [List.filter_eq_self]
    intro f hf
    simpa using hpub f hf
  rw [serializeRecord, hfilter]
  exact Dict.get_sortKeys hwf k

theorem processingRaw_get (now : ℤ) (tok fp k : String) :
    (processingRaw now tok fp).data.get k = (processingRecord now tok fp).get k := by
  apply serializeRecord_get
  · simp [processingRecord, Dict.Wf, Dict.has, List.lookup_cons]
  · simp [processingRecord]

theorem successRaw_get (now : ℤ) (fp oid : String) (st : ℤ) (body : Dict) (k : String) :
    (successRaw now fp oid st body).data.get k = (successRecord now fp oid st body).get k := by
  apply serializeRecord_get
  · simp [successRecord, Dict.Wf, Dict.has, List.lookup_cons]
  · simp [successRecord]

theorem failedRaw_get (now : ℤ) (fp msg : String) (st : ℤ) (body : Dict) (k : String) :
    (failedRaw now fp msg st body).data.get k = (failedRecord now fp msg st body).get k := by
  apply serializeRecord_get
  · simp [failedRecord, Dict.Wf, Dict.has, List.lookup_cons]
  · simp [failedRecord]

@[simp] theorem processingRaw_state (now : ℤ) (tok fp : String) :
    (processingRaw now tok fp).state = idemStateProcessing := by
  rw [Raw.state, processingRaw_get]
  rfl

@[simp] theorem successRaw_state (now : ℤ) (fp oid : String) (st : ℤ) (body : Dict) :
    (successRaw now fp oid st body).state = idemStateSuccess := by
  rw [Raw.state, successRaw_get]
  rfl

@[simp] theorem failedRaw_state (now : ℤ) (fp msg : String) (st : ℤ) (body : Dict) :
    (failedRaw now fp msg st body).state = idemStateFailed := by
  rw [Raw.state, failedRaw_get]
  rfl

@[simp] theorem processingRaw_created_at (now : ℤ) (tok fp : String) :
    ((processingRaw now tok fp).data.get "created_at").number? = some (now : ℚ) := by
  rw [processingRaw_get]
  rfl

/-- The text of a PROCESSING record determines its owner token. -/
theorem processingRaw_inj {now now' : ℤ} {tok tok' fp fp' : String}
    (h : processingRaw now tok fp = processingRaw now' tok' fp') : tok = tok' := by
  have htok : (processingRaw now tok fp).data.get "owner_token" =
      (processingRaw now' tok' fp').data.get "owner_token" := by rw [h]
  rw [processingRaw_get, processingRaw_get] at htok
  exact Json.str.inj htok

theorem processingRaw_truthy (now : ℤ) (tok fp : String) :
    (processingRaw now tok fp).truthy = true := rfl

/-! ### What a replay raises -/

theorem jsonInt_error {v : Json} {e : Exc} (h : jsonInt v = .error e) :
    e = .valueError ∨ e = .typeError := by
  unfold jsonInt at h
  split at h
  · cases h
  · cases h
  · cases h
  · split at h
    · cases h
    · cases h
      exact .inl rfl
  · cases h
    exact .inr rfl

/-- A replay fails only at the status of a FAILED record. -/
theorem buildReplayResponse_error {r : Record} {e : Exc}
    (h : buildReplayResponse r = .error e) : e = .valueError ∨ e = .typeError := by
  unfold buildReplayResponse at h
  dsimp only at h
  split at h
  · cases h
  · split at h
    · cases hstatus : jsonInt ((r.get "response_status").orElse (.int 503)) with
      | ok status =>
          rw [hstatus] at h
          cases h
      | error e' =>
          rw [hstatus] at h
          cases h
          exact jsonInt_error hstatus
    · cases h

end ChaosDemo
