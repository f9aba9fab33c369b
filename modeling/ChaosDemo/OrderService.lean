/-
ChaosDemo/OrderService.lean

app/service/order_service.py: `OrderService.create_order`, and the two
repositories it goes through.

`create_order` is a program over the services it is given: the breaker, the
idempotency repository, the order repository, the clock and the random source.
`serviceCall` says what each of these does on the host, so the program the host
runs is `(createOrder ..).interp (serviceCall ..)`.  The split is the one the
source has: what the repositories make of an exception is decided below the
line, what `create_order` makes of it above.

A stage of `create_order` either answers the request or goes on with a value
(`Flow`).  Metrics and log lines are left out, `breaker.record_timeout()` with
them, which does nothing else.
-/
import ChaosDemo.Breaker
import ChaosDemo.StoreClient

set_option linter.unusedSectionVars false

namespace ChaosDemo

open CallTree

variable {K : Type} [Field K] [LinearOrder K] [IsStrictOrderedRing K] [FloorRing K]

/-! ### Data -/

structure ServiceResult where
  statusCode : ℤ
  body : Dict

structure CreateOrderCommand where
  itemId : Option String
  quantity : ℤ
  idempotencyKey : Option String

/-- An optional text, unless it is empty. -/
def nonempty (s : Option String) : Option String := s.filter (· != "")

/-- `command.item_id`, where it is truthy. -/
def CreateOrderCommand.item? (c : CreateOrderCommand) : Option String := nonempty c.itemId

/-- `command.idempotency_key`, where it is truthy. -/
def CreateOrderCommand.key? (c : CreateOrderCommand) : Option String :=
  nonempty c.idempotencyKey

/-! ### Services -/

/-- What `create_order` calls. -/
inductive ServiceOp (K : Type) [Field K] [LinearOrder K]
  | allowRequest (breaker : CircuitBreaker K)
  | record (action : Action) (breaker : CircuitBreaker K)
  | idempotency (o : StoreOp)
  | saveOrder (orderId : String) (doc : Dict)
  | beforeServiceOperation (stage : String)
  | time
  | uniform (lo hi : K)
  | random
  | uuid4
  | sleep (seconds : K)

abbrev ServiceOp.Ret : ServiceOp K → Type
  | allowRequest _ => Bool × CircuitBreaker K
  | record _ _ => Option (CircuitRecordResult K) × CircuitBreaker K
  | idempotency o => o.Ret
  | saveOrder _ _ => Unit
  | beforeServiceOperation _ => Unit
  | time => K
  | uniform _ _ => K
  | random => K
  | uuid4 => String
  | sleep _ => Unit

abbrev ServiceSig (K : Type) [Field K] [LinearOrder K] : Sig := ⟨ServiceOp K, ServiceOp.Ret⟩

/-- A program of the service layer. -/
abbrev Service (K α : Type) [Field K] [LinearOrder K] := Prog (ServiceSig K) Exc α

abbrev ServiceEvent (K : Type) [Field K] [LinearOrder K] := Event (ServiceSig K) Exc

abbrev ServiceHistory (K : Type) [Field K] [LinearOrder K] := History (ServiceSig K) Exc

/-- `except Exception as exc: raise StorageException(message) from exc`. -/
def repository {α : Type} (message : String) (p : Host K α) : Host K α :=
  p.handle fun _ => throw (.storage message)

/-- The message with which `IdempotencyRepository` reports a failed call. -/
def StoreOp.unavailable : StoreOp → String
  | .finalizeSuccess .. => "idempotency finalize unavailable"
  | _ => "idempotency store unavailable"

/-- `IdempotencyRepository`. -/
def idempotencyRepository (ctx : Ctx K) (o : StoreOp) : Host K o.Ret :=
  repository o.unavailable (storeCall ctx o)

/-- `OrderRepository.save`. -/
def orderRepositorySave (ctx : Ctx K) (orderId : String) (doc : Dict) : Host K Unit :=
  repository "order store unavailable" (putOrderInStore ctx orderId doc)

/-- What the services do. -/
def serviceCall (ctx : Ctx K) : (o : ServiceOp K) → Host K o.Ret
  | .allowRequest breaker => breaker.allowRequest ctx
  | .record action breaker => breaker.record ctx action
  | .idempotency o => idempotencyRepository ctx o
  | .saveOrder orderId doc => orderRepositorySave ctx orderId doc
  | .beforeServiceOperation stage => Host.beforeServiceOperation stage
  | .time => Host.time
  | .uniform lo hi => Host.uniform lo hi
  | .random => Host.random
  | .uuid4 => Host.uuid4
  | .sleep seconds => Host.sleep seconds

namespace Service

def call (o : ServiceOp K) : Service K o.Ret := .perform (S := ServiceSig K) o

def idempotency (o : StoreOp) : Service K o.Ret := .perform (S := ServiceSig K) (.idempotency o)

/-- `if breaker is not None: breaker.record_...()`. -/
def record (action : Action) : Option (CircuitBreaker K) → Service K Unit
  | none => pure ()
  | some breaker => do
      let _ ← call (.record action breaker)
      pure ()

/-- `try: ... except StorageException: ...`. -/
def onStorage {α : Type} (p handler : Service K α) : Service K α :=
  p.handle fun e => if e.isStorage then handler else throw e

/-- `try: ... except StorageException: pass`, the result ignored. -/
def swallow {α : Type} (p : Service K α) : Service K Unit :=
  onStorage (do let _ ← p; pure ()) (pure ())

end Service

/-! ### `create_order` -/

/-- A stage of `create_order` answers the request or goes on. -/
inductive Flow (α : Type)
  | done (result : ServiceResult)
  | goOn (a : α)

/-- What the stages share: the command with its checks passed, the breaker if
there is one, and the fingerprint. -/
structure Order (K : Type) [Field K] [LinearOrder K] where
  itemId : String
  quantity : ℤ
  key : Option String
  breaker : Option (CircuitBreaker K)

/-- `payload_fp`. -/
def Order.payloadFp (o : Order K) : String := idemPayloadFingerprint o.itemId o.quantity

/-- `return ServiceResult(*build_replay_response(record))`. -/
def replay (record : Record) : Service K (Flow (Option Record)) := do
  let (status, body) ← Prog.ofExcept (buildReplayResponse record)
  pure (.done ⟨status, body⟩)

def conflictResult : ServiceResult :=
  ⟨409, [("error", .str "idempotency key reused with different payload")]⟩

/-- The reservation; it goes on with `idem_record`, which is there exactly when
`idem_reserved` is set. -/
def reserveStage (o : Order K) : Service K (Flow (Option Record)) :=
  match o.key with
  | none => pure (.goOn none)
  | some key =>
      Service.onStorage (do
        let (state, record) ← Service.idempotency (.reserve key o.payloadFp)
        match state with
        | .replay => replay record
        | .conflict => pure (.done conflictResult)
        | .processing => do
            let (waitedState, waitedRecord) ←
              Service.idempotency (.waitForResult key o.payloadFp)
            match waitedState with
            | .replay => replay waitedRecord
            | .conflict => pure (.done conflictResult)
            | _ => pure (.done
                ⟨202, [("status", .str "processing"), ("idempotent", .bool true)]⟩)
        | .owner => pure (.goOn (some record)))
      (pure (.goOn none))

/-- `_save_failed`, where the request has a reservation. -/
def saveFailedStage (o : Order K) (reserved : Option Record) (message : String) (status : ℤ)
    (body : Dict) : Service K Unit :=
  match o.key, reserved with
  | some key, some _ =>
      Service.swallow (Service.idempotency (.saveFailed key o.payloadFp message status body))
  | _, _ => pure ()

/-- `order_deadline_exceeded`. -/
def orderDeadlineExceeded (elapsed processingTime : K) (budgetMs : ℤ) : Bool :=
  decide ((budgetMs : K) / 1000 < elapsed + processingTime)

/-- The answer when the deadline is too close; the reservation is given back. -/
def timeoutStage (o : Order K) (reserved : Option Record) : Service K ServiceResult := do
  match o.key, reserved with
  | some key, some record => Service.swallow (Service.idempotency (.release key record))
  | _, _ => pure ()
  pure ⟨202, [("status", .str "queued"), ("reason", .str "timeout protected")]⟩

/-- What follows a failure after the reservation. -/
def failStage (o : Order K) (reserved : Option Record) (message : String) (status : ℤ)
    (body : Dict) (result : ServiceResult) : Service K (Flow String) := do
  Service.record .failure o.breaker
  saveFailedStage o reserved message status body
  pure (.done result)

/-- The order document. -/
def Order.doc (o : Order K) : Dict :=
  [("item_id", .str o.itemId), ("quantity", .int o.quantity), ("status", .str "created")]

/-- The body of the `try` block; it goes on with `order_id`. -/
def placeOrder (ctx : Ctx K) (o : Order K) (reserved : Option Record) (processingTime : K) :
    Service K (Flow String) := do
  Service.call (.beforeServiceOperation "service")
  Service.call (.sleep processingTime)
  let draw ← Service.call .random
  if draw < ctx.inventoryBusyProb then
    failStage o reserved "inventory busy" 503 [("error", .str "inventory busy")]
      ⟨503, [("error", .str "inventory busy")]⟩
  else do
    let hex ← Service.call .uuid4
    let orderId := uuidStr hex
    let saved ← Service.onStorage
      (do Service.call (.saveOrder orderId o.doc); pure true) (pure false)
    if saved then do
      Service.record .success o.breaker
      pure (.goOn orderId)
    else
      failStage o reserved "order store unavailable" 503
        [("error", .str "order store unavailable")]
        ⟨503, [("error", .str "order store unavailable")]⟩

/-- The two `except` clauses for injected faults; a drop is stored as 503. -/
def chaosStage (o : Order K) (reserved : Option Record) : Exc → Service K (Flow String)
  | .chaosDrop f => failStage o reserved f.message 503 f.toResponse ⟨f.statusCode, f.toResponse⟩
  | .chaosFault f =>
      failStage o reserved f.message f.statusCode f.toResponse ⟨f.statusCode, f.toResponse⟩
  | e => throw e

/-- The body of the 201 response. -/
def createdBody (orderId : String) : Dict :=
  [("status", .str "ok"), ("order_id", .str orderId)]

/-- After the order: the SUCCESS record, whether or not there was a
reservation. -/
def finishStage (o : Order K) (orderId : String) : Service K ServiceResult := do
  match o.key with
  | some key => Service.swallow (Service.idempotency
      (.finalizeSuccess key o.payloadFp orderId 201 (createdBody orderId)))
  | none => pure ()
  pure ⟨201, createdBody orderId⟩

/-- `create_order` after the reservation. -/
def workStage (ctx : Ctx K) (startedAt : K) (o : Order K) (reserved : Option Record) :
    Service K ServiceResult := do
  let processingTime ← Service.call (.uniform (1 / 100) (1 / 20))
  let now ← Service.call .time
  if ctx.enableResilience &&
      orderDeadlineExceeded (now - startedAt) processingTime ctx.businessTimeoutMs then
    timeoutStage o reserved
  else do
    let flow ← (placeOrder ctx o reserved processingTime).handle (chaosStage o reserved)
    match flow with
    | .done result => pure result
    | .goOn orderId => finishStage o orderId

/-- `create_order` after the breaker has admitted the request. -/
def admittedStage (ctx : Ctx K) (startedAt : K) (command : CreateOrderCommand)
    (breaker : Option (CircuitBreaker K)) : Service K ServiceResult :=
  match command.item? with
  | none => throw (.validation "invalid request")
  | some itemId =>
      if command.quantity ≤ 0 then throw (.validation "invalid request")
      else do
        let o : Order K := ⟨itemId, command.quantity, command.key?, breaker⟩
        let flow ← reserveStage o
        match flow with
        | .done result => pure result
        | .goOn reserved => workStage ctx startedAt o reserved

/-- `create_order`. -/
def createOrder (ctx : Ctx K) (startedAt : K) (command : CreateOrderCommand) :
    Service K ServiceResult :=
  if ctx.enableResilience then do
    let (allowed, breaker) ← Service.call (.allowRequest (buildCircuitBreaker ctx))
    if allowed then admittedStage ctx startedAt command (some breaker)
    else pure ⟨202, [("status", .str "queued"), ("reason", .str "circuit open")]⟩
  else admittedStage ctx startedAt command none

end ChaosDemo
