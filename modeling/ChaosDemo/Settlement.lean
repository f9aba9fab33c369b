/-
ChaosDemo/Settlement.lean

Whether an admitted request settles with the breaker.  `Environment` fixes what
every service answers during one `create_order`; `Environment.run` runs the
program against it and lists the calls.

`create_order` has many ends, and the breaker is told about some of them only.
The proof goes stage by stage: every stage either makes no record call, or is
the end of the request and makes exactly one.
-/
import ChaosDemo.BreakerInvariant
import ChaosDemo.OrderService

set_option linter.unusedSectionVars false

namespace ChaosDemo

open CallTree Keyspace

variable {K : Type} [Field K] [LinearOrder K] [IsStrictOrderedRing K] [FloorRing K]

/-! ### Environments -/

/-- What one request meets: the store when the breaker is asked and when it is
told, what the store functions do with each operation, an injected fault, the
clock and the draws. -/
structure Environment (K : Type) [Field K] [LinearOrder K] where
  store : HostState K
  later : HostState K
  uuids : UuidSource
  idempotency : (o : StoreOp) → Except Exc o.Ret
  order : Except Exc Unit
  fault : Except Exc Unit
  now : K
  processingTime : K
  draw : K
  hex : String

namespace Environment

/-- What a service answers; the repositories raise StorageException. -/
def answer (env : Environment K) (ctx : Ctx K) : (o : ServiceOp K) → Except Exc o.Ret
  | .allowRequest b => ((b.allowRequest ctx).eval (HostState.nominal env.uuids) env.store).1
  | .record action b => ((b.record ctx action).eval (HostState.nominal env.uuids) env.later).1
  | .idempotency o => (env.idempotency o).mapError fun _ => .storage o.unavailable
  | .saveOrder _ _ => env.order.mapError fun _ => .storage "order store unavailable"
  | .beforeServiceOperation _ => env.fault
  | .time => .ok env.now
  | .uniform _ _ => .ok env.processingTime
  | .random => .ok env.draw
  | .uuid4 => .ok env.hex
  | .sleep _ => .ok ()

/-- The calls of `create_order`, the latest first, and how it ends. -/
def createOrder (env : Environment K) (ctx : Ctx K) (startedAt : K)
    (command : CreateOrderCommand) : Except Exc ServiceResult × ServiceHistory K :=
  (ChaosDemo.createOrder ctx startedAt command).answeredBy (env.answer ctx) []

end Environment

/-- The record calls in a list of calls: what was recorded, and on which breaker. -/
def recorded (h : ServiceHistory K) : List (Action × CircuitBreaker K) :=
  h.filterMap fun e => match e.op with
    | .record action b => some (action, b)
    | _ => none

/-- The request settled: one record call on the breaker that admitted it, and
where that breaker held the probe key, the key is gone after the call. -/
def SettledOnce (ctx : Ctx K) (env : Environment K) (b : CircuitBreaker K)
    (h : ServiceHistory K) : Prop :=
  ∃ action, recorded h = [(action, b)] ∧
    (b.probeAcquired = true →
      ((b.record ctx action).eval (HostState.nominal env.uuids) env.later).2.probeActive
        (breakerKeys ctx b.rule) = false)

/-- The reservation is answered in a way that lets the request go on. -/
def Environment.GoesOn (env : Environment K) (key fp : String) : Prop :=
  match env.idempotency (.reserve key fp) with
  | .error _ => True
  | .ok (.owner, _) => True
  | .ok (.processing, _) => ∃ e, env.idempotency (.waitForResult key fp) = .error e
  | .ok _ => False

/-- When a request settles: it is valid, it gets past the reservation, its
deadline leaves room, and no foreign exception comes out of the fault hook. -/
structure Settles (ctx : Ctx K) (startedAt : K) (command : CreateOrderCommand)
    (env : Environment K) : Prop where
  valid : command.item?.isSome = true ∧ 0 < command.quantity
  goesOn : ∀ itemId ∈ command.item?, ∀ key ∈ command.key?,
    env.GoesOn key (idemPayloadFingerprint itemId command.quantity)
  inTime : orderDeadlineExceeded (env.now - startedAt) env.processingTime
    ctx.businessTimeoutMs = false
  fault : ∀ e, env.fault = .error e → e.isChaos = true

/-! ### The breaker -/

/-- A record call of a breaker that holds the probe key removes it. -/
theorem eval_record (ctx : Ctx K) (uuids : UuidSource) (s : HostState K) (b : CircuitBreaker K)
    (action : Action) : ∃ r s',
    (b.record ctx action).eval (HostState.nominal uuids) s = (.ok r, s') ∧
      (b.probeAcquired = true → s'.probeActive (breakerKeys ctx b.rule) = false) := by
  cases hprobe : b.probeAcquired with
  | false =>
      have hrecord : b.record ctx action = (recordOutcome ctx b.rule action >>= fun result =>
          pure (some result, b.afterRecord result)) := by
        cases action <;> simp [CircuitBreaker.record, CircuitBreaker.recordSuccess,
          CircuitBreaker.recordFailure, hprobe]
      rw [hrecord, Prog.eval_bind_ok (eval_recordOutcome action)]
      exact ⟨_, _, rfl, by simp⟩
  | true =>
      cases action with
      | success =>
          rw [CircuitBreaker.record, CircuitBreaker.recordSuccess, if_pos hprobe,
            Prog.eval_bind_ok eval_getOpenUntil, Prog.eval_bind_ok eval_closeBreaker]
          exact ⟨_, _, rfl, fun _ => probeActive_of_none (probe_closed s _)⟩
      | failure =>
          rw [CircuitBreaker.record, CircuitBreaker.recordFailure, if_pos hprobe,
            Prog.eval_bind_ok eval_reopenBreaker, Prog.eval_bind_ok eval_snapshotBreaker]
          refine ⟨_, _, rfl, fun _ => probeActive_of_none ?_⟩
          rw [probe_trimmed, probe_reopened]

/-! ### The stages -/

/-- The services answer as the environment says. -/
def Environment.protocol (env : Environment K) (ctx : Ctx K) : Protocol (ServiceSig K) Exc :=
  ⟨fun _ _ => True, fun _ o r => r = env.answer ctx o⟩

section Stages

variable {ctx : Ctx K} {env : Environment K} {o : Order K} {b : CircuitBreaker K}
  {h : ServiceHistory K}

@[simp] theorem recorded_nil : recorded ([] : ServiceHistory K) = [] := rfl

theorem record_obeys (ctx : Ctx K) (env : Environment K) (action : Action) (b : CircuitBreaker K)
    (h : ServiceHistory K) :
    Obeys (env.protocol ctx) (Service.record action (some b))
      (fun res h' => res = .ok () ∧ recorded h' = (action, b) :: recorded h) h := by
  obtain ⟨r, s', heval, -⟩ := eval_record ctx env.uuids env.later b action
  refine ⟨trivial, ?_⟩
  rintro r' hr
  have hok : r' = .ok r := by
    rw [hr]
    show Prod.fst _ = _
    rw [heval]
  rw [hok]
  exact ⟨rfl, rfl⟩

/-- The repository passes a result on and hides an exception. -/
theorem idempotency_reply (op : StoreOp) {r : Except Exc op.Ret}
    (hr : r = env.answer ctx (.idempotency op)) :
    (∃ a, r = .ok a ∧ env.idempotency op = .ok a) ∨
      ∃ e message, r = .error (.storage message) ∧ env.idempotency op = .error e := by
  change r = (env.idempotency op).mapError _ at hr
  cases hop : env.idempotency op with
  | ok a =>
      rw [hop] at hr
      exact .inl ⟨a, hr, rfl⟩
  | error e =>
      rw [hop] at hr
      exact .inr ⟨e, _, hr, rfl⟩

/-- A call of the idempotency repository whose failure is ignored. -/
theorem swallow_obeys (ctx : Ctx K) (env : Environment K) (op : StoreOp) (h : ServiceHistory K) :
    Obeys (env.protocol ctx) (Service.swallow (Service.idempotency op))
      (fun res h' => res = .ok () ∧ recorded h' = recorded h) h := by
  refine ⟨trivial, ?_⟩
  intro r hr
  rcases idempotency_reply op hr with ⟨a, rfl, -⟩ | ⟨e, message, rfl, -⟩
  · exact ⟨rfl, rfl⟩
  · exact ⟨rfl, rfl⟩

theorem saveFailedStage_obeys (ctx : Ctx K) (env : Environment K) (o : Order K)
    (reserved : Option Record) (message : String) (status : ℤ) (body : Dict)
    (h : ServiceHistory K) :
    Obeys (env.protocol ctx) (saveFailedStage o reserved message status body)
      (fun res h' => res = .ok () ∧ recorded h' = recorded h) h := by
  unfold saveFailedStage
  split
  · exact swallow_obeys ctx env _ h
  · exact ⟨rfl, rfl⟩

/-- The ends of the request after a failure record it. -/
theorem failStage_obeys (hb : o.breaker = some b) (hnone : recorded h = [])
    (reserved : Option Record) (message : String) (status : ℤ) (body : Dict)
    (result : ServiceResult) :
    Obeys (env.protocol ctx) (failStage o reserved message status body result)
      (fun res h' => res = .ok (.done result) ∧ recorded h' = [(.failure, b)]) h := by
  rw [failStage, hb]
  refine (record_obeys ctx env .failure b h).bind ?_ ?_
  · rintro u h₁ ⟨-, h₁rec⟩
    refine (saveFailedStage_obeys ctx env o reserved message status body h₁).bind ?_ ?_
    · rintro u h₂ ⟨-, h₂rec⟩
      refine ⟨rfl, ?_⟩
      rw [h₂rec, h₁rec, hnone]
    · rintro e h₂ ⟨he, -⟩
      cases he
  · rintro e h₁ ⟨he, -⟩
    cases he

theorem call_obeys (ctx : Ctx K) (env : Environment K) (op : ServiceOp K)
    (h : ServiceHistory K) :
    Obeys (env.protocol ctx) (Service.call op)
      (fun res h' => res = env.answer ctx op ∧ h' = ⟨op, env.answer ctx op⟩ :: h) h := by
  refine .perform trivial ?_
  rintro r rfl
  exact ⟨rfl, rfl⟩

/-- Whether the order was saved is a value, a failure is caught. -/
theorem saved_obeys (ctx : Ctx K) (env : Environment K) (orderId : String) (doc : Dict)
    (h : ServiceHistory K) :
    Obeys (env.protocol ctx)
      (Service.onStorage (do Service.call (.saveOrder orderId doc); pure true) (pure false))
      (fun res h' => (∃ saved, res = .ok saved) ∧ recorded h' = recorded h) h := by
  refine ⟨trivial, ?_⟩
  intro r hr
  change r = env.order.mapError _ at hr
  cases horder : env.order with
  | ok u =>
      rw [horder] at hr
      rw [hr]
      exact ⟨⟨true, rfl⟩, rfl⟩
  | error e =>
      rw [horder] at hr
      rw [hr]
      exact ⟨⟨false, rfl⟩, rfl⟩

/-- `placeOrder` records once, or raises what the fault hook raised. -/
theorem placeOrder_obeys (hb : o.breaker = some b) (hnone : recorded h = [])
    (reserved : Option Record) (processingTime : K) :
    Obeys (env.protocol ctx) (placeOrder ctx o reserved processingTime)
      (fun res h' => (∃ flow, res = .ok flow) ∧ env.fault = .ok () ∧
          (∃ action, recorded h' = [(action, b)]) ∨
        (∃ e, res = .error e ∧ env.fault = .error e) ∧ recorded h' = []) h := by
  rw [placeOrder]
  refine (call_obeys ctx env (.beforeServiceOperation "service") h).bind ?_ ?_
  · intro u h₁ hcall
    obtain ⟨hfault, rfl⟩ := hcall
    refine (call_obeys ctx env (.sleep processingTime) _).bind ?_ ?_
    · rintro u h₂ ⟨-, rfl⟩
      refine (call_obeys ctx env .random _).bind ?_ ?_
      · rintro draw h₃ ⟨-, rfl⟩
        split
        · have h₃none : recorded (⟨.random, env.answer ctx .random⟩ ::
              ⟨.sleep processingTime, env.answer ctx (.sleep processingTime)⟩ ::
              ⟨.beforeServiceOperation "service",
                env.answer ctx (.beforeServiceOperation "service")⟩ :: h) = [] := hnone
          refine (failStage_obeys hb h₃none reserved _ _ _ _).mono ?_
          rintro res h₄ ⟨hres, h₄rec⟩
          exact .inl ⟨⟨_, hres⟩, hfault.symm, _, h₄rec⟩
        · refine (call_obeys ctx env .uuid4 _).bind ?_ ?_
          · rintro hex h₄ ⟨-, rfl⟩
            refine (saved_obeys ctx env _ o.doc _).bind ?_ ?_
            · rintro saved h₅ ⟨-, h₅rec⟩
              have h₅none : recorded h₅ = [] := h₅rec.trans hnone
              cases saved with
              | true =>
                  rw [if_pos rfl, hb]
                  refine (record_obeys ctx env .success b h₅).bind ?_ ?_
                  · rintro u h₆ ⟨-, h₆rec⟩
                    rw [h₅none] at h₆rec
                    exact .inl ⟨⟨_, rfl⟩, hfault.symm, _, h₆rec⟩
                  · rintro e h₆ ⟨he, -⟩
                    cases he
              | false =>
                  refine (failStage_obeys hb h₅none reserved _ _ _ _).mono ?_
                  rintro res h₆ ⟨hres, h₆rec⟩
                  exact .inl ⟨⟨_, hres⟩, hfault.symm, _, h₆rec⟩
            · rintro e h₅ ⟨⟨saved, he⟩, -⟩
              cases he
          · rintro e h₄ ⟨he, -⟩
            cases he
      · rintro e h₃ ⟨he, -⟩
        cases he
    · rintro e h₂ ⟨he, -⟩
      cases he
  · rintro e h₁ ⟨hfault, rfl⟩
    exact .inr ⟨⟨e, rfl, hfault.symm⟩, hnone⟩

/-- What the work comes to: one record when it is in time and no foreign
exception comes out of the fault hook, otherwise none. -/
def WorkRecorded (ctx : Ctx K) (startedAt : K) (env : Environment K) (b : CircuitBreaker K)
    (h : ServiceHistory K) : Prop :=
  (orderDeadlineExceeded (env.now - startedAt) env.processingTime ctx.businessTimeoutMs = false ∧
      (∀ e, env.fault = .error e → e.isChaos = true) ∧ ∃ action, recorded h = [(action, b)]) ∨
    (orderDeadlineExceeded (env.now - startedAt) env.processingTime ctx.businessTimeoutMs = true ∨
      ∃ e, env.fault = .error e ∧ e.isChaos = false) ∧ recorded h = []

/-- The handlers record a chaos fault and pass on the rest. -/
theorem placed_obeys (hb : o.breaker = some b) (hnone : recorded h = [])
    (reserved : Option Record) (processingTime : K) :
    Obeys (env.protocol ctx)
      ((placeOrder ctx o reserved processingTime).handle (chaosStage o reserved))
      (fun res h' => (∀ e, env.fault = .error e → e.isChaos = true) ∧
          (∃ flow, res = .ok flow) ∧ (∃ action, recorded h' = [(action, b)]) ∨
        (∃ e, env.fault = .error e ∧ e.isChaos = false) ∧ (∃ e, res = .error e) ∧
          recorded h' = []) h := by
  refine (placeOrder_obeys hb hnone reserved processingTime).handle ?_ ?_
  · rintro flow h' (⟨hok, hfault, hrec⟩ | ⟨⟨e, he, -⟩, -⟩)
    · refine .inl ⟨?_, hok, hrec⟩
      intro e he
      rw [hfault] at he
      cases he
    · cases he
  · rintro e h' (⟨⟨flow, he⟩, -⟩ | ⟨⟨e', he, hfault⟩, h'none⟩)
    · cases he
    · obtain rfl := Except.error.inj he
      have hchaos : e.isChaos = true → ∀ e', env.fault = .error e' → e'.isChaos = true := by
        intro hc e' he'
        rw [hfault] at he'
        exact Except.error.inj he' ▸ hc
      cases e with
      | chaosDrop f =>
          refine (failStage_obeys hb h'none reserved _ _ _ _).mono ?_
          rintro res h₁ ⟨hres, h₁rec⟩
          exact .inl ⟨hchaos rfl, ⟨_, hres⟩, _, h₁rec⟩
      | chaosFault f =>
          refine (failStage_obeys hb h'none reserved _ _ _ _).mono ?_
          rintro res h₁ ⟨hres, h₁rec⟩
          exact .inl ⟨hchaos rfl, ⟨_, hres⟩, _, h₁rec⟩
      | _ => exact .inr ⟨⟨_, hfault, rfl⟩, ⟨_, rfl⟩, h'none⟩

theorem finishStage_obeys (ctx : Ctx K) (env : Environment K) (o : Order K) (orderId : String)
    (h : ServiceHistory K) :
    Obeys (env.protocol ctx) (finishStage o orderId)
      (fun _ h' => recorded h' = recorded h) h := by
  unfold finishStage
  split
  · refine (swallow_obeys ctx env _ h).bind ?_ ?_
    · rintro u h₁ ⟨-, h₁rec⟩
      exact h₁rec
    · rintro e h₁ ⟨-, h₁rec⟩
      exact h₁rec
  · exact (rfl : recorded h = recorded h)

theorem timeoutStage_obeys (ctx : Ctx K) (env : Environment K) (o : Order K)
    (reserved : Option Record) (h : ServiceHistory K) :
    Obeys (env.protocol ctx) (timeoutStage o reserved)
      (fun _ h' => recorded h' = recorded h) h := by
  unfold timeoutStage
  split
  · refine (swallow_obeys ctx env _ h).bind ?_ ?_
    · rintro u h₁ ⟨-, h₁rec⟩
      exact h₁rec
    · rintro e h₁ ⟨-, h₁rec⟩
      exact h₁rec
  · exact (rfl : recorded h = recorded h)

theorem workStage_obeys (henable : ctx.enableResilience = true) (startedAt : K)
    (hb : o.breaker = some b) (hnone : recorded h = []) (reserved : Option Record) :
    Obeys (env.protocol ctx) (workStage ctx startedAt o reserved)
      (fun _ h' => WorkRecorded ctx startedAt env b h') h := by
  rw [workStage]
  refine (call_obeys ctx env (.uniform (1 / 100) (1 / 20)) h).bind ?_ ?_
  · rintro processingTime h₁ ⟨hp, rfl⟩
    obtain rfl : processingTime = env.processingTime := Except.ok.inj hp
    refine (call_obeys ctx env .time _).bind ?_ ?_
    · rintro now h₂ ⟨hn, rfl⟩
      obtain rfl : now = env.now := Except.ok.inj hn
      rw [henable, Bool.true_and]
      cases hlate : orderDeadlineExceeded (env.now - startedAt) env.processingTime
          ctx.businessTimeoutMs with
      | true =>
          refine (timeoutStage_obeys ctx env o reserved _).mono ?_
          intro res h₃ h₃rec
          exact .inr ⟨.inl hlate, h₃rec.trans hnone⟩
      | false =>
          rw [if_neg Bool.false_ne_true]
          have h₂none : recorded (⟨.time, env.answer ctx .time⟩ ::
              ⟨.uniform (1 / 100) (1 / 20), env.answer ctx (.uniform (1 / 100) (1 / 20))⟩ ::
              h) = [] := hnone
          refine (placed_obeys hb h₂none reserved env.processingTime).bind ?_ ?_
          · rintro flow h₃ (⟨hfault, -, action, hrec⟩ | ⟨-, ⟨e, he⟩, -⟩)
            · cases flow with
              | done result => exact .inl ⟨hlate, hfault, action, hrec⟩
              | goOn orderId =>
                  refine (finishStage_obeys ctx env o orderId h₃).mono ?_
                  intro res h₄ h₄rec
                  exact .inl ⟨hlate, hfault, action, h₄rec.trans hrec⟩
            · cases he
          · rintro e h₃ (⟨-, ⟨flow, he⟩, -⟩ | ⟨hfault, -, h₃none⟩)
            · cases he
            · exact .inr ⟨.inr hfault, h₃none⟩
    · rintro e h₂ ⟨he, -⟩
      cases he
  · rintro e h₁ ⟨he, -⟩
    cases he

theorem replay_obeys (ctx : Ctx K) (env : Environment K) (record : Record)
    (h : ServiceHistory K) :
    Obeys (env.protocol ctx) (replay record) (fun res h' => h' = h ∧
      ((∃ result, res = .ok (.done result)) ∨ ∃ e, res = .error e ∧ e.isStorage = false)) h := by
  rw [replay]
  cases hreplay : buildReplayResponse record with
  | ok answer => exact ⟨rfl, .inl ⟨_, rfl⟩⟩
  | error e =>
      refine ⟨rfl, .inr ⟨e, rfl, ?_⟩⟩
      rcases buildReplayResponse_error hreplay with rfl | rfl <;> rfl

/-- A replay ends the request, with an answer or an exception. -/
theorem replayed_obeys (ctx : Ctx K) (env : Environment K) (record : Record)
    (h : ServiceHistory K) :
    Obeys (env.protocol ctx) (Service.onStorage (replay record) (pure (.goOn none)))
      (fun res h' => h' = h ∧ ¬ ∃ reserved, res = .ok (.goOn reserved)) h := by
  refine (replay_obeys ctx env record h).handle ?_ ?_
  · rintro flow h' ⟨rfl, ⟨result, hres⟩ | ⟨e, he, -⟩⟩
    · rw [hres]
      exact ⟨rfl, by simp⟩
    · cases he
  · rintro e h' ⟨rfl, ⟨result, hres⟩ | ⟨e', he, hstorage⟩⟩
    · cases hres
    · obtain rfl := Except.error.inj he
      rw [hstorage, if_neg Bool.false_ne_true]
      exact ⟨rfl, by simp⟩

/-- The reservation records nothing, and goes on exactly where it should. -/
theorem reserveStage_obeys (ctx : Ctx K) (env : Environment K) (o : Order K)
    (h : ServiceHistory K) :
    Obeys (env.protocol ctx) (reserveStage o)
      (fun res h' => recorded h' = recorded h ∧
        ((∃ reserved, res = .ok (.goOn reserved)) ↔ ∀ key ∈ o.key, env.GoesOn key o.payloadFp))
      h := by
  unfold reserveStage
  cases hkey : o.key with
  | none => exact ⟨rfl, by simp⟩
  | some key =>
      refine ⟨trivial, ?_⟩
      intro r hr
      have hgoes : (∀ k ∈ some key, env.GoesOn k o.payloadFp) ↔ env.GoesOn key o.payloadFp := by
        simp
      simp only [hgoes]
      rcases idempotency_reply (.reserve key o.payloadFp) hr with
        ⟨⟨state, record⟩, rfl, hreply⟩ | ⟨e, message, rfl, hreply⟩
      · cases state with
        | owner =>
            refine ⟨rfl, ?_⟩
            rw [Environment.GoesOn, hreply]
            simp
        | replay =>
            refine (replayed_obeys ctx env record _).mono ?_
            rintro res h' ⟨rfl, hres⟩
            refine ⟨rfl, ?_⟩
            rw [Environment.GoesOn, hreply]
            simpa using hres
        | conflict =>
            refine ⟨rfl, ?_⟩
            rw [Environment.GoesOn, hreply]
            simp
        | processing =>
            refine ⟨trivial, ?_⟩
            intro r' hr'
            rw [Environment.GoesOn, hreply]
            rcases idempotency_reply (.waitForResult key o.payloadFp) hr' with
              ⟨⟨waited, record'⟩, rfl, hwait⟩ | ⟨e, message, rfl, hwait⟩
            · cases waited with
              | replay =>
                  refine (replayed_obeys ctx env record' _).mono ?_
                  rintro res h' ⟨rfl, hres⟩
                  refine ⟨rfl, ?_⟩
                  rw [hwait]
                  simpa using hres
              | _ =>
                  refine ⟨rfl, ?_⟩
                  rw [hwait]
                  simp
            · refine ⟨rfl, ?_⟩
              rw [hwait]
              simp
      · refine ⟨rfl, ?_⟩
        rw [Environment.GoesOn, hreply]
        simp

theorem admittedStage_obeys (henable : ctx.enableResilience = true) (startedAt : K)
    (command : CreateOrderCommand) (hnone : recorded h = []) :
    Obeys (env.protocol ctx) (admittedStage ctx startedAt command (some b))
      (fun _ h' => Settles ctx startedAt command env ∧ (∃ action, recorded h' = [(action, b)]) ∨
        ¬ Settles ctx startedAt command env ∧ recorded h' = []) h := by
  unfold admittedStage
  cases hitem : command.item? with
  | none =>
      refine .inr ⟨fun hs => ?_, hnone⟩
      have hvalid := hs.valid.1
      rw [hitem] at hvalid
      cases hvalid
  | some itemId =>
      dsimp only
      by_cases hq : command.quantity ≤ 0
      · rw [if_pos hq]
        exact .inr ⟨fun hs => absurd hs.valid.2 (not_lt.mpr hq), hnone⟩
      · rw [if_neg hq]
        -- the request is valid, so it settles when its three stages let it
        have hsettles : Settles ctx startedAt command env ↔
            (∀ key ∈ command.key?,
              env.GoesOn key (idemPayloadFingerprint itemId command.quantity)) ∧
            orderDeadlineExceeded (env.now - startedAt) env.processingTime
              ctx.businessTimeoutMs = false ∧ ∀ e, env.fault = .error e → e.isChaos = true := by
          constructor
          · intro hs
            exact ⟨hs.goesOn itemId hitem, hs.inTime, hs.fault⟩
          · rintro ⟨hgoes, htime, hfault⟩
            refine ⟨⟨by rw [hitem]; rfl, not_le.mp hq⟩, ?_, htime, hfault⟩
            intro itemId' hitem'
            rw [hitem] at hitem'
            obtain rfl := Option.some.inj hitem'
            exact hgoes
        rw [hsettles]
        refine (reserveStage_obeys ctx env ⟨itemId, command.quantity, command.key?, some b⟩ h).bind
          ?_ ?_
        · rintro flow h₁ ⟨h₁rec, hgoes⟩
          have h₁none : recorded h₁ = [] := h₁rec.trans hnone
          cases flow with
          | done result =>
              refine .inr ⟨fun hs => ?_, h₁none⟩
              obtain ⟨reserved, hres⟩ := hgoes.mpr hs.1
              cases hres
          | goOn reserved =>
              refine (workStage_obeys henable startedAt rfl h₁none reserved).mono ?_
              rintro res h₂ (⟨htime, hfault, hrec⟩ | ⟨hfail, h₂none⟩)
              · exact .inl ⟨⟨hgoes.mp ⟨reserved, rfl⟩, htime, hfault⟩, hrec⟩
              · refine .inr ⟨?_, h₂none⟩
                rintro ⟨-, htime, hfault⟩
                rcases hfail with hlate | ⟨e, he, hforeign⟩
                · rw [htime] at hlate
                  cases hlate
                · rw [hfault e he] at hforeign
                  cases hforeign
        · rintro e h₁ ⟨h₁rec, hgoes⟩
          refine .inr ⟨fun hs => ?_, h₁rec.trans hnone⟩
          obtain ⟨reserved, hres⟩ := hgoes.mpr hs.1
          cases hres

end Stages

/-! ### Settling -/

/-- **An admitted request settles with the breaker exactly once, if it is
valid, gets past the reservation, is in time and meets no foreign exception.**
In all other cases it does not settle. -/
theorem settledOnce_iff (ctx : Ctx K) (henable : ctx.enableResilience = true)
    (env : Environment K) (startedAt : K) (command : CreateOrderCommand) {b : CircuitBreaker K}
    (hallow : env.answer ctx (.allowRequest (buildCircuitBreaker ctx)) = .ok (true, b)) :
    SettledOnce ctx env b (env.createOrder ctx startedAt command).2 ↔
      Settles ctx startedAt command env := by
  have hobeys : Obeys (env.protocol ctx) (createOrder ctx startedAt command)
      (fun _ h' => Settles ctx startedAt command env ∧ (∃ action, recorded h' = [(action, b)]) ∨
        ¬ Settles ctx startedAt command env ∧ recorded h' = []) [] := by
    rw [createOrder, if_pos henable]
    refine (call_obeys ctx env _ []).bind ?_ ?_
    · rintro r h₁ ⟨hr, rfl⟩
      rw [hallow] at hr
      obtain rfl := Except.ok.inj hr
      exact admittedStage_obeys henable startedAt command rfl
    · rintro e h₁ ⟨he, -⟩
      rw [hallow] at he
      cases he
  have hans : ∀ h o, (env.protocol ctx).mayReply h o (env.answer ctx o) := fun _ _ => rfl
  rcases hobeys.answeredBy hans with ⟨hs, action, hrec⟩ | ⟨hs, hrec⟩
  · refine ⟨fun _ => hs, fun _ => ⟨action, hrec, fun hprobe => ?_⟩⟩
    obtain ⟨r, s', heval, hgone⟩ := eval_record ctx env.uuids env.later b action
    rw [heval]
    exact hgone hprobe
  · refine ⟨?_, fun hs' => absurd hs' hs⟩
    rintro ⟨action, hrec', -⟩
    rw [Environment.createOrder, hrec] at hrec'
    cases hrec'

/-! ### The half-open probe -/

/-- The breaker is HALF_OPEN, and every service answers at once. -/
def halfOpenEnvironment : Environment ℚ where
  store := ⟨(Store.put (fun _ => none) (.openUntil .legacy) 5 none : Data ℚ), 10, []⟩
  later := ⟨(Store.put (fun _ => none) (.openUntil .legacy) 5 none : Data ℚ), 10, []⟩
  uuids := .unary
  idempotency
    | .reserve _ _ => .ok (.owner, .empty)
    | .waitForResult _ _ => .ok (.missing, .empty)
    | .release _ _ => .ok true
    | .finalizeSuccess _ _ _ _ _ => .ok ()
    | .saveFailed _ _ _ _ _ => .ok ()
  order := .ok ()
  fault := .ok ()
  now := 10
  processingTime := 1 / 50
  draw := 1
  hex := "0123456789abcdef0123456789abcdef"

/-- The breaker after it has given out the probe. -/
def probeBreaker : CircuitBreaker ℚ :=
  { buildCircuitBreaker defaultCtx with lastState := .halfOpen, probeAcquired := true }

theorem halfOpen_admits : halfOpenEnvironment.answer defaultCtx
    (.allowRequest (buildCircuitBreaker defaultCtx)) = .ok (true, probeBreaker) := by
  rfl

/-- A valid request with a key settles the probe. -/
theorem settledOnce_probe : SettledOnce defaultCtx halfOpenEnvironment probeBreaker
    (halfOpenEnvironment.createOrder defaultCtx 10 ⟨some "a", 1, some "k"⟩).2 := by
  refine (settledOnce_iff defaultCtx rfl halfOpenEnvironment 10 ⟨some "a", 1, some "k"⟩
    halfOpen_admits).mpr ⟨⟨rfl, by decide⟩, ?_, by decide +kernel, ?_⟩
  · intro itemId _ key _
    trivial
  · intro e he
    cases he

/-- A request without an item leaves the probe key it acquired behind. -/
theorem not_settledOnce_invalid :
    (((buildCircuitBreaker defaultCtx).allowRequest defaultCtx).eval
      (HostState.nominal .unary) halfOpenEnvironment.store).2.probeActive .legacy = true ∧
    (halfOpenEnvironment.answer defaultCtx (.allowRequest (buildCircuitBreaker defaultCtx))) =
      .ok (true, probeBreaker) ∧
    ¬ SettledOnce defaultCtx halfOpenEnvironment probeBreaker
      (halfOpenEnvironment.createOrder defaultCtx 10 ⟨none, 1, none⟩).2 := by
  refine ⟨by decide +kernel, halfOpen_admits, ?_⟩
  rintro ⟨action, hrec, -⟩
  cases hrec

end ChaosDemo
