/-
ChaosDemo/SparedRequests.lean

Requests none of whose calls fails.  No service raises then (`serviceCall_spared`), so
`create_order` never comes to the handlers of injected faults, and every FAILED record it
writes carries the status 503:

    save_failed(..., "inventory busy", 503, ...)
    save_failed(..., "order store unavailable", 503, ...)

With a fault the status is the fault's own, which may be anything.
-/
import ChaosDemo.OrderClient

set_option linter.unusedSectionVars false

namespace CallTree

variable {S : Sig} {ε α : Type} {P : Protocol S ε}

/-- Every call is answered. -/
def AlwaysAnswers (P : Protocol S ε) : Prop := ∀ h o r, P.mayReply h o r → ∃ v, r = .ok v

/-- A program that raises nothing of its own returns where every call is answered. -/
theorem Obeys.returns_of_unfailing (hP : AlwaysAnswers P) {p : Prog S ε α} {Q : Post S ε α}
    {h : History S ε} (hp : Obeys P p Q h) (hu : p.Unfailing) :
    Obeys P p (fun res _ => ∃ a, res = .ok a) h := by
  induction p generalizing h with
  | ret a => exact ⟨a, rfl⟩
  | raise e => exact hu.elim
  | call o k ih =>
      refine ⟨hp.1, fun r hr => ?_⟩
      obtain ⟨v, rfl⟩ := hP h o r hr
      exact ih (.ok v) (hp.2 _ hr) (hu v)

theorem Obeys.pure_ok (a : α) (h : History S ε) :
    Obeys P (pure a) (fun res _ => ∃ a, res = .ok a) h := ⟨a, rfl⟩

/-- Sequencing of programs that return. -/
theorem Obeys.bind_ok {β : Type} {p : Prog S ε α} {f : α → Prog S ε β} {Q : Post S ε β}
    {h : History S ε} (hp : Obeys P p (fun res _ => ∃ a, res = .ok a) h)
    (hf : ∀ a h', Obeys P (f a) Q h') : Obeys P (p >>= f) Q h := by
  apply hp.bind
  · exact fun a h' _ => hf a h'
  · rintro e h' ⟨a, ha⟩
    cases ha

/-- A handler that is never called. -/
theorem Obeys.handle_ok {p : Prog S ε α} {g : ε → Prog S ε α} {h : History S ε}
    (hp : Obeys P p (fun res _ => ∃ a, res = .ok a) h) :
    Obeys P (p.handle g) (fun res _ => ∃ a, res = .ok a) h := by
  apply hp.handle
  · exact fun a h' _ => ⟨a, rfl⟩
  · rintro e h' ⟨a, ha⟩
    cases ha

end CallTree

namespace ChaosDemo

open CallTree

variable {K : Type} [Field K] [LinearOrder K] [IsStrictOrderedRing K] [FloorRing K]

/-! ### `create_order` -/

/-- Services that do not raise; FAILED records get the status 503. -/
def sparedServices : Protocol (ServiceSig K) Exc where
  mayCall _ o := match o with
    | .idempotency (.saveFailed _ _ _ status _) => status = 503
    | _ => True
  mayReply _ _ r := ∃ v, r = .ok v

theorem sparedServices_answers : AlwaysAnswers (sparedServices : Protocol (ServiceSig K) Exc) :=
  fun _ _ _ hr => hr

section Program

variable {h : ServiceHistory K} {o : Order K} {reserved : Option Record}

theorem call_spared (op : ServiceOp K) (hop : sparedServices.mayCall h op) :
    Obeys sparedServices (Service.call op) (fun res _ => ∃ a, res = .ok a) h :=
  .perform hop fun _ hr => hr

theorem idempotency_spared (op : StoreOp)
    (hop : (sparedServices : Protocol (ServiceSig K) Exc).mayCall h (.idempotency op)) :
    Obeys sparedServices (Service.idempotency op : Service K op.Ret)
      (fun res _ => ∃ a, res = .ok a) h :=
  .perform hop fun _ hr => hr

theorem record_spared (action : Action) (breaker : Option (CircuitBreaker K)) :
    Obeys sparedServices (Service.record action breaker) (fun res _ => ∃ a, res = .ok a) h := by
  cases breaker with
  | none => exact ⟨(), rfl⟩
  | some breaker =>
      exact (call_spared (.record action breaker) trivial).bind_ok fun _ => .pure_ok ()

theorem swallow_spared (op : StoreOp)
    (hop : (sparedServices : Protocol (ServiceSig K) Exc).mayCall h (.idempotency op)) :
    Obeys sparedServices (Service.swallow (Service.idempotency op : Service K op.Ret))
      (fun res _ => ∃ a, res = .ok a) h :=
  ((idempotency_spared op hop).bind_ok fun _ => .pure_ok ()).handle_ok

theorem failStage_spared (message : String) (body : Dict) (result : ServiceResult) :
    Obeys sparedServices (failStage o reserved message 503 body result)
      (fun res _ => ∃ a, res = .ok a) h := by
  rw [failStage]
  apply (record_spared _ _).bind_ok
  intro _ h'
  have hsave : Obeys sparedServices (saveFailedStage o reserved message 503 body)
      (fun res _ => ∃ a, res = .ok a) h' := by
    rcases o with ⟨itemId, quantity, key, breaker⟩
    cases key <;> cases reserved
    case some.some key r => exact swallow_spared (.saveFailed key _ message 503 body) rfl
    all_goals exact .pure_ok () _
  exact hsave.bind_ok fun _ => .pure_ok _

theorem placeOrder_spared (ctx : Ctx K) (processingTime : K) :
    Obeys sparedServices (placeOrder ctx o reserved processingTime)
      (fun res _ => ∃ a, res = .ok a) h := by
  rw [placeOrder]
  apply (call_spared (.beforeServiceOperation "service") trivial).bind_ok
  intro _ h₁
  apply (call_spared (.sleep processingTime) trivial).bind_ok
  intro _ h₂
  apply (call_spared .random trivial).bind_ok
  intro draw h₃
  split
  · exact failStage_spared ..
  · apply (call_spared .uuid4 trivial).bind_ok
    intro hex h₄
    have hsave : Obeys sparedServices (Service.onStorage
        (do Service.call (.saveOrder (uuidStr hex) o.doc); pure true) (pure false))
        (fun res _ => ∃ a, res = .ok a) h₄ :=
      ((call_spared (.saveOrder (uuidStr hex) o.doc) trivial).bind_ok
        fun _ => .pure_ok true).handle_ok
    apply hsave.bind_ok
    intro saved h₅
    cases saved with
    | true => exact (record_spared _ _).bind_ok fun _ => .pure_ok _
    | false => exact failStage_spared ..

theorem workStage_spared (ctx : Ctx K) (startedAt : K) :
    Obeys sparedServices (workStage ctx startedAt o reserved)
      (fun res _ => ∃ a, res = .ok a) h := by
  rw [workStage]
  apply (call_spared (.uniform (1 / 100) (1 / 20)) trivial).bind_ok
  intro processingTime h₁
  apply (call_spared .time trivial).bind_ok
  intro now h₂
  rcases o with ⟨itemId, quantity, key, breaker⟩
  split
  · cases key <;> cases reserved
    case some.some key r =>
      exact (swallow_spared (.release key r) trivial).bind_ok fun _ => .pure_ok _
    all_goals exact .pure_ok _ _
  · apply (placeOrder_spared ctx processingTime).handle_ok.bind_ok
    intro flow h₃
    cases flow with
    | done result => exact .pure_ok _ _
    | goOn orderId =>
        cases key with
        | none => exact .pure_ok _ _
        | some key =>
            exact (swallow_spared (.finalizeSuccess key _ orderId 201 (createdBody orderId))
              trivial).bind_ok fun _ => .pure_ok _

/-- Only a reservation may raise: the record that it replays may have no status. -/
theorem reserveStage_spared :
    Obeys sparedServices (reserveStage o) (fun _ _ => True) h := by
  have hreplay : ∀ (r : Record) (h' : ServiceHistory K),
      Obeys sparedServices (replay r) (fun _ _ => True) h' := by
    intro r h'
    rw [replay]
    cases buildReplayResponse r with
    | ok answer => trivial
    | error e => trivial
  rcases o with ⟨itemId, quantity, key, breaker⟩
  cases key with
  | none => trivial
  | some key =>
      refine Obeys.handle (Q := fun _ _ => True) ?_ (fun _ _ _ => trivial) ?_
      · apply (idempotency_spared (.reserve key _) trivial).bind_ok
        rintro ⟨state, record⟩ h₁
        cases state with
        | owner => trivial
        | replay => exact hreplay record h₁
        | conflict => trivial
        | processing =>
            apply (idempotency_spared (.waitForResult key _) trivial).bind_ok
            rintro ⟨waited, record⟩ h₂
            cases waited with
            | replay => exact hreplay record h₂
            | _ => trivial
      · intro e h₁ _
        show Obeys _ (if e.isStorage then _ else _) _ _
        split <;> trivial

theorem createOrder_spared (ctx : Ctx K) (startedAt : K) (command : CreateOrderCommand) :
    Obeys sparedServices (createOrder ctx startedAt command) (fun _ _ => True) h := by
  have hadmitted : ∀ (breaker : Option (CircuitBreaker K)) (h' : ServiceHistory K),
      Obeys sparedServices (admittedStage ctx startedAt command breaker) (fun _ _ => True) h' := by
    intro breaker h'
    rw [admittedStage]
    split
    · trivial
    · split
      · trivial
      · apply reserveStage_spared.bind
        · intro flow h₁ _
          cases flow with
          | done result => trivial
          | goOn reserved => exact (workStage_spared ctx startedAt).mono fun _ _ _ => trivial
        · exact fun _ _ _ => trivial
  rw [createOrder]
  split
  · apply (call_spared (.allowRequest (buildCircuitBreaker ctx)) trivial).bind_ok
    rintro ⟨allowed, breaker⟩ h₁
    cases allowed with
    | true => exact hadmitted _ _
    | false => trivial
  · exact hadmitted _ _

end Program

/-! ### On the server -/

/-- The status under which a FAILED text is stored. -/
def FailsUnavailable (v : Raw) : Prop :=
  v.state = idemStateFailed → v.data.get "response_status" = .int 503

/-- Calls that do not fail; FAILED texts have the status 503. -/
def sparedHost : Protocol (HostSig K) Exc where
  mayCall _ o := match o with
    | .redis (.setex (.idem _) _ v) => FailsUnavailable v
    | _ => True
  mayReply _ o r := HostReply o r ∧ ∃ v, r = .ok v

theorem sparedHost_hosted : Hosted (sparedHost : Protocol (HostSig K) Exc) :=
  fun _ _ _ hr => hr.1

theorem sparedHost_answers : AlwaysAnswers (sparedHost : Protocol (HostSig K) Exc) :=
  fun _ _ _ hr => hr.2

section Server

variable {ctx : Ctx K} {h : HostHistory K}

theorem sparedHost_undisturbed :
    Undisturbed (sparedHost : Protocol (HostSig K) Exc) fun _ => True := by
  intro h o _ ho
  refine ⟨?_, fun _ _ => trivial⟩
  cases o with
  | redis c => cases ho
  | _ => trivial

theorem sparedHost_reading (k : String) :
    Reading (sparedHost : Protocol (HostSig K) Exc) k fun _ => True :=
  ⟨sparedHost_hosted, sparedHost_undisturbed, fun _ _ => ⟨trivial, fun _ _ => trivial⟩⟩

theorem sparedHost_reserving (k fp : String) :
    Reserving (sparedHost : Protocol (HostSig K) Exc) ctx k fp (fun _ => True) fun _ => True := by
  refine ⟨sparedHost_reading k, sparedHost_reading k, fun _ _ => trivial, ?_, ?_, ?_⟩
  · exact fun _ _ => ⟨trivial, fun _ _ => trivial⟩
  · exact fun _ _ _ _ => ⟨trivial, fun _ _ _ => trivial⟩
  · exact fun _ _ _ _ => ⟨trivial, fun _ _ => ⟨trivial, fun _ => trivial⟩⟩

theorem executeRedis_spared (operation : String) (c : Cmd K)
    (hc : (sparedHost : Protocol (HostSig K) Exc).mayCall h (.redis c)) :
    Obeys sparedHost (executeRedis ctx operation c) (fun _ _ => True) h :=
  executeRedis_obeys sparedHost_hosted ctx operation (I := fun _ => True) sparedHost_undisturbed
    (fun _ _ => hc) (fun _ _ _ _ => trivial) (fun _ _ _ _ => trivial) (fun _ _ _ => trivial)
    trivial

/-- A repository whose calls are answered passes the answer on. -/
theorem repository_spared {α : Type} {message : String} {p : Host K α} {Q : Post (HostSig K) Exc α}
    (hp : Obeys sparedHost p Q h) (hu : p.Unfailing) :
    Obeys sparedHost (repository message p) (fun res _ => ∃ a, res = .ok a) h :=
  (hp.returns_of_unfailing sparedHost_answers hu).handle_ok

theorem terminalWrite_spared (k operation : String) (text : ℤ → Raw)
    (htext : ∀ n, FailsUnavailable (text n)) :
    Obeys sparedHost (do
      let now ← Host.time
      executeRedis ctx operation (.setex (.idem k) ctx.idemTtlSec (text (pyInt now))) :
        Host K Unit) (fun _ _ => True) h :=
  terminalWrite_obeys sparedHost_hosted (I := fun _ => True) sparedHost_undisturbed text
    (fun n _ _ => htext n) (fun _ _ _ _ _ => trivial) (fun _ _ _ _ => trivial)
    (fun _ _ _ => trivial) trivial

theorem idempotencyRepository_spared (op : StoreOp)
    (hop : sparedServices.mayCall ([] : ServiceHistory K) (.idempotency op)) :
    Obeys sparedHost (idempotencyRepository ctx op) (fun res _ => ∃ a, res = .ok a) h := by
  cases op with
  | reserve k fp =>
      exact repository_spared (reserveIdempotencyKey_obeys (sparedHost_reserving k fp) trivial)
        (reserveIdempotencyKey_unfailing ctx k fp)
  | waitForResult k fp =>
      exact repository_spared (waitForIdempotencyResult_obeys (sparedHost_reading k) ctx fp trivial)
        (waitForIdempotencyResult_unfailing ctx k fp)
  | release k r =>
      show Obeys sparedHost (repository _ (compareAndDelete ctx k r.raw)) _ _
      cases r.raw with
      | none => exact repository_spared (Q := fun _ _ => True) trivial trivial
      | some raw =>
          refine repository_spared (Q := fun _ _ => True) ?_ (.ite (executeRedis_unfailing ..) trivial)
          rw [compareAndDelete]
          split
          · exact executeRedis_spared _ _ trivial
          · trivial
  | finalizeSuccess k fp orderId status body =>
      refine repository_spared (terminalWrite_spared k "idempotency_finalize"
        (fun n => successRaw n fp orderId status (finalizeBody orderId body)) ?_) ?_
      · intro n hfailed
        rw [successRaw_state] at hfailed
        exact absurd hfailed (by decide)
      · exact .bind (.perform _) fun _ => executeRedis_unfailing ..
  | saveFailed k fp message status body =>
      obtain rfl : status = 503 := hop
      refine repository_spared (terminalWrite_spared k "idempotency_save_failed"
        (fun n => failedRaw n fp message 503 (failedBody message body)) ?_) ?_
      · intro n _
        rw [failedRaw_get]
        rfl
      · exact .bind (.perform _) fun _ => executeRedis_unfailing ..

/-- Nothing has failed. -/
def Unharmed (h : HostHistory K) : Prop := ∀ ev ∈ h, ev.failed = false

theorem Unharmed.cons (hh : Unharmed h) {o : HostOp K} {r : Except Exc o.Ret}
    (hr : ∃ v, r = .ok v) : Unharmed (⟨o, r⟩ :: h) := by
  intro ev hmem
  rcases List.mem_cons.mp hmem with rfl | hold
  · obtain ⟨v, rfl⟩ := hr
    rfl
  · exact hh ev hold

/-- A breaker raises only what a command has raised. -/
theorem breaker_spared {α : Type} {p : Host K α} (hh : Unharmed h)
    (hp : Obeys breakerCalls p (Ends Recovered Raised) h) :
    Obeys sparedHost p (fun res _ => ∃ a, res = .ok a) h := by
  have hframe : Obeys sparedHost p (fun res h' => Ends Recovered Raised res h' ∧ Unharmed h') h := by
    refine hp.frame hh fun h' o hh' ho => ⟨?_, fun r hr => ⟨hr.1, hh'.cons hr.2⟩⟩
    cases o with
    | redis c =>
        have hc := ho c rfl
        cases c with
        | setex k ttl v =>
            cases k with
            | idem k => cases hc
            | _ => trivial
        | _ => trivial
    | _ => trivial
  refine hframe.mono fun res h' hres => ?_
  cases res with
  | ok a => exact ⟨a, rfl⟩
  | error e =>
      obtain ⟨⟨-, c, -, hmem⟩, hunharmed⟩ := hres
      exact absurd (hunharmed _ hmem) (by simp [Event.failed])

theorem Unharmed.recovered (hh : Unharmed h) : Recovered h := by
  intro new c x old hsplit _
  have hmem : (⟨.redis c, .error x⟩ : HostEvent K) ∈ h := by
    rw [hsplit]
    exact List.mem_append_right _ List.mem_cons_self
  exact absurd (hh _ hmem) (by simp [Event.failed])

/-- **No service raises.** -/
theorem serviceCall_spared (o : ServiceOp K) {hs : ServiceHistory K} (hh : Unharmed h)
    (hcall : sparedServices.mayCall hs o) :
    Obeys sparedHost (serviceCall ctx o) (fun r h' => sparedServices.mayReply hs o r ∧
      Unharmed h') h := by
  suffices hans : Obeys sparedHost (serviceCall ctx o) (fun r _ => ∃ v, r = .ok v) h from
    hans.frame hh fun h' o' hh' ho' => ⟨ho', fun r hr => ⟨hr, hh'.cons hr.2⟩⟩
  cases o with
  | allowRequest b => exact breaker_spared hh (allowRequest_recovers ctx b hh.recovered)
  | record action b => exact breaker_spared hh (record_recovers ctx b action hh.recovered)
  | idempotency op => exact idempotencyRepository_spared op hcall
  | saveOrder orderId doc =>
      exact repository_spared (executeRedis_spared "order_store_set"
        (.setex (.order orderId) ctx.orderTtlSec doc) trivial) (executeRedis_unfailing ..)
  | _ => exact .perform trivial fun r hr => hr.2

end Server

theorem orderRequest_spared (ctx : Ctx K) (startedAt : K) (command : CreateOrderCommand) :
    Obeys sparedHost (orderRequest ctx startedAt command) (fun _ _ => True) [] := by
  have hempty : Unharmed ([] : HostHistory K) := fun _ hmem => by cases hmem
  have hinterp := Obeys.interp (R := fun _ ht => Unharmed ht) (f := serviceCall ctx)
    (fun o _ _ hR hcall => serviceCall_spared o hR hcall)
    (createOrder_spared ctx startedAt command : Obeys sparedServices _ _ []) hempty
  exact hinterp.mono fun _ _ _ => trivial

end ChaosDemo
