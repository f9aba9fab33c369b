/-
ChaosDemo/Presenting.lean

What a request shows of its payload.  Every call that `create_order` makes on the
idempotency store carries the key of the request and the fingerprint of its item and
quantity (`Presents`), and the answer says where it comes from:

    replayed     from a record the store has told it to replay
    conflict     409, since the store has told it of another payload
    own          neither 409 nor a replay

(`createOrder_sourced`).  The statuses of the faults that are injected are known, so no
fault is answered with 409, now or when its FAILED record is replayed.
-/
import ChaosDemo.AllOrNothing

set_option linter.unusedSectionVars false

namespace ChaosDemo

open CallTree

variable {K : Type} [Field K] [LinearOrder K] [IsStrictOrderedRing K] [FloorRing K]

/-! ### Payloads -/

/-- The fingerprint of a command that names an item. -/
def CreateOrderCommand.payloadFp? (c : CreateOrderCommand) : Option String :=
  c.item?.map fun itemId => idemPayloadFingerprint itemId c.quantity

/-- The status of a FAILED record: of a refusal, or of an injected fault. -/
def FailureStatus (status : ℤ) : Prop := status = 500 ∨ status = 503

/-- A call on the store is for the key and the payload of the request. -/
def Presents (key fp? : Option String) : ServiceOp K → Prop
  | .idempotency (.reserve k fp) => key = some k ∧ fp? = some fp
  | .idempotency (.waitForResult k fp) => key = some k ∧ fp? = some fp
  | .idempotency (.finalizeSuccess k fp _ _ _) => key = some k ∧ fp? = some fp
  | .idempotency (.saveFailed k fp _ status _) =>
      (key = some k ∧ fp? = some fp) ∧ FailureStatus status
  | _ => True

/-- What a fault is that gets out of a call. -/
def ChaosInjected {α : Type} (r : Except Exc α) : Prop :=
  ∀ e, r = .error e → e.isChaos = true → Injected e

/-- `create_order` with the payload `fp?` under the key `key`. -/
def presenting (key fp? : Option String) : Protocol (ServiceSig K) Exc where
  mayCall _ o := Presents key fp? o
  mayReply _ _ r := ChaosInjected r

/-! ### DoneSourced -/

/-- The answer says that it is one to an earlier request. -/
def IsReplay (result : ServiceResult) : Prop :=
  Dict.get result.body "idempotent" = .bool true ∧
    Dict.get result.body "status" ≠ .str "processing"

/-- The store said this of the record `r` under `k`, for the fingerprint `fp`. -/
def ToldReplay (k fp : String) (r : Record) (h : ServiceHistory K) : Prop :=
  (⟨.idempotency (.reserve k fp), .ok (.replay, r)⟩ : ServiceEvent K) ∈ h ∨
    (⟨.idempotency (.waitForResult k fp), .ok (.replay, r)⟩ : ServiceEvent K) ∈ h

def ToldConflict (k fp : String) (r : Record) (h : ServiceHistory K) : Prop :=
  (⟨.idempotency (.reserve k fp), .ok (.conflict, r)⟩ : ServiceEvent K) ∈ h ∨
    (⟨.idempotency (.waitForResult k fp), .ok (.conflict, r)⟩ : ServiceEvent K) ∈ h

/-- Where an answer comes from. -/
inductive Source (h : ServiceHistory K) (result : ServiceResult) : Prop
  | replayed (k fp : String) (r : Record) : ToldReplay k fp r h →
      buildReplayResponse r = .ok (result.statusCode, result.body) → Source h result
  | conflict (k fp : String) (r : Record) : ToldConflict k fp r h → result = conflictResult →
      Source h result
  | own : result.statusCode ≠ 409 → ¬ IsReplay result → Source h result

/-- A body that does not call itself idempotent. -/
theorem not_isReplay {status : ℤ} {body : Dict} (h : Dict.get body "idempotent" = .null) :
    ¬ IsReplay ⟨status, body⟩ := by
  rintro ⟨hreplay, -⟩
  cases h.symm.trans hreplay

/-- A fault is answered as one. -/
theorem Source.of_fault {h : ServiceHistory K} {f : ChaosFault} (hf : FailureStatus f.statusCode) :
    Source h ⟨f.statusCode, f.toResponse⟩ := by
  refine .own ?_ (not_isReplay rfl)
  show f.statusCode ≠ 409
  rcases hf with hf | hf <;> rw [hf] <;> decide

/-! ### The rules -/

/-- Calls of a service: the history has grown, what is returned has `R`, and a fault that
gets out was injected. -/
def Sourced {α : Type} (h₀ : ServiceHistory K) (R : α → ServiceHistory K → Prop) :
    Post (ServiceSig K) Exc α := fun res h =>
  h₀ ⊆ h ∧ (∀ a, res = .ok a → R a h) ∧ ChaosInjected res

section Rules

variable {α β : Type} {key fp? : Option String} {h h₀ : ServiceHistory K}
  {R : α → ServiceHistory K → Prop} {R' : β → ServiceHistory K → Prop}

theorem sourced_ret {a : α} (hR : R a h) :
    Obeys (presenting key fp?) (pure a : Service K α) (Sourced h R) h :=
  ⟨fun _ hmem => hmem, fun _ hb => Except.ok.inj hb ▸ hR, fun _ he => nomatch he⟩

/-- An exception that is no fault. -/
theorem sourced_throw {e : Exc} (he : e.isChaos = true → Injected e) :
    Obeys (presenting key fp?) (throw e : Service K α) (Sourced h R) h := by
  refine ⟨fun _ hmem => hmem, fun a ha => (nomatch ha), ?_⟩
  rintro _ ⟨⟩
  exact he

theorem sourced_call {o : ServiceOp K} (ho : Presents key fp? o) :
    Obeys (presenting key fp?) (Service.call o)
      (Sourced h fun v h' => (⟨o, .ok v⟩ : ServiceEvent K) ∈ h') h := by
  refine .perform ho fun r hr => ⟨List.subset_cons_self _ _, ?_, hr⟩
  rintro a rfl
  exact List.mem_cons_self

theorem sourced_mono {p : Service K α} {R₂ : α → ServiceHistory K → Prop}
    (hp : Obeys (presenting key fp?) p (Sourced h R) h) (hR : ∀ a h', h ⊆ h' → R a h' → R₂ a h') :
    Obeys (presenting key fp?) p (Sourced h R₂) h :=
  hp.mono fun _ h' hpost => ⟨hpost.1, fun a ha => hR a h' hpost.1 (hpost.2.1 a ha), hpost.2.2⟩

theorem sourced_bind {p : Service K α} {f : α → Service K β}
    (hp : Obeys (presenting key fp?) p (Sourced h R) h)
    (hf : ∀ a h', h ⊆ h' → R a h' → Obeys (presenting key fp?) (f a) (Sourced h' R') h') :
    Obeys (presenting key fp?) (p >>= f) (Sourced h R') h := by
  apply hp.bind
  · intro a h' ha
    apply (hf a h' ha.1 (ha.2.1 a rfl)).mono
    exact fun res h'' hpost => ⟨fun _ hmem => hpost.1 (ha.1 hmem), hpost.2⟩
  · intro e h' he
    refine ⟨he.1, fun b hb => (nomatch hb), ?_⟩
    rintro _ ⟨⟩
    exact he.2.2 e rfl

theorem sourced_handle {p : Service K α} {g : Exc → Service K α}
    (hp : Obeys (presenting key fp?) p (Sourced h R) h)
    (hg : ∀ e h', h ⊆ h' → (e.isChaos = true → Injected e) →
      Obeys (presenting key fp?) (g e) (Sourced h' R) h') :
    Obeys (presenting key fp?) (p.handle g) (Sourced h R) h := by
  apply hp.handle
  · exact fun a h' ha => ha
  · intro e h' he
    apply (hg e h' he.1 (he.2.2 e rfl)).mono
    exact fun res h'' hpost => ⟨fun _ hmem => hpost.1 (he.1 hmem), hpost.2⟩

theorem sourced_onStorage {p handler : Service K α}
    (hp : Obeys (presenting key fp?) p (Sourced h R) h)
    (hhandler : ∀ h', h ⊆ h' → Obeys (presenting key fp?) handler (Sourced h' R) h') :
    Obeys (presenting key fp?) (Service.onStorage p handler) (Sourced h R) h := by
  apply sourced_handle hp
  intro e h' hsub he
  split
  · exact hhandler h' hsub
  · exact sourced_throw he

theorem sourced_swallow {p : Service K α} (hp : Obeys (presenting key fp?) p (Sourced h R) h) :
    Obeys (presenting key fp?) (Service.swallow p) (Sourced h fun _ _ => True) h := by
  apply sourced_onStorage
  · exact sourced_bind hp fun _ _ _ _ => sourced_ret trivial
  · exact fun _ _ => sourced_ret trivial

end Rules

/-! ### The stages -/

section Stages

variable {o : Order K} {h : ServiceHistory K} {reserved : Option Record} {fp? : Option String}

theorem record_sourced {key : Option String} (action : Action) (breaker : Option (CircuitBreaker K)) :
    Obeys (presenting key fp?) (Service.record action breaker) (Sourced h fun _ _ => True) h := by
  cases breaker with
  | none => exact sourced_ret trivial
  | some b => exact sourced_bind (sourced_call trivial) fun _ _ _ _ => sourced_ret trivial

theorem saveFailedStage_sourced (hfp : fp? = some o.payloadFp) {message : String} {status : ℤ}
    {body : Dict} (hstatus : FailureStatus status) :
    Obeys (presenting o.key fp?) (saveFailedStage o reserved message status body)
      (Sourced h fun _ _ => True) h := by
  unfold saveFailedStage
  split
  · next k r hkey => exact sourced_swallow (sourced_call ⟨⟨hkey, hfp⟩, hstatus⟩)
  · exact sourced_ret trivial

/-- What is answered on the way. -/
def DoneSourced (flow : Flow α) (h : ServiceHistory K) : Prop :=
  ∀ result, flow = .done result → Source h result

theorem sourced_done {α : Type} {result : ServiceResult} (hs : Source h result) :
    DoneSourced (.done result : Flow α) h :=
  fun _ heq => Flow.done.inj heq ▸ hs

theorem sourced_goOn {α : Type} {a : α} : DoneSourced (.goOn a : Flow α) h := fun _ heq => nomatch heq

theorem failStage_sourced (hfp : fp? = some o.payloadFp) {message : String} {status : ℤ}
    {body : Dict} {result : ServiceResult} (hstatus : FailureStatus status)
    (hresult : ∀ h', Source (K := K) h' result) :
    Obeys (presenting o.key fp?) (failStage o reserved message status body result)
      (Sourced h DoneSourced) h := by
  refine sourced_bind (record_sourced _ _) fun _ h₁ _ _ => ?_
  refine sourced_bind (saveFailedStage_sourced hfp hstatus) fun _ h₂ _ _ => ?_
  exact sourced_ret (sourced_done (hresult h₂))

/-- An answer of this module's own. -/
theorem Source.of_plain {status : ℤ} {body : Dict} (hstatus : status ≠ 409)
    (hbody : Dict.get body "idempotent" = .null) : Source h ⟨status, body⟩ :=
  .own hstatus (not_isReplay hbody)

theorem placeOrder_sourced (ctx : Ctx K) (hfp : fp? = some o.payloadFp) {processingTime : K} :
    Obeys (presenting o.key fp?) (placeOrder ctx o reserved processingTime)
      (Sourced h DoneSourced) h := by
  refine sourced_bind (sourced_call trivial) fun _ h₁ _ _ => ?_
  refine sourced_bind (sourced_call trivial) fun _ h₂ _ _ => ?_
  refine sourced_bind (sourced_call trivial) fun draw h₃ _ _ => ?_
  split
  · exact failStage_sourced hfp (.inr rfl) fun _ => .of_plain (by decide) rfl
  · refine sourced_bind (sourced_call trivial) fun hex h₄ _ _ => ?_
    have hsave : Obeys (presenting o.key fp?) (Service.onStorage
        (do Service.call (.saveOrder (uuidStr hex) o.doc); pure true) (pure false) : Service K Bool)
        (Sourced h₄ fun _ _ => True) h₄ := by
      apply sourced_onStorage
      · exact sourced_bind (sourced_call trivial) fun _ _ _ _ => sourced_ret trivial
      · exact fun _ _ => sourced_ret trivial
    refine sourced_bind hsave fun saved h₅ _ _ => ?_
    split
    · exact sourced_bind (record_sourced _ _) fun _ _ _ _ => sourced_ret sourced_goOn
    · exact failStage_sourced hfp (.inr rfl) fun _ => .of_plain (by decide) rfl

theorem chaosStage_sourced (hfp : fp? = some o.payloadFp) {e : Exc}
    (he : e.isChaos = true → Injected e) :
    Obeys (presenting o.key fp?) (chaosStage o reserved e) (Sourced h DoneSourced) h := by
  unfold chaosStage
  split
  · next f =>
      have hf : f.statusCode = 503 := he rfl
      exact failStage_sourced hfp (.inr rfl) fun _ => .of_fault (.inr hf)
  · next f =>
      have hf : f.statusCode = 500 := he rfl
      exact failStage_sourced hfp (.inl hf) fun _ => .of_fault (.inl hf)
  · exact sourced_throw he

theorem finishStage_sourced (hfp : fp? = some o.payloadFp) (orderId : String) :
    Obeys (presenting o.key fp?) (finishStage o orderId)
      (Sourced h fun result h' => Source h' result) h := by
  have hcreated : ∀ h' : ServiceHistory K, Source h' ⟨201, createdBody orderId⟩ :=
    fun h' => .of_plain (by decide) rfl
  unfold finishStage
  split
  · next k hkey =>
      exact sourced_bind (sourced_swallow (sourced_call ⟨hkey, hfp⟩)) fun _ h₁ _ _ =>
        sourced_ret (hcreated h₁)
  · exact sourced_ret (hcreated h)

theorem timeoutStage_sourced :
    Obeys (presenting o.key fp?) (timeoutStage o reserved)
      (Sourced h fun result h' => Source h' result) h := by
  have hqueued : ∀ h' : ServiceHistory K,
      Source h' ⟨202, [("status", .str "queued"), ("reason", .str "timeout protected")]⟩ :=
    fun h' => .of_plain (by decide) rfl
  unfold timeoutStage
  split
  · exact sourced_bind (sourced_swallow (sourced_call trivial)) fun _ h₁ _ _ =>
      sourced_ret (hqueued h₁)
  · exact sourced_ret (hqueued h)

theorem workStage_sourced (ctx : Ctx K) (startedAt : K) (hfp : fp? = some o.payloadFp) :
    Obeys (presenting o.key fp?) (workStage ctx startedAt o reserved)
      (Sourced h fun result h' => Source h' result) h := by
  refine sourced_bind (sourced_call trivial) fun _ h₁ _ _ => ?_
  refine sourced_bind (sourced_call trivial) fun now h₂ _ _ => ?_
  split
  · exact timeoutStage_sourced
  · have hplace : ∀ t, Obeys (presenting o.key fp?)
        ((placeOrder ctx o reserved t).handle (chaosStage o reserved)) (Sourced h₂ DoneSourced) h₂ :=
      fun t => sourced_handle (placeOrder_sourced ctx hfp) fun e h' _ he => chaosStage_sourced hfp he
    refine sourced_bind (hplace _) fun flow h₃ _ hflow => ?_
    cases flow with
    | done result => exact sourced_ret (hflow result rfl)
    | goOn orderId => exact finishStage_sourced hfp orderId

/-- A record that the store has told to replay. -/
theorem replay_sourced {key : Option String} {k fp : String} {r : Record} (htold : ToldReplay k fp r h) :
    Obeys (presenting key fp?) (replay r : Service K (Flow (Option Record)))
      (Sourced h DoneSourced) h := by
  rw [replay]
  cases hbuilt : buildReplayResponse r with
  | error e =>
      refine ⟨fun _ hmem => hmem, fun _ hb => (by cases hb), ?_⟩
      intro e' he' hchaos
      rcases buildReplayResponse_error hbuilt with rfl | rfl <;> cases Except.error.inj he' <;>
        cases hchaos
  | ok answer => exact sourced_ret (sourced_done (.replayed k fp r htold hbuilt))

theorem reserveStage_sourced (hfp : fp? = some o.payloadFp) :
    Obeys (presenting o.key fp?) (reserveStage o) (Sourced h DoneSourced) h := by
  rw [reserveStage]
  split
  · exact sourced_ret sourced_goOn
  · next k hkey =>
      refine sourced_onStorage ?_ fun _ _ => sourced_ret sourced_goOn
      refine sourced_bind (sourced_call ⟨hkey, hfp⟩) fun told h₁ _ hmem => ?_
      obtain ⟨state, r⟩ := told
      cases state with
      | owner => exact sourced_ret sourced_goOn
      | replay => exact replay_sourced (.inl hmem)
      | conflict => exact sourced_ret (sourced_done (.conflict k _ r (.inl hmem) rfl))
      | processing =>
          refine sourced_bind (sourced_call ⟨hkey, hfp⟩) fun waited h₂ _ hmem => ?_
          obtain ⟨state, r⟩ := waited
          have hprocessing : Source h₂
              ⟨202, [("status", .str "processing"), ("idempotent", .bool true)]⟩ :=
            .own (by decide) fun hreplay => hreplay.2 rfl
          cases state with
          | replay => exact replay_sourced (.inr hmem)
          | conflict => exact sourced_ret (sourced_done (.conflict k _ r (.inr hmem) rfl))
          | missing => exact sourced_ret (sourced_done hprocessing)
          | processing => exact sourced_ret (sourced_done hprocessing)

end Stages

section Command

variable {h : ServiceHistory K}

theorem admittedStage_sourced (ctx : Ctx K) (startedAt : K) (command : CreateOrderCommand)
    (breaker : Option (CircuitBreaker K)) :
    Obeys (presenting command.key? command.payloadFp?)
      (admittedStage ctx startedAt command breaker)
      (Sourced h fun result h' => Source h' result) h := by
  rw [admittedStage]
  split
  · exact sourced_throw nofun
  · next itemId hitem =>
      have hfp : command.payloadFp? = some (Order.payloadFp
          (⟨itemId, command.quantity, command.key?, breaker⟩ : Order K)) := by
        rw [CreateOrderCommand.payloadFp?, hitem]
        rfl
      split
      · exact sourced_throw nofun
      · refine sourced_bind (reserveStage_sourced hfp) fun flow h₁ _ hflow => ?_
        cases flow with
        | done result => exact sourced_ret (hflow result rfl)
        | goOn reserved => exact workStage_sourced ctx startedAt hfp

/-- **What a request shows of its payload, and where its answer comes from.** -/
theorem createOrder_sourced (ctx : Ctx K) (startedAt : K) (command : CreateOrderCommand) :
    Obeys (presenting command.key? command.payloadFp?) (createOrder ctx startedAt command)
      (Sourced h fun result h' => Source h' result) h := by
  rw [createOrder]
  split
  · refine sourced_bind (sourced_call trivial) fun admitted h₁ _ _ => ?_
    obtain ⟨allowed, breaker⟩ := admitted
    cases allowed with
    | true => exact admittedStage_sourced ctx startedAt command (some breaker)
    | false => exact sourced_ret (.of_plain (by decide) rfl)
  · exact admittedStage_sourced ctx startedAt command none

end Command

end ChaosDemo
