/-
ChaosDemo/OrderProtocol.lean

`create_order` as a party of a protocol over its services.  `standingOf` reads off
the calls made so far where the request stands: how far it is with the
idempotency store, which reservation it was given, which order it has saved.

    fresh → waiting → over                  another request has the key
      ↓        ↓
    working → refused → over                the order was placed, or was not
      ↓
    escaped e                               an exception nobody catches

`orderProtocol` says which call belongs to which standing, and `Ending` what the
answer tells about the standing at the end.  The answers of the services are
free, so this is what `create_order` does under every failure, and the proof
goes through its stages once for all the theorems about it.
-/
import ChaosDemo.OrderService

set_option linter.unusedSectionVars false

namespace ChaosDemo

open CallTree

variable {K : Type} [Field K] [LinearOrder K] [IsStrictOrderedRing K] [FloorRing K]

/-! ### Standings -/

/-- How far a request is with the idempotency store. -/
inductive Stage
  /-- It has not asked for its key. -/
  | fresh
  /-- Another request has the key. -/
  | waiting
  /-- It goes on with the order, reserved or not. -/
  | working
  /-- Its order could not be saved. -/
  | refused
  /-- It was answered from the store, or has settled with it. -/
  | over
  /-- An exception is on its way out. -/
  | escaped (e : Exc)

/-- Where a request stands: its stage, the record with which it became the
owner, and the order it has saved. -/
structure Standing where
  stage : Stage
  reserved : Option Record
  saved : Option String

/-- A request without a key works unreserved. -/
def Standing.start (key : Option String) : Standing :=
  ⟨if key.isSome then .fresh else .working, none, none⟩

/-- The standing after one more call. -/
def Standing.after (st : Standing) : ServiceEvent K → Standing
  | ⟨.allowRequest _, .error e⟩ => { st with stage := .escaped e }
  | ⟨.record _ _, .error e⟩ => { st with stage := .escaped e }
  | ⟨.beforeServiceOperation _, .error e⟩ =>
      if e.isChaos then st else { st with stage := .escaped e }
  | ⟨.idempotency (.reserve _ _), .ok (.owner, r)⟩ =>
      { st with stage := .working, reserved := some r }
  | ⟨.idempotency (.reserve _ _), .ok (.processing, _)⟩ => { st with stage := .waiting }
  | ⟨.idempotency (.reserve _ _), .ok _⟩ => { st with stage := .over }
  | ⟨.idempotency (.reserve _ _), .error _⟩ => { st with stage := .working }
  | ⟨.idempotency (.waitForResult _ _), .ok _⟩ => { st with stage := .over }
  | ⟨.idempotency (.waitForResult _ _), .error _⟩ => { st with stage := .working }
  | ⟨.idempotency _, _⟩ => { st with stage := .over }
  | ⟨.saveOrder orderId _, .ok _⟩ => { st with saved := some orderId }
  | ⟨.saveOrder _ _, .error _⟩ => { st with stage := .refused }
  | _ => st

/-- The standing after a list of calls, the latest first. -/
def standingOf (key : Option String) : ServiceHistory K → Standing
  | [] => .start key
  | e :: h => (standingOf key h).after e

/-! ### The protocol -/

/-- When `create_order` makes which call, and what a service can answer: the
repositories raise StorageException, the breaker what comes from the server. -/
def orderProtocol (key : Option String) : Protocol (ServiceSig K) Exc where
  mayCall h o := match o with
    | .idempotency (.reserve k _) => key = some k ∧ standingOf key h = ⟨.fresh, none, none⟩
    | .idempotency (.waitForResult k _) => key = some k ∧ standingOf key h = ⟨.waiting, none, none⟩
    | .idempotency (.release k r) => key = some k ∧ standingOf key h = ⟨.working, some r, none⟩
    | .idempotency (.finalizeSuccess k _ orderId status body) =>
        key = some k ∧ (∃ reserved, standingOf key h = ⟨.working, reserved, some orderId⟩) ∧
          status = 201 ∧ body = createdBody orderId
    | .idempotency (.saveFailed k _ _ _ _) =>
        key = some k ∧ ∃ r, standingOf key h = ⟨.working, some r, none⟩ ∨
          standingOf key h = ⟨.refused, some r, none⟩
    | .saveOrder _ _ => ∃ reserved, standingOf key h = ⟨.working, reserved, none⟩
    | .allowRequest _ => h = []
    | .record _ _ => (standingOf key h).stage = .working ∨ (standingOf key h).stage = .refused
    | _ => True
  mayReply _ o r := match o with
    | .idempotency _ => ∀ e, r = .error e → e.isStorage = true
    | .saveOrder _ _ => ∀ e, r = .error e → e.isStorage = true
    | .allowRequest _ => ∀ e, r = .error e → e.fromServer = true
    | .record _ _ => ∀ e, r = .error e → e.fromServer = true
    | .beforeServiceOperation _ => True
    | _ => ∃ v, r = .ok v

/-- The request was told to replay this record. -/
def Replayed (r : Record) (h : ServiceHistory K) : Prop :=
  ∃ k fp, (⟨.idempotency (.reserve k fp), .ok (.replay, r)⟩ : ServiceEvent K) ∈ h ∨
    (⟨.idempotency (.waitForResult k fp), .ok (.replay, r)⟩ : ServiceEvent K) ∈ h

/-- This fault was injected. -/
def Faulted (f : ChaosFault) (h : ServiceHistory K) : Prop :=
  ∃ stage e, (⟨.beforeServiceOperation stage, .error e⟩ : ServiceEvent K) ∈ h ∧
    (e = .chaosDrop f ∨ e = .chaosFault f)

/-- Where an answer comes from. -/
inductive Answer (st : Standing) (h : ServiceHistory K) : ServiceResult → Prop
  | created (orderId : String) : st.saved = some orderId →
      Answer st h ⟨201, createdBody orderId⟩
  | replayed (r : Record) (status : ℤ) (body : Dict) : st.saved = none → st.reserved = none →
      Replayed r h → buildReplayResponse r = .ok (status, body) → Answer st h ⟨status, body⟩
  | faulted (f : ChaosFault) : st.saved = none → Faulted f h →
      Answer st h ⟨f.statusCode, f.toResponse⟩
  | turnedDown (status : ℤ) (body : Dict) : st.saved = none →
      status = 202 ∨ status = 409 ∨ status = 503 →
      (body.get "status" = .str "processing" → st.reserved = none) → Answer st h ⟨status, body⟩

/-- An exception that is on its way out, and that no handler of `create_order`
catches. -/
def Escapes (key : Option String) (e : Exc) (h : ServiceHistory K) : Prop :=
  (standingOf key h).stage = .escaped e ∧ e.isChaos = false

/-- How `create_order` ends.  An answer leaves no reservation unsettled; an
exception has escaped from a service, or the request was turned away before it
had a reservation. -/
def Ending (key : Option String) : Post (ServiceSig K) Exc ServiceResult
  | .ok result, h => Answer (standingOf key h) h result ∧
      ((standingOf key h).reserved.isSome = true → (standingOf key h).stage = .over)
  | .error e, h => Escapes key e h ∨
      (standingOf key h).reserved = none ∧ (standingOf key h).saved = none ∧ e.isRedisError = false

/-! ### Single calls -/

/-- A call that only reads the clock, draws or waits. -/
def ServiceOp.quiet : ServiceOp K → Bool
  | .time => true
  | .uniform _ _ => true
  | .random => true
  | .uuid4 => true
  | .sleep _ => true
  | _ => false

section Walk

variable {key : Option String} {h : ServiceHistory K} {reserved : Option Record}

theorem standingOf_quiet {o : ServiceOp K} (ho : o.quiet = true) (r : Except Exc o.Ret) :
    standingOf key (⟨o, r⟩ :: h) = standingOf key h := by
  cases o with
  | allowRequest b => cases ho
  | record action b => cases ho
  | idempotency o => cases ho
  | saveOrder orderId doc => cases ho
  | beforeServiceOperation stage => cases ho
  | _ => rfl

/-- Nothing that happened since changes where the request stands. -/
def SameStanding (key : Option String) (h h' : ServiceHistory K) : Prop :=
  standingOf key h' = standingOf key h ∧ h ⊆ h'

theorem SameStanding.trans {h₁ h₂ h₃ : ServiceHistory K} (h₁₂ : SameStanding key h₁ h₂) (h₂₃ : SameStanding key h₂ h₃) :
    SameStanding key h₁ h₃ :=
  ⟨h₂₃.1.trans h₁₂.1, fun _ he => h₂₃.2 (h₁₂.2 he)⟩

theorem Faulted.mono {f : ChaosFault} {h' : ServiceHistory K} (hf : Faulted f h) (hsub : h ⊆ h') :
    Faulted f h' := by
  obtain ⟨stage, e, hmem, he⟩ := hf
  exact ⟨stage, e, hsub hmem, he⟩

theorem quiet_obeys {o : ServiceOp K} (ho : o.quiet = true) (h : ServiceHistory K) :
    Obeys (orderProtocol key) (Service.call o)
      (fun res h' => (∃ v, res = .ok v) ∧ SameStanding key h h') h := by
  apply Obeys.perform
  · cases o <;> trivial
  · intro r hr
    refine ⟨?_, standingOf_quiet ho r, List.subset_cons_self _ _⟩
    cases o <;> first | exact hr | cases ho

/-- What comes from the server is not an injected fault. -/
theorem not_chaos_of_fromServer {e : Exc} (he : e.fromServer = true) : e.isChaos = false := by
  cases e <;> first | rfl | cases he

/-- A record call changes nothing, or its exception escapes. -/
theorem record_keeps (action : Action) (breaker : Option (CircuitBreaker K))
    (hstage : (standingOf key h).stage = .working ∨ (standingOf key h).stage = .refused) :
    Obeys (orderProtocol key) (Service.record action breaker) (fun res h' => match res with
      | .ok _ => SameStanding key h h'
      | .error e => Escapes key e h') h := by
  cases breaker with
  | none => exact ⟨rfl, fun _ he => he⟩
  | some b =>
      refine ⟨hstage, ?_⟩
      intro r hr
      cases r with
      | ok a => exact ⟨rfl, List.subset_cons_self _ _⟩
      | error e => exact ⟨rfl, not_chaos_of_fromServer (hr e rfl)⟩

/-- A call of the idempotency repository whose failure is ignored. -/
theorem swallow_settles {o : StoreOp} (hcall : (orderProtocol key).mayCall h (.idempotency o))
    (hover : ∀ r, standingOf key (⟨.idempotency o, r⟩ :: h) =
      { standingOf key h with stage := .over }) :
    Obeys (orderProtocol key) (Service.swallow (Service.idempotency o)) (fun res h' =>
      res = .ok () ∧ standingOf key h' = { standingOf key h with stage := .over } ∧ h ⊆ h') h := by
  refine ⟨hcall, ?_⟩
  intro r hr
  cases r with
  | ok a => exact ⟨rfl, hover _, List.subset_cons_self _ _⟩
  | error e =>
      have he : e.isStorage = true := hr e rfl
      show Obeys _ (if e.isStorage then _ else _) _ _
      rw [he]
      exact ⟨rfl, hover _, List.subset_cons_self _ _⟩

/-! ### After the reservation -/

/-- The request is working, or its order was refused; it has saved nothing. -/
def Unsaved (key : Option String) (reserved : Option Record) (h : ServiceHistory K) : Prop :=
  standingOf key h = ⟨.working, reserved, none⟩ ∨ standingOf key h = ⟨.refused, reserved, none⟩

theorem Unsaved.stage (hst : Unsaved key reserved h) :
    (standingOf key h).stage = .working ∨ (standingOf key h).stage = .refused := by
  rcases hst with hst | hst
  · exact .inl (by rw [hst])
  · exact .inr (by rw [hst])

theorem Unsaved.kept {h' : ServiceHistory K} (hst : Unsaved key reserved h) (hk : SameStanding key h h') :
    Unsaved key reserved h' := by
  rw [Unsaved, hk.1]
  exact hst

/-- The request gives up its order: what it reserved is settled. -/
def GivenUp (key : Option String) (reserved : Option Record) (h : ServiceHistory K) : Prop :=
  (standingOf key h).reserved = reserved ∧ (standingOf key h).saved = none ∧
    (reserved.isSome = true → (standingOf key h).stage = .over)

theorem Unsaved.givenUp (hst : Unsaved key none h) : GivenUp key none h := by
  rcases hst with hst | hst <;> rw [GivenUp, hst] <;> simp

theorem givenUp_of_over (hst : standingOf key h = ⟨.over, reserved, none⟩) :
    GivenUp key reserved h := by
  rw [GivenUp, hst]
  exact ⟨rfl, rfl, fun _ => rfl⟩

/-- `_save_failed` settles what was reserved. -/
theorem saveFailedStage_settles {o : Order K} (hkey : o.key = key)
    (hreserved : reserved.isSome = true → key.isSome = true) (hst : Unsaved key reserved h)
    (message : String) (status : ℤ) (body : Dict) :
    Obeys (orderProtocol key) (saveFailedStage o reserved message status body)
      (fun res h' => res = .ok () ∧ GivenUp key reserved h' ∧ h ⊆ h') h := by
  unfold saveFailedStage
  cases hr : reserved with
  | none =>
      subst hr
      cases o.key <;> exact ⟨rfl, hst.givenUp, fun _ he => he⟩
  | some r =>
      subst hr
      obtain ⟨k, hk⟩ := Option.isSome_iff_exists.mp (hreserved rfl)
      rw [hkey, hk]
      have hover : Obeys (orderProtocol key) (Service.swallow (Service.idempotency
          (.saveFailed k o.payloadFp message status body))) (fun res h' => res = .ok () ∧
            standingOf key h' = { standingOf key h with stage := .over } ∧ h ⊆ h') h :=
        swallow_settles ⟨hk, r, hst⟩ fun r => rfl
      refine (hk ▸ hover).mono ?_
      rintro res h' ⟨hres, hst', hsub⟩
      refine ⟨hres, givenUp_of_over ?_, hsub⟩
      rw [hst']
      rcases hst with hst | hst <;> rw [← hk, hst]

/-- What comes after a failure: the request is given up, or an exception of the
breaker escapes. -/
theorem failStage_givesUp {o : Order K} (hkey : o.key = key)
    (hreserved : reserved.isSome = true → key.isSome = true) (hst : Unsaved key reserved h)
    (message : String) (status : ℤ) (body : Dict) (result : ServiceResult) :
    Obeys (orderProtocol key) (failStage o reserved message status body result)
      (fun res h' => match res with
        | .ok flow => flow = .done result ∧ GivenUp key reserved h' ∧ h ⊆ h'
        | .error e => Escapes key e h') h := by
  rw [failStage]
  apply (record_keeps .failure o.breaker hst.stage).bind
  · intro u h₁ hkept
    apply (saveFailedStage_settles hkey hreserved (hst.kept hkept) message status body).bind
    · rintro u h₂ ⟨-, hup, hsub⟩
      exact ⟨rfl, hup, fun _ he => hsub (hkept.2 he)⟩
    · rintro e h₂ ⟨he, -⟩
      cases he
  · intro e h₁ he
    exact he

/-- How the work on the order ends: it is given up, saved, or left by an
exception. -/
def Placed (key : Option String) (reserved : Option Record) : Post (ServiceSig K) Exc (Flow String)
  | .ok (.done result), h => Answer (standingOf key h) h result ∧ GivenUp key reserved h
  | .ok (.goOn orderId), h => standingOf key h = ⟨.working, reserved, some orderId⟩
  | .error e, h => Escapes key e h

/-- Giving up with an answer that is not a creation. -/
theorem placed_of_failStage {o : Order K} (hkey : o.key = key)
    (hreserved : reserved.isSome = true → key.isSome = true) (hst : Unsaved key reserved h)
    {message : String} {status : ℤ} {body : Dict} {result : ServiceResult}
    (hanswer : ∀ h', h ⊆ h' → (standingOf key h').saved = none → Answer (standingOf key h') h' result) :
    Obeys (orderProtocol key) (failStage o reserved message status body result)
      (Placed key reserved) h := by
  apply (failStage_givesUp hkey hreserved hst message status body result).mono
  intro res h' hres
  cases res with
  | ok flow =>
      obtain ⟨rfl, hup, hsub⟩ := hres
      exact ⟨hanswer h' hsub hup.2.1, hup⟩
  | error e => exact hres

/-- `order_repository.save`, with its failure as a value. -/
theorem saveOrder_saves (orderId : String) (doc : Dict)
    (hst : standingOf key h = ⟨.working, reserved, none⟩) :
    Obeys (orderProtocol key)
      (Service.onStorage (do Service.call (.saveOrder orderId doc); pure true) (pure false))
      (fun res h' => match res with
        | .ok true => standingOf key h' = ⟨.working, reserved, some orderId⟩
        | .ok false => Unsaved key reserved h'
        | .error _ => False) h := by
  refine ⟨⟨reserved, hst⟩, ?_⟩
  intro r hr
  cases r with
  | ok u =>
      show (standingOf key h).after _ = _
      rw [hst]
      rfl
  | error e =>
      have he : e.isStorage = true := hr e rfl
      show Obeys _ (if e.isStorage then _ else _) _ _
      rw [he]
      refine .inr ?_
      show (standingOf key h).after _ = _
      rw [hst]
      rfl

/-- The `try` block; an injected fault leaves it before anything was saved. -/
theorem placeOrder_places (ctx : Ctx K) {o : Order K} (hkey : o.key = key)
    (hreserved : reserved.isSome = true → key.isSome = true)
    (hst : standingOf key h = ⟨.working, reserved, none⟩) (processingTime : K) :
    Obeys (orderProtocol key) (placeOrder ctx o reserved processingTime) (fun res h' =>
      Placed key reserved res h' ∧ (∀ e, res = .error e → e.isChaos = false) ∨
      ∃ f e, res = .error e ∧ (e = .chaosDrop f ∨ e = .chaosFault f) ∧ Faulted f h' ∧
        standingOf key h' = ⟨.working, reserved, none⟩) h := by
  have hescape : ∀ (res : Except Exc (Flow String)) (h' : ServiceHistory K),
      (match res with
        | .ok flow => Placed key reserved (.ok flow) h'
        | .error e => Escapes key e h') →
      Placed key reserved res h' ∧ ∀ e, res = .error e → e.isChaos = false := by
    intro res h' hres
    cases res with
    | ok flow => exact ⟨hres, fun e he => by cases he⟩
    | error e => exact ⟨hres, fun e' he' => Except.error.inj he' ▸ hres.2⟩
  have hfail : ∀ {h₁ : ServiceHistory K} {message : String} {status : ℤ} {body body' : Dict},
      Unsaved key reserved h₁ → body'.get "status" ≠ .str "processing" →
      Obeys (orderProtocol key)
        (failStage o reserved message status body ⟨503, body'⟩) (fun res h' =>
          Placed key reserved res h' ∧ ∀ e, res = .error e → e.isChaos = false) h₁ := by
    intro h₁ message status body body' hst₁ hbody
    apply (failStage_givesUp hkey hreserved hst₁ message status body ⟨503, body'⟩).mono
    intro res h' hres
    apply hescape
    cases res with
    | ok flow =>
        obtain ⟨rfl, hup, -⟩ := hres
        have hnot : body'.get "status" = .str "processing" → (standingOf key h').reserved = none :=
          fun hproc => absurd hproc hbody
        exact ⟨.turnedDown 503 body' hup.2.1 (.inr (.inr rfl)) hnot, hup⟩
    | error e => exact hres
  rw [placeOrder]
  have hhook : Obeys (orderProtocol key) (Service.call (.beforeServiceOperation "service"))
      (fun res h' => match res with
        | .ok _ => standingOf key h' = ⟨.working, reserved, none⟩
        | .error e => Escapes key e h' ∨ ∃ f, (e = .chaosDrop f ∨ e = .chaosFault f) ∧
            Faulted f h' ∧ standingOf key h' = ⟨.working, reserved, none⟩) h := by
    apply Obeys.perform trivial
    intro r _
    cases r with
    | ok u => exact hst
    | error e =>
        have hafter : standingOf key (⟨.beforeServiceOperation "service", .error e⟩ :: h) =
            if e.isChaos then standingOf key h
            else { standingOf key h with stage := .escaped e } := rfl
        cases hchaos : e.isChaos with
        | false =>
            refine .inl ⟨?_, hchaos⟩
            rw [hafter, hchaos]
            rfl
        | true =>
            rw [hchaos, if_pos rfl] at hafter
            refine .inr ?_
            cases e with
            | chaosDrop f =>
                exact ⟨f, .inl rfl, ⟨_, _, List.mem_cons_self, .inl rfl⟩, hafter.trans hst⟩
            | chaosFault f =>
                exact ⟨f, .inr rfl, ⟨_, _, List.mem_cons_self, .inr rfl⟩, hafter.trans hst⟩
            | _ => cases hchaos
  apply hhook.bind
  · intro u h₁ hst₁
    apply (quiet_obeys (o := .sleep processingTime) rfl h₁).bind
    · rintro u h₂ ⟨-, hkept₂⟩
      apply (quiet_obeys (o := .random) rfl h₂).bind
      · rintro draw h₃ ⟨-, hkept₃⟩
        have hst₃ : standingOf key h₃ = ⟨.working, reserved, none⟩ := by
          rw [hkept₃.1, hkept₂.1, hst₁]
        split
        · exact (hfail (.inl hst₃) (by decide)).mono fun _ _ => .inl
        · apply (quiet_obeys (o := .uuid4) rfl h₃).bind
          · rintro hex h₄ ⟨-, hkept₄⟩
            apply (saveOrder_saves (uuidStr hex) o.doc (hkept₄.1.trans hst₃)).bind
            · intro saved h₅ hsaved
              cases saved with
              | true =>
                  rw [if_pos rfl]
                  apply (record_keeps .success o.breaker (.inl (by rw [hsaved]))).bind
                  · intro u h₆ hkept₆
                    exact .inl ⟨hkept₆.1.trans hsaved, fun e he => by cases he⟩
                  · intro e h₆ he
                    exact .inl (hescape (.error e) h₆ he)
              | false => exact (hfail hsaved (by decide)).mono fun _ _ => .inl
            · intro e h₅ he
              exact he.elim
          · rintro e h₄ ⟨⟨v, hv⟩, -⟩
            cases hv
      · rintro e h₃ ⟨⟨v, hv⟩, -⟩
        cases hv
    · rintro e h₂ ⟨⟨v, hv⟩, -⟩
      cases hv
  · intro e h₁ he
    rcases he with he | ⟨f, he, hf, hst₁⟩
    · exact .inl (hescape (.error e) h₁ he)
    · exact .inr ⟨f, e, rfl, he, hf, hst₁⟩

/-- The handlers give up an order that met an injected fault. -/
theorem handled_places (ctx : Ctx K) {o : Order K} (hkey : o.key = key)
    (hreserved : reserved.isSome = true → key.isSome = true)
    (hst : standingOf key h = ⟨.working, reserved, none⟩) (processingTime : K) :
    Obeys (orderProtocol key)
      ((placeOrder ctx o reserved processingTime).handle (chaosStage o reserved))
      (Placed key reserved) h := by
  apply (placeOrder_places ctx hkey hreserved hst processingTime).handle
  · rintro flow h' (⟨hplaced, -⟩ | ⟨f, e, he, -⟩)
    · exact hplaced
    · cases he
  · rintro e h' (⟨hplaced, hchaos⟩ | ⟨f, e', he, hfault, hf, hst'⟩)
    · have hforeign : e.isChaos = false := hchaos e rfl
      cases e <;> first | exact hplaced | cases hforeign
    · obtain rfl := Except.error.inj he
      have hanswer : ∀ h'', h' ⊆ h'' → (standingOf key h'').saved = none →
          Answer (standingOf key h'') h'' ⟨f.statusCode, f.toResponse⟩ :=
        fun h'' hsub hsaved => .faulted f hsaved (hf.mono hsub)
      rcases hfault with rfl | rfl
      · exact placed_of_failStage hkey hreserved (.inl hst') hanswer
      · exact placed_of_failStage hkey hreserved (.inl hst') hanswer

/-- The SUCCESS record settles the request, whether or not it had a reservation. -/
theorem finishStage_ends {o : Order K} (hkey : o.key = key)
    (hreserved : reserved.isSome = true → key.isSome = true) {orderId : String}
    (hst : standingOf key h = ⟨.working, reserved, some orderId⟩) :
    Obeys (orderProtocol key) (finishStage o orderId) (Ending key) h := by
  unfold finishStage
  cases hk : key with
  | none =>
      rw [hkey, hk]
      refine ⟨.created orderId ?_, ?_⟩
      · rw [← hk, hst]
      · rw [← hk, hst]
        intro hsome
        rw [hk] at hreserved
        exact absurd (hreserved hsome) Bool.false_ne_true
  | some k =>
      rw [hkey, hk]
      have hsettle : Obeys (orderProtocol (some k)) (Service.swallow (Service.idempotency
          (.finalizeSuccess k o.payloadFp orderId 201 (createdBody orderId)))) (fun res h' =>
            res = .ok () ∧ standingOf (some k) h' = { standingOf (some k) h with stage := .over } ∧
              h ⊆ h') h :=
        swallow_settles ⟨rfl, ⟨reserved, hk ▸ hst⟩, rfl, rfl⟩ fun r => rfl
      apply hsettle.bind
      · rintro u h' ⟨-, hst', -⟩
        refine ⟨.created orderId ?_, fun _ => ?_⟩
        · rw [hst', ← hk, hst]
        · rw [hst']
      · rintro e h' ⟨he, -⟩
        cases he

/-- Too late to start: the reservation is given back. -/
theorem timeoutStage_ends {o : Order K} (hkey : o.key = key)
    (hreserved : reserved.isSome = true → key.isSome = true)
    (hst : standingOf key h = ⟨.working, reserved, none⟩) :
    Obeys (orderProtocol key) (timeoutStage o reserved) (Ending key) h := by
  unfold timeoutStage
  cases hr : reserved with
  | none =>
      subst hr
      have hend : Ending key (.ok ⟨202, [("status", .str "queued"),
          ("reason", .str "timeout protected")]⟩) h := by
        refine ⟨.turnedDown 202 _ ?_ (.inl rfl) (fun hproc => absurd hproc (by decide)), ?_⟩
        · rw [hst]
        · rw [hst]
          intro hsome
          cases hsome
      cases o.key <;> exact hend
  | some r =>
      subst hr
      obtain ⟨k, hk⟩ := Option.isSome_iff_exists.mp (hreserved rfl)
      rw [hkey, hk]
      have hsettle : Obeys (orderProtocol (some k)) (Service.swallow (Service.idempotency
          (.release k r))) (fun res h' => res = .ok () ∧
            standingOf (some k) h' = { standingOf (some k) h with stage := .over } ∧ h ⊆ h') h :=
        swallow_settles ⟨rfl, hk ▸ hst⟩ fun r => rfl
      apply hsettle.bind
      · rintro u h' ⟨-, hst', -⟩
        refine ⟨.turnedDown 202 _ ?_ (.inl rfl) (fun hproc => absurd hproc (by decide)),
          fun _ => ?_⟩
        · rw [hst', ← hk, hst]
        · rw [hst']
      · rintro e h' ⟨he, -⟩
        cases he

/-- `create_order` after the reservation. -/
theorem workStage_ends (ctx : Ctx K) (startedAt : K) {o : Order K} (hkey : o.key = key)
    (hreserved : reserved.isSome = true → key.isSome = true)
    (hst : standingOf key h = ⟨.working, reserved, none⟩) :
    Obeys (orderProtocol key) (workStage ctx startedAt o reserved) (Ending key) h := by
  rw [workStage]
  apply (quiet_obeys (o := .uniform (1 / 100) (1 / 20)) rfl h).bind
  · rintro processingTime h₁ ⟨-, hkept₁⟩
    apply (quiet_obeys (o := .time) rfl h₁).bind
    · rintro now h₂ ⟨-, hkept₂⟩
      have hst₂ : standingOf key h₂ = ⟨.working, reserved, none⟩ := by
        rw [hkept₂.1, hkept₁.1, hst]
      split
      · exact timeoutStage_ends hkey hreserved hst₂
      · apply (handled_places ctx hkey hreserved hst₂ processingTime).bind
        · intro flow h₃ hplaced
          cases flow with
          | done result =>
              obtain ⟨hanswer, hres, -, hover⟩ := hplaced
              exact ⟨hanswer, fun hsome => hover (hres ▸ hsome)⟩
          | goOn orderId => exact finishStage_ends hkey hreserved hplaced
        · intro e h₃ he
          exact .inl he
    · rintro e h₂ ⟨⟨v, hv⟩, -⟩
      cases hv
  · rintro e h₁ ⟨⟨v, hv⟩, -⟩
    cases hv

/-- How the reservation ends: with an answer, or with a request that works. -/
def Admitted (key : Option String) : Post (ServiceSig K) Exc (Flow (Option Record))
  | .ok (.done result), h => Ending key (.ok result) h
  | .ok (.goOn reserved), h => standingOf key h = ⟨.working, reserved, none⟩ ∧
      (reserved.isSome = true → key.isSome = true)
  | .error e, h => Ending key (.error e) h

/-- A replay ends the request, with an answer or an exception. -/
theorem replay_ends {r : Record} (hr : Replayed r h) (hst : standingOf key h = ⟨.over, none, none⟩) :
    Obeys (orderProtocol key) (Service.onStorage (replay r) (pure (.goOn none)))
      (Admitted key) h := by
  have hreplay : Obeys (orderProtocol key) (replay r) (fun res h' => h' = h ∧ match res with
      | .ok flow => ∃ status body, flow = .done ⟨status, body⟩ ∧
          buildReplayResponse r = .ok (status, body)
      | .error e => e = .valueError ∨ e = .typeError) h := by
    rw [replay]
    cases hbuild : buildReplayResponse r with
    | ok answer => exact ⟨rfl, _, _, rfl, rfl⟩
    | error e => exact ⟨rfl, buildReplayResponse_error hbuild⟩
  apply hreplay.handle
  · rintro flow h' ⟨rfl, status, body, rfl, hbuild⟩
    refine ⟨.replayed r status body ?_ ?_ hr hbuild, ?_⟩
    · rw [hst]
    · rw [hst]
    · rw [hst]
      exact fun _ => rfl
  · rintro e h' ⟨rfl, he⟩
    have hend : Ending key (.error e) h' := by
      refine .inr ⟨?_, ?_, ?_⟩
      · rw [hst]
      · rw [hst]
      · rcases he with rfl | rfl <;> rfl
    rcases he with rfl | rfl <;> exact hend

/-- An answer that turns a request down. -/
theorem turnedDown_ends {status : ℤ} {body : Dict}
    (hst : (standingOf key h).reserved = none ∧ (standingOf key h).saved = none)
    (hstatus : status = 202 ∨ status = 409 ∨ status = 503) :
    Ending key (.ok ⟨status, body⟩) h := by
  refine ⟨.turnedDown status body hst.2 hstatus (fun _ => hst.1), fun hsome => ?_⟩
  rw [hst.1] at hsome
  cases hsome

/-- The reservation. -/
theorem reserveStage_ends {o : Order K} (hkey : o.key = key)
    (hst : standingOf key h = .start key) :
    Obeys (orderProtocol key) (reserveStage o) (Admitted key) h := by
  unfold reserveStage
  cases hk : key with
  | none =>
      rw [hkey, hk]
      refine ⟨?_, fun hsome => by cases hsome⟩
      rw [← hk, hst, hk]
      rfl
  | some k =>
      rw [hkey, hk]
      have hfresh : standingOf (some k) h = ⟨.fresh, none, none⟩ := by
        rw [← hk, hst, hk]
        rfl
      refine ⟨⟨rfl, hfresh⟩, ?_⟩
      intro answer hanswer
      have hafter : standingOf (some k) (⟨.idempotency (.reserve k o.payloadFp), answer⟩ :: h) =
          (⟨.fresh, none, none⟩ : Standing).after
            (⟨.idempotency (.reserve k o.payloadFp), answer⟩ : ServiceEvent K) := by
        show (standingOf (some k) h).after _ = _
        rw [hfresh]
      rcases answer with e | ⟨state, r⟩
      · -- the store is out: the order goes on unreserved
        have he : e.isStorage = true := hanswer e rfl
        show Obeys _ (if e.isStorage then _ else _) _ _
        rw [he]
        exact ⟨hafter, fun hsome => by cases hsome⟩
      · cases state with
        | owner => exact ⟨hafter, fun _ => rfl⟩
        | replay => exact replay_ends ⟨k, _, .inl List.mem_cons_self⟩ hafter
        | conflict =>
            apply turnedDown_ends ⟨?_, ?_⟩ (.inr (.inl rfl))
            · rw [hafter]
              rfl
            · rw [hafter]
              rfl
        | processing =>
            refine ⟨⟨rfl, hafter⟩, ?_⟩
            intro waited hwaited
            have hafter' : standingOf (some k)
                (⟨.idempotency (.waitForResult k o.payloadFp), waited⟩ ::
                  ⟨.idempotency (.reserve k o.payloadFp), .ok (.processing, r)⟩ :: h) =
                (⟨.waiting, none, none⟩ : Standing).after
                  (⟨.idempotency (.waitForResult k o.payloadFp), waited⟩ : ServiceEvent K) := by
              show (standingOf (some k) _).after _ = _
              rw [hafter]
              rfl
            rcases waited with e | ⟨state, r'⟩
            · have he : e.isStorage = true := hwaited e rfl
              show Obeys _ (if e.isStorage then _ else _) _ _
              rw [he]
              exact ⟨hafter', fun hsome => by cases hsome⟩
            · cases state with
              | replay => exact replay_ends ⟨k, _, .inr List.mem_cons_self⟩ hafter'
              | conflict =>
                  apply turnedDown_ends ⟨?_, ?_⟩ (.inr (.inl rfl))
                  · rw [hafter']
                    rfl
                  · rw [hafter']
                    rfl
              | _ =>
                  apply turnedDown_ends ⟨?_, ?_⟩ (.inl rfl)
                  · rw [hafter']
                    rfl
                  · rw [hafter']
                    rfl

/-- `create_order` after the breaker has admitted the request. -/
theorem admittedStage_ends (ctx : Ctx K) (startedAt : K) (command : CreateOrderCommand)
    (breaker : Option (CircuitBreaker K))
    (hst : standingOf command.key? h = .start command.key?) :
    Obeys (orderProtocol command.key?) (admittedStage ctx startedAt command breaker)
      (Ending command.key?) h := by
  have hinvalid : Ending command.key? (.error (.validation "invalid request")) h := by
    refine .inr ⟨?_, ?_, rfl⟩
    · rw [hst]
      rfl
    · rw [hst]
      rfl
  unfold admittedStage
  cases command.item? with
  | none => exact hinvalid
  | some itemId =>
      show Obeys _ (if command.quantity ≤ 0 then _ else _) _ _
      split
      · exact hinvalid
      · apply (reserveStage_ends (o := ⟨itemId, command.quantity, command.key?, breaker⟩) rfl
          hst).bind
        · intro flow h₁ hflow
          cases flow with
          | done result => exact hflow
          | goOn reserved => exact workStage_ends ctx startedAt rfl hflow.2 hflow.1
        · intro e h₁ he
          exact he

end Walk

/-- **`create_order` keeps to its protocol**, whatever the services answer, and
its answer tells where it stands. -/
theorem createOrder_obeys (ctx : Ctx K) (startedAt : K) (command : CreateOrderCommand) :
    Obeys (orderProtocol command.key?) (createOrder ctx startedAt command)
      (Ending command.key?) [] := by
  unfold createOrder
  split
  · refine ⟨rfl, ?_⟩
    intro r hr
    cases r with
    | error e => exact .inl ⟨rfl, not_chaos_of_fromServer (hr e rfl)⟩
    | ok a =>
        obtain ⟨allowed, breaker⟩ := a
        cases allowed with
        | true => exact admittedStage_ends ctx startedAt command (some breaker) rfl
        | false => exact turnedDown_ends ⟨rfl, rfl⟩ (.inl rfl)
  · exact admittedStage_ends ctx startedAt command none rfl

end ChaosDemo
