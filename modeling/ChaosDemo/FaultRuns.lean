/-
ChaosDemo/FaultRuns.lean

Runs of the facade, with any number of calls.  One command changes the slot of an
experiment only when it is a SETEX of its key (`FaultState.serve_slot`), and whatever the
calls, the experiment under a key has the id that is in the key (`Written.named`).
-/
import ChaosDemo.FaultCalls

set_option linter.unusedSectionVars false

namespace ChaosDemo

open CallTree Keyspace ChaosExperimentStore ChaosObserver FaultInjection

variable {K : Type} [Field K] [LinearOrder K] [IsStrictOrderedRing K]

abbrev FaultEntry (K ι : Type) := Entry (FaultSig K) Exc (FaultState K) ι

abbrev FaultLog (K ι : Type) := Log (FaultSig K) Exc (FaultState K) ι

abbrev FaultConfig (K ι : Type) := Config (FaultSig K) Exc (FaultAnswer K) (FaultState K) ι

/-! ### One command -/

namespace FaultState

/-- The slot of an experiment. -/
def slot (s : FaultState K) (id : String) : Option (Timed (ChaosExperiment K) K) :=
  s.chaos.data.slots (.experiment id)

/-- The experiment a GET sees. -/
def seen (s : FaultState K) (id : String) : Option (ChaosExperiment K) :=
  s.chaos.data.lookup s.chaos.now (.experiment id)

theorem seen_eq_some {s : FaultState K} {id : String} {experiment : ChaosExperiment K} :
    s.seen id = some experiment ↔
      ∃ e, s.slot id = some e ∧ e.alive s.chaos.now = true ∧ e.val = experiment :=
  live_eq_some

/-- No server data at all. -/
def initial (now : K) : FaultState K := ⟨ChaosState.initial now, Listed.empty, 0⟩

/-- **What one command does to the slot of an experiment**: nothing, or it is a SETEX of
the key. -/
theorem serve_slot (env : FaultEnv K) (s : FaultState K) (o : FaultOp K) (id : String) :
    (s.serve env o).2.slot id = s.slot id ∨
      ∃ (ttl : ℤ) (v : ChaosExperiment K), o = .chaos (.setex (.experiment id) ttl v) ∧
        (s.serve env o).1.isOk = true ∧
        (s.serve env o).2.slot id = some ⟨v, some (s.chaos.now + ttl)⟩ := by
  cases o with
  | chaos o =>
      cases o with
      | setex k ttl v =>
          by_cases httl : 0 < ttl
          · have hserve : s.serve env (.chaos (.setex k ttl v)) = (.ok (), { s with
                chaos := { s.chaos with
                  data := s.chaos.data.put k v (some (s.chaos.now + ttl)) } }) := by
              simp only [serve, ChaosState.serve, if_pos httl]
            rw [hserve]
            by_cases hk : k = .experiment id
            · subst hk
              exact .inr ⟨ttl, v, rfl, rfl, Listed.put_slots_self⟩
            · exact .inl (Listed.put_slots_of_ne (Ne.symm hk))
          · have hserve : s.serve env (.chaos (.setex k ttl v)) = (.error .redisOther, s) := by
              simp only [serve, ChaosState.serve, if_neg httl]
            rw [hserve]
            exact .inl rfl
      | _ => exact .inl rfl
  | setexFault t ttl record =>
      left
      simp only [serve]
      split <;> rfl
  | _ => exact .inl rfl

/-- Time does not go back when nobody sleeps backwards. -/
theorem serve_now (env : FaultEnv K) (s : FaultState K) (o : FaultOp K)
    (ho : ∀ seconds, o = .chaos (.sleep seconds) → 0 ≤ seconds) :
    s.chaos.now ≤ (s.serve env o).2.chaos.now := by
  cases o with
  | chaos o =>
      cases o with
      | sleep seconds => exact le_add_of_nonneg_right (ho seconds rfl)
      | setex k ttl v =>
          simp only [serve, ChaosState.serve]
          split <;> exact le_refl _
      | _ => exact le_refl _
  | setexFault t ttl record =>
      simp only [serve]
      split <;> exact le_refl _
  | _ => exact le_refl _

/-- Only two commands reach the fault keys. -/
theorem serve_faults (env : FaultEnv K) (s : FaultState K) (o : FaultOp K) (t : String)
    (hset : ∀ ttl record, o ≠ .setexFault t ttl record)
    (hdel : ∀ ts, o = .deleteFaults ts → t ∉ ts) :
    (s.serve env o).2.faults.slots t = s.faults.slots t := by
  cases o with
  | setexFault t' ttl record =>
      have ht : t ≠ t' := by
        rintro rfl
        exact hset ttl record rfl
      simp only [serve]
      split
      · exact Listed.put_slots_of_ne ht
      · rfl
  | deleteFaults ts => exact (Listed.erase_slots ts).trans (if_neg (hdel ts rfl))
  | _ => rfl

end FaultState

theorem faultWorld_serve {env : FaultEnv K} {s s' : FaultState K} {o : FaultOp K}
    {x : (faultWorld env).Choice} {r : Except Exc o.Ret}
    (h : (faultWorld env).serve s o x = some (r, s')) : s.serve env o = (r, s') :=
  Option.some.inj h

theorem faultWorld_drift {env : FaultEnv K} {s s' : FaultState K} {t : (faultWorld env).Drift}
    (h : (faultWorld env).drift s t = some s') :
    s.chaos.now ≤ s'.chaos.now ∧ (∀ id, s'.slot id = s.slot id) ∧
      s'.chaos.data = s.chaos.data ∧ s'.faults = s.faults := by
  obtain ⟨hle, rfl⟩ : s.chaos.now ≤ t ∧
      { s with chaos := { s.chaos with now := t } } = s' := by
    simpa [faultWorld] using h
  exact ⟨hle, fun _ => rfl, rfl, rfl⟩

/-! ### Experiments are stored under their own ids -/

/-- An experiment is stored under its own id. -/
def ChaosOp.named : ChaosOp K → Prop
  | .setex (.experiment id) _ v => v.id = id
  | _ => True

def FaultOp.named : FaultOp K → Prop
  | .chaos o => o.named
  | _ => True

section Named

variable {α : Type}

theorem named_of_harmless {p : Chaos K α} (hp : p.Only ChaosOp.harmless) :
    p.Only ChaosOp.named := by
  refine hp.mono fun o ho => ?_
  cases o with
  | setex k ttl v =>
      cases k with
      | experiment id => exact ho.elim
      | report id => trivial
  | _ => trivial

theorem faultNamed_of_harmless {p : Faults K α} (hp : p.Only FaultOp.harmless) :
    p.Only FaultOp.named := by
  refine hp.mono fun o ho => ?_
  cases o with
  | chaos o =>
      cases o with
      | setex k ttl v =>
          cases k with
          | experiment id => exact ho.elim
          | report id => trivial
      | _ => trivial
  | _ => trivial

theorem ofChaos_named {p : Chaos K α} (hp : p.Only ChaosOp.named) :
    (Faults.ofChaos p).Only FaultOp.named :=
  hp.interp fun _ ho => .perform ho

theorem recordCreated_harmless (experiment : ChaosExperiment K) :
    (recordCreated experiment).Only ChaosOp.harmless :=
  .bind (.perform trivial) fun _ => .bind (.perform trivial) fun _ => .perform trivial

theorem storeCreate_named (experiment : ChaosExperiment K) :
    (ChaosExperimentStore.createExperiment experiment).Only ChaosOp.named :=
  .bind (.perform rfl) fun _ => .perform trivial

theorem createExperiment_named (name hypothesis : String) (target : Dict) (faultType : String)
    (params : Dict) (duration : ℤ) (status : String) (legacyApi : Bool) :
    (ChaosDemo.createExperiment name hypothesis target faultType params duration none
      status legacyApi : Chaos K _).Only ChaosOp.named := by
  refine .bind (.perform trivial) fun now => .bind (.perform trivial) fun id => ?_
  refine .bind (storeCreate_named _) fun _ => .bind ?_ fun _ => trivial
  exact named_of_harmless (recordCreated_harmless _)

theorem createLegacyExperiment_named (ttl : ℤ) (faultType : String) (params : Dict)
    (ttlSec : Option ℤ) :
    (createLegacyExperiment ttl faultType params ttlSec : Chaos K _).Only ChaosOp.named := by
  refine .bind (.bind (.perform trivial) fun _ => .bind (.perform trivial) fun _ => trivial)
    fun experiment => .bind (storeCreate_named _) fun _ => .bind ?_ fun _ => trivial
  exact named_of_harmless (recordCreated_harmless _)

theorem stopExperiment_named (id : String) :
    (ChaosDemo.stopExperiment id : Chaos K _).Only ChaosOp.named := by
  refine .bind (.bind (.perform trivial) fun experiment => ?_) fun experiment => ?_
  · cases experiment with
    | none => trivial
    | some experiment =>
        exact .bind (.perform trivial) fun now => .bind (.perform rfl) fun _ => trivial
  · cases experiment with
    | none => trivial
    | some experiment =>
        exact .bind (named_of_harmless (recordRecovered_harmless _)) fun _ => trivial

theorem stopEach_named (experiments : List (ChaosExperiment K)) :
    (stopEach experiments).Only ChaosOp.named := by
  induction experiments with
  | nil => trivial
  | cons experiment experiments ih =>
      exact .bind (stopExperiment_named _) fun _ => .bind ih fun _ => trivial

theorem stopLegacyFault_named (faultType : String) :
    (stopLegacyFault faultType : Chaos K _).Only ChaosOp.named := by
  refine .bind (named_of_harmless (storeList_harmless false)) fun _ => .ite trivial ?_
  exact .bind (stopEach_named _) fun _ => trivial

theorem stopAllExperiments_named : (stopAllExperiments : Chaos K _).Only ChaosOp.named :=
  .bind (named_of_harmless (storeList_harmless false)) fun _ => stopEach_named _

theorem getFault_named (faultType : String) :
    (FaultInjection.getFault faultType : Faults K _).Only FaultOp.named := by
  refine .bind (.perform trivial) fun raw => ?_
  cases raw with
  | some record => trivial
  | none => exact .bind (ofChaos_named (stopLegacyFault_named _)) fun _ => trivial

theorem applyEach_harmless (request : ChaosRequest) (experiments active : List (ChaosExperiment K)) :
    (applyEach request experiments active).Only FaultOp.harmless := by
  induction experiments generalizing active with
  | nil => trivial
  | cons experiment experiments ih =>
      refine .ite (ih active) (.bind (ofChaos_harmless (matchRequest_harmless _ _)) fun _ =>
        .ite ?_ (ih active))
      refine .bind (.ofExcept _) fun injector => .bind (legacyApply_harmless _ _) fun action => ?_
      exact .ite trivial (ih _)

theorem beforeRequest_named (settings : FaultSettings K) (request : ChaosRequest) :
    (FaultInjection.beforeRequest settings request).Only FaultOp.named := by
  have hprepare : (FaultInjection.prepareRequestExperiments settings request).Only
      FaultOp.harmless := by
    refine .ite trivial (ofChaos_harmless ?_)
    exact .bind finalizeExpiredReports_harmless fun _ => .bind (storeList_harmless false) fun _ =>
      prepareEach_harmless request _
  have happly : ∀ active, (applyFaults settings request active).Only FaultOp.harmless := by
    intro active
    refine .ite trivial (.bind (ofChaos_harmless (storeList_harmless false)) fun _ => ?_)
    exact applyEach_harmless request _ active
  refine .ite trivial (.bind (faultNamed_of_harmless hprepare).attempt fun prepared => ?_)
  rcases prepared with e | active
  · trivial
  refine .bind (faultNamed_of_harmless (happly active)).attempt fun applied => ?_
  rcases applied with e | ⟨- | (- | - | -), active'⟩
  · trivial
  · trivial
  · trivial
  · trivial
  · refine .bind (getFault_named "exception").attempt fun fault => ?_
    rcases fault with e | fault <;> trivial

/-- Every call stores experiments under their ids. -/
theorem FaultCall.named (settings : FaultSettings K) (call : FaultCall K) :
    (call.program settings).Only FaultOp.named := by
  have hsilent : ∀ {α : Type} {p : Faults K α}, p.Only FaultOp.named →
      (FaultCall.silent p).Only FaultOp.named := fun hp => .bind hp fun _ => trivial
  cases call with
  | injectFault faultType params ttlSec =>
      apply hsilent
      rw [FaultInjection.injectFault]
      split
      · trivial
      · refine .bind (ofChaos_named (createLegacyExperiment_named _ _ _ _)) fun experiment => ?_
        exact .bind (.perform trivial) fun _ => trivial
  | createExperiment name hypothesis target faultType params duration =>
      apply hsilent
      rw [FaultInjection.createExperiment]
      split
      · trivial
      · exact ofChaos_named (createExperiment_named _ _ _ _ _ _ _ _)
  | stopExperiment experimentId => exact hsilent (ofChaos_named (stopExperiment_named _))
  | clearFault faultType =>
      apply hsilent
      exact .bind (.perform trivial) fun _ =>
        .bind (ofChaos_named (stopLegacyFault_named _)) fun _ => trivial
  | clearAllFaults =>
      apply hsilent
      refine .bind (.perform trivial) fun faultTypes => .ite ?_ ?_
      · exact .bind trivial fun _ => .bind (ofChaos_named stopAllExperiments_named) fun _ => trivial
      · exact .bind (.perform trivial) fun _ =>
          .bind (ofChaos_named stopAllExperiments_named) fun _ => trivial
  | listFaults => exact hsilent (faultNamed_of_harmless listFaults_harmless)
  | getFault faultType => exact hsilent (getFault_named _)
  | listExperiments =>
      refine hsilent (faultNamed_of_harmless (ofChaos_harmless ?_))
      exact .bind finalizeExpiredReports_harmless fun _ => storeList_harmless false
  | getExperiment experimentId =>
      refine hsilent (faultNamed_of_harmless (ofChaos_harmless ?_))
      exact .bind finalizeExpiredReports_harmless fun _ => .perform trivial
  | getReport experimentId =>
      exact hsilent (faultNamed_of_harmless (ofChaos_harmless (buildReport_harmless _)))
  | beforeRequest request => exact .bind (beforeRequest_named settings request) fun _ => trivial
  | beforeServiceOperation stage active =>
      exact hsilent (faultNamed_of_harmless (injectServiceFaults_harmless _ _))
  | beforeStoreOperation operation active =>
      exact hsilent (faultNamed_of_harmless (injectStoreFaults_harmless _ _))
  | recordResponse response active =>
      exact hsilent (faultNamed_of_harmless (ofChaos_harmless (recordResponse_harmless _ _)))
  | recordFallback active =>
      exact hsilent (faultNamed_of_harmless (ofChaos_harmless (recordFallback_harmless _)))

end Named

/-- Every stored experiment is stored under its own id. -/
def FaultState.Named (s : FaultState K) : Prop := ∀ id e, s.slot id = some e → e.val.id = id

section Runs

variable {env : FaultEnv K} {settings : FaultSettings K} {ι : Type} [DecidableEq ι]
  {calls : ι → FaultCall K}

theorem named_of_reach {s₀ : FaultState K} (hnamed : s₀.Named) {c : FaultConfig K ι}
    (hreach : Reach (faultWorld env) (fun _ _ => True) (faultCallsAt settings calls s₀) c) :
    c.state.Named := by
  let Inv : FaultState K → FaultLog K ι → Prop := fun s _ => s.Named
  let writer : Protocol (FaultSig K) Exc := ⟨fun _ o => FaultOp.named o, fun _ _ _ => True⟩
  have hserves : Serves (faultWorld env) (fun (_ : FaultState K) (_ : FaultLog K ι) => True)
      fun _ => writer := fun _ _ _ _ _ _ _ _ _ => trivial
  show Inv c.state c.log
  refine hreach.invariant (Q := fun _ _ _ => True) hserves rfl
    (fun i => Obeys.of_only ((calls i).named settings) (fun _ _ ho => ho) []) ?_ ?_ ?_
  · exact fun _ => hnamed
  · intro s l t s' hinv _ _ hd id e hslot
    obtain ⟨-, hslots, -⟩ := faultWorld_drift hd
    exact hinv id e ((hslots id).symm.trans hslot)
  · intro s l i o x r s' hinv _ _ hcall hs id e hslot
    have hserve := faultWorld_serve hs
    rcases s.serve_slot env o id with hsame | ⟨ttl, v, rfl, -, hput⟩
    · rw [hserve] at hsame
      exact hinv id e (hsame.symm.trans hslot)
    · rw [hserve] at hput
      obtain rfl := Option.some.inj (hput.symm.trans hslot)
      exact hcall

/-- A state that the calls of the facade have written, in any number and in any order of
their commands. -/
def Written (env : FaultEnv K) (settings : FaultSettings K) (s : FaultState K) : Prop :=
  ∃ (κ : Type) (_ : DecidableEq κ) (calls : κ → FaultCall K) (now : K) (c : FaultConfig K κ),
    Reach (faultWorld env) (fun _ _ => True) (faultCallsAt settings calls (.initial now)) c ∧
      c.state = s

theorem Written.named {s : FaultState K} (h : Written env settings s) : s.Named := by
  obtain ⟨κ, _, calls, now, c, hreach, rfl⟩ := h
  refine named_of_reach ?_ hreach
  intro id e hslot
  cases hslot

end Runs

end ChaosDemo
