/-
ChaosDemo/FaultCalls.lean

The calls of the facade under one protocol.  The commands of the chaos package are those
of `chaosClient`, on the part of the history that belongs to it; of the fault keys a call
removes the ones it may drop and writes none.
-/
import ChaosDemo.FaultStops

set_option linter.unusedSectionVars false

namespace ChaosDemo

open CallTree Keyspace ChaosExperimentStore ChaosObserver FaultInjection

variable {K : Type} [Field K] [LinearOrder K] [IsStrictOrderedRing K]

abbrev FaultHistory (K : Type) := History (FaultSig K) Exc

/-- The event of the chaos package in an event of the facade. -/
def chaosEvent : Event (FaultSig K) Exc → Option (Event (ChaosSig K) Exc)
  | ⟨.chaos o, r⟩ => some ⟨o, r⟩
  | _ => none

/-- The part of a history that belongs to the chaos package. -/
def chaosPart (h : FaultHistory K) : ChaosHistory K := h.filterMap chaosEvent

theorem chaosPart_subset {h h' : FaultHistory K} (hh : h ⊆ h') : chaosPart h ⊆ chaosPart h' := by
  intro ev hev
  obtain ⟨ev', hmem, heq⟩ := List.mem_filterMap.mp hev
  exact List.mem_filterMap.mpr ⟨ev', hh hmem, heq⟩

/-- A call that stops some of the experiments, removes some of the fault keys, and stores
nothing else. -/
def faultClient (stops : ChaosExperiment K → Prop) (drops : String → Prop) :
    Protocol (FaultSig K) Exc where
  mayCall h o := match o with
    | .chaos o => (chaosClient stops).mayCall (chaosPart h) o
    | .setexFault _ _ _ => False
    | .deleteFaults ts => ∀ t ∈ ts, drops t
    | _ => True
  mayReply h o r := match o with
    | .chaos o => (chaosClient stops).mayReply (chaosPart h) o r
    | _ => True

section Calls

variable {stops : ChaosExperiment K → Prop} {drops : String → Prop} {α β : Type}

/-- What holds of the values returned, of the chaos part of the history. -/
abbrev ChaosReturns (h : FaultHistory K) (R : α → ChaosHistory K → Prop) : Post (FaultSig K) Exc α :=
  Returns h fun a h' => R a (chaosPart h')

/-- A program of the chaos package keeps to its protocol in the facade. -/
theorem ofChaos_obeys {p : Chaos K α} {R : α → ChaosHistory K → Prop} {h : FaultHistory K}
    (hp : Obeys (chaosClient stops) p (Returns (chaosPart h) R) (chaosPart h)) :
    Obeys (faultClient stops drops) (Faults.ofChaos p) (ChaosReturns h R) h := by
  have hlift : Obeys (faultClient stops drops) (Faults.ofChaos p)
      (fun res ht => ∃ hs, chaosPart ht = hs ∧ Returns (chaosPart h) R res hs) h :=
    Obeys.interp (R := fun hs ht => chaosPart ht = hs) ?_ hp rfl
  · refine hlift.returns.mono fun res h' hres => ⟨hres.1, fun a hok => ?_⟩
    obtain ⟨hs, hpart, hpost⟩ := hres.2 a hok
    show R a (chaosPart h')
    rw [hpart]
    exact hpost.2 a rfl
  · rintro o hs ht rfl hcall
    exact Obeys.perform hcall fun r hr => ⟨hr, rfl⟩

theorem faultHarmless_obeys {p : Faults K α} (hp : p.Only FaultOp.harmless)
    (h : FaultHistory K) :
    Obeys (faultClient stops drops) p (ChaosReturns h fun _ _ => True) h := by
  refine (Obeys.of_only hp ?_ h).returns
  intro h' o ho
  cases o with
  | chaos o =>
      cases o with
      | setex k ttl v =>
          cases k with
          | experiment id => exact ho.elim
          | report id => trivial
      | sleep seconds => exact ho
      | _ => trivial
  | setexFault t ttl record => exact ho.elim
  | deleteFaults ts => exact ho.elim
  | _ => trivial

/-- A command on the fault keys. -/
theorem perform_obeys {o : FaultOp K} (h : FaultHistory K)
    (hcall : (faultClient stops drops).mayCall h o) :
    Obeys (faultClient stops drops) (.perform (S := FaultSig K) o)
      (ChaosReturns h fun _ _ => True) h :=
  (Obeys.perform (Q := fun _ _ => True) hcall fun _ _ => trivial).returns

/-- The outcome as a value. -/
theorem Obeys.attempt_returns {p : Faults K α} {h : FaultHistory K}
    {R : α → ChaosHistory K → Prop}
    (hp : Obeys (faultClient stops drops) p (ChaosReturns h R) h) :
    Obeys (faultClient stops drops) p.attempt
      (ChaosReturns h fun res h' => ∀ a, res = .ok a → R a h') h :=
  hp.attempt fun _ _ hres => Returns.ret hres.1 hres.2

/-! ### The facade -/

theorem clearFault_obeys (faultType : String) (h : FaultHistory K) :
    Obeys (faultClient (fun experiment => experiment.faultType = faultType) (· = faultType))
      (clearFault faultType) (ChaosReturns h fun _ h' => ∀ id,
        Shown (fun experiment : ChaosExperiment K => experiment.faultType = faultType) h' id) h := by
  apply (perform_obeys (o := .deleteFaults [faultType]) h
    fun t ht => List.mem_singleton.mp ht).bind_returns
  intro deleted h₁ _ _
  apply (ofChaos_obeys (stopLegacyFault_obeys faultType (chaosPart h₁))).bind_returns
  intro stopped h₂ _ hshown
  exact Obeys.ret_returns hshown

theorem clearAllFaults_obeys (h : FaultHistory K) :
    Obeys (faultClient (fun _ => True) (fun _ => True)) clearAllFaults
      (ChaosReturns h fun _ h' => ∀ id, Shown (fun _ : ChaosExperiment K => True) h' id) h := by
  apply (perform_obeys (o := .keysFaults) h trivial).bind_returns
  intro faultTypes h₁ _ _
  have hstop : ∀ (deleted : ℕ) (h₂ : FaultHistory K),
      Obeys (faultClient (fun _ => True) (fun _ => True))
        (do let stopped ← Faults.ofChaos stopAllExperiments; pure (max deleted stopped))
        (ChaosReturns h₂ fun _ h' => ∀ id, Shown (fun _ : ChaosExperiment K => True) h' id) h₂ := by
    intro deleted h₂
    apply (ofChaos_obeys (stopAllExperiments_obeys (chaosPart h₂))).bind_returns
    intro stopped h₃ _ hshown
    exact Obeys.ret_returns hshown
  by_cases hempty : faultTypes.isEmpty = true
  · simp only [if_pos hempty]
    exact hstop 0 h₁
  · simp only [if_neg hempty]
    apply (perform_obeys (o := .deleteFaults faultTypes) h₁ fun _ _ => trivial).bind_returns
    intro deleted h₂ _ _
    exact hstop deleted h₂

theorem getFault_obeys (faultType : String) (drops : String → Prop) (h : FaultHistory K) :
    Obeys (faultClient (fun experiment => experiment.faultType = faultType) drops)
      (getFault faultType) (ChaosReturns h fun _ _ => True) h := by
  apply (perform_obeys (o := .getFault faultType) h trivial).bind_returns
  intro raw h₁ _ _
  cases raw with
  | some record => exact Obeys.ret_returns trivial
  | none =>
      apply (ofChaos_obeys (stopLegacyFault_obeys faultType (chaosPart h₁))).bind_returns
      intro stopped h₂ _ _
      exact Obeys.ret_returns trivial

/-- The legacy faults are applied with experiments that were active, or are listed now. -/
theorem applyEach_obeys (request : ChaosRequest) (experiments active : List (ChaosExperiment K))
    (h : FaultHistory K) :
    Obeys (faultClient stops drops) (applyEach request experiments active)
      (ChaosReturns h fun result _ => result.2 ⊆ active ++ experiments) h := by
  induction experiments generalizing active h with
  | nil =>
      refine Obeys.ret_returns ?_
      show active ⊆ active ++ []
      rw [List.append_nil]
      exact fun _ hmem => hmem
  | cons experiment experiments ih =>
      have hskip : ∀ h₁, Obeys (faultClient stops drops) (applyEach request experiments active)
          (ChaosReturns h₁ fun result _ => result.2 ⊆ active ++ experiment :: experiments) h₁ := by
        intro h₁
        refine (ih active h₁).mono fun res h' hres => ⟨hres.1, fun a ha x hx => ?_⟩
        have hin := hres.2 a ha hx
        simp only [List.mem_append, List.mem_cons] at hin ⊢
        tauto
      have hadd : addActive experiment active ⊆ active ++ [experiment] := by
        rw [addActive]
        split
        · exact fun _ hmem => hmem
        · exact List.subset_append_left _ _
      show Obeys _ (if experiment.legacyApi = false then _ else _) _ _
      by_cases hlegacy : experiment.legacyApi = false
      · rw [if_pos hlegacy]
        exact hskip h
      rw [if_neg hlegacy]
      apply (faultHarmless_obeys (ofChaos_harmless (matchRequest_harmless experiment request))
        h).bind_returns
      intro matched h₁ _ _
      cases matched with
      | false => exact hskip h₁
      | true =>
          show Obeys _ (Prog.ofExcept (buildInjector experiment.faultType) >>= _) _ _
          apply (faultHarmless_obeys (.ofExcept (buildInjector experiment.faultType)) h₁).bind_returns
          intro injector h₂ _ _
          apply (faultHarmless_obeys (legacyApply_harmless experiment injector) h₂).bind_returns
          intro action h₃ _ _
          show Obeys _ (if action = some .drop ∨ action = some .exception then _ else _) _ _
          split
          · refine Obeys.ret_returns fun x hx => ?_
            have hin := hadd hx
            simp only [List.mem_append, List.mem_cons] at hin ⊢
            tauto
          · refine (ih (addActive experiment active) h₃).mono fun res h' hres =>
              ⟨hres.1, fun a ha x hx => ?_⟩
            have hin := hres.2 a ha hx
            rcases List.mem_append.mp hin with hact | hrest
            · have hin' := hadd hact
              simp only [List.mem_append, List.mem_cons] at hin' ⊢
              tauto
            · simp only [List.mem_append, List.mem_cons]
              tauto

theorem applyLegacyFaults_obeys (request : ChaosRequest) {active : List (ChaosExperiment K)}
    {h : FaultHistory K} (hactive : ListedIn active (chaosPart h)) :
    Obeys (faultClient stops drops) (applyLegacyFaults request active)
      (ChaosReturns h fun result h' => ListedIn result.2 h') h := by
  apply (ofChaos_obeys (storeList_obeys (chaosPart h))).bind_returns
  rintro experiments h₁ hh ⟨hlisted, -⟩
  refine (applyEach_obeys request experiments active h₁).mono fun res h' hres =>
    ⟨hres.1, fun a ha => ?_⟩
  have hold := hactive.mono (chaosPart_subset hh)
  have hkeep := chaosPart_subset hres.1
  constructor
  · intro e he
    rcases List.mem_append.mp (hres.2 a ha he) with hin | hin
    · exact hkeep (hold.read e hin)
    · exact hkeep (hlisted.read e hin)
  · intro e he
    rcases List.mem_append.mp (hres.2 a ha he) with hin | hin
    · exact hold.running e hin
    · exact hlisted.running e hin

theorem applyFaults_obeys (settings : FaultSettings K) (request : ChaosRequest)
    {active : List (ChaosExperiment K)} {h : FaultHistory K}
    (hactive : ListedIn active (chaosPart h)) :
    Obeys (faultClient stops drops) (applyFaults settings request active)
      (ChaosReturns h fun result h' => ListedIn result.2 h') h := by
  rw [applyFaults]
  split
  · exact Obeys.ret_returns hactive
  · exact applyLegacyFaults_obeys request hactive

theorem facadePrepare_obeys (settings : FaultSettings K) (request : ChaosRequest)
    (h : FaultHistory K) :
    Obeys (faultClient stops drops)
      (FaultInjection.prepareRequestExperiments settings request)
      (ChaosReturns h fun active h' => ListedIn active h') h := by
  rw [FaultInjection.prepareRequestExperiments]
  split
  · exact Obeys.ret_returns ⟨by simp, by simp⟩
  · exact ofChaos_obeys (prepareRequestExperiments_obeys request (chaosPart h))

/-- The request hook leaves experiments in the request that it has read as running. -/
theorem beforeRequest_obeys (settings : FaultSettings K) (request : ChaosRequest)
    (drops : String → Prop) (h : FaultHistory K) :
    Obeys (faultClient (fun experiment => experiment.faultType = "exception") drops)
      (FaultInjection.beforeRequest settings request)
      (ChaosReturns h fun result h' => ListedIn result.1 h') h := by
  have hnone : ∀ h : FaultHistory K, ListedIn ([] : List (ChaosExperiment K)) (chaosPart h) :=
    fun h => ⟨by simp, by simp⟩
  rw [FaultInjection.beforeRequest]
  by_cases hexempt : exempt request.path = true
  · rw [if_pos hexempt]
    exact Obeys.ret_returns (hnone h)
  rw [if_neg hexempt]
  apply (Obeys.attempt_returns (facadePrepare_obeys settings request h)).bind_returns
  intro prepared h₁ _ hprepared
  cases prepared with
  | error e => exact Obeys.ret_returns (hnone h₁)
  | ok active =>
      have hactive := hprepared active rfl
      apply (Obeys.attempt_returns (applyFaults_obeys settings request hactive)).bind_returns
      intro applied h₂ hh₂ happlied
      rcases applied with e | ⟨action, active'⟩
      · exact Obeys.ret_returns (hactive.mono (chaosPart_subset hh₂))
      have hactive' : ListedIn active' (chaosPart h₂) := happlied (action, active') rfl
      rcases action with - | action
      · exact Obeys.ret_returns hactive'
      cases action with
      | latency => exact Obeys.ret_returns hactive'
      | drop => exact Obeys.ret_returns hactive'
      | exception =>
          apply (Obeys.attempt_returns (getFault_obeys "exception" drops h₂)).bind_returns
          intro fault h₃ hh₃ _
          have hkept := hactive'.mono (chaosPart_subset hh₃)
          cases fault with
          | error e => exact Obeys.ret_returns hkept
          | ok fault => exact Obeys.ret_returns hkept

/-! ### Any call -/

/-- What a call that has returned has seen. -/
structure FaultCall.Learnt (call : FaultCall K) (answer : FaultAnswer K) (h : ChaosHistory K) :
    Prop where
  shown : call.isStop = true → ∀ id,
    Shown call.stops h id ∨ ∀ experiment : ChaosExperiment K, experiment.id = id →
      ¬ call.stops experiment
  listed : ∀ active outcome, answer = .prepared active outcome → ListedIn active h

/-- A call that is looked at for what it stops, or for nothing. -/
theorem silent_obeys {call : FaultCall K} {p : Faults K α} {h : FaultHistory K}
    {R : α → ChaosHistory K → Prop}
    (hp : Obeys (faultClient stops drops) p (ChaosReturns h R) h)
    (hshown : call.isStop = true → ∀ a h' id, R a h' →
      Shown call.stops h' id ∨ ∀ experiment : ChaosExperiment K, experiment.id = id →
        ¬ call.stops experiment) :
    Obeys (faultClient stops drops) (FaultCall.silent p) (ChaosReturns h call.Learnt) h := by
  apply hp.bind_returns
  intro a h' _ hR
  apply Obeys.ret_returns
  constructor
  · exact fun hstop id => hshown hstop a _ id hR
  · exact fun active outcome heq => nomatch heq

/-- **Every call that creates nothing keeps to its protocol.** -/
theorem FaultCall.obeys (settings : FaultSettings K) {call : FaultCall K}
    (hcall : call.creates = false) (h : FaultHistory K) :
    Obeys (faultClient call.stops call.drops) (call.program settings)
      (ChaosReturns h call.Learnt) h := by
  cases call with
  | injectFault faultType params ttlSec => cases hcall
  | createExperiment name hypothesis target faultType params duration => cases hcall
  | stopExperiment experimentId =>
      refine silent_obeys (ofChaos_obeys (stopExperiment_obeys (.inr fun _ hid => hid))) ?_
      intro _ _ h' id hshown
      by_cases hid : id = experimentId
      · rw [hid]
        exact .inl hshown
      · exact .inr fun experiment heq hstop => hid (heq.symm.trans hstop)
  | clearFault faultType =>
      exact silent_obeys (clearFault_obeys faultType h) fun _ _ _ id hshown => .inl (hshown id)
  | clearAllFaults =>
      exact silent_obeys (clearAllFaults_obeys h) fun _ _ _ id hshown => .inl (hshown id)
  | listFaults => exact silent_obeys (faultHarmless_obeys listFaults_harmless h) fun hs => nomatch hs
  | getFault faultType => exact silent_obeys (getFault_obeys faultType _ h) fun hs => nomatch hs
  | listExperiments =>
      refine silent_obeys (faultHarmless_obeys (ofChaos_harmless ?_) h) fun hs => nomatch hs
      exact .bind finalizeExpiredReports_harmless fun _ => storeList_harmless false
  | getExperiment experimentId =>
      refine silent_obeys (faultHarmless_obeys (ofChaos_harmless ?_) h) fun hs => nomatch hs
      exact .bind finalizeExpiredReports_harmless fun _ => .perform trivial
  | getReport experimentId =>
      exact silent_obeys (faultHarmless_obeys (ofChaos_harmless (buildReport_harmless _)) h)
        fun hs => nomatch hs
  | beforeRequest request =>
      apply (beforeRequest_obeys settings request _ h).bind_returns
      rintro ⟨active, outcome⟩ h' - hlisted
      apply Obeys.ret_returns
      constructor
      · exact fun hs => nomatch hs
      · intro active' outcome' heq
        obtain ⟨rfl, rfl⟩ := FaultAnswer.prepared.inj heq
        exact hlisted
  | beforeServiceOperation stage active =>
      exact silent_obeys (faultHarmless_obeys (injectServiceFaults_harmless _ _) h)
        fun hs => nomatch hs
  | beforeStoreOperation operation active =>
      exact silent_obeys (faultHarmless_obeys (injectStoreFaults_harmless _ _) h)
        fun hs => nomatch hs
  | recordResponse response active =>
      exact silent_obeys (faultHarmless_obeys (ofChaos_harmless (recordResponse_harmless _ _)) h)
        fun hs => nomatch hs
  | recordFallback active =>
      exact silent_obeys (faultHarmless_obeys (ofChaos_harmless (recordFallback_harmless _)) h)
        fun hs => nomatch hs

end Calls

end ChaosDemo
