/-
ChaosDemo/FaultClients.lean

The calls of the facade, each as a client of the store, and what its own commands tell
it.  A call that creates nothing writes an experiment only as a stopped copy of what it
has read under the same id, and only where it has chosen that id (`Chosen`): because it
has read an experiment there that it is to stop, or because every experiment of that id
is to be stopped.

`Shown stops h id` says that the history `h` shows that no experiment to be stopped is
running under `id`.  A call that stops experiments does not return before it has seen
that of every id (`stopLegacyFault_obeys`, `stopAllExperiments_obeys`).
-/
import ChaosDemo.ChaosAccounting
import ChaosDemo.FaultFacade

set_option linter.unusedSectionVars false

namespace ChaosDemo

open CallTree Keyspace ChaosExperimentStore ChaosObserver FaultInjection

variable {K : Type} [Field K] [LinearOrder K] [IsStrictOrderedRing K]

/-! ### The calls -/

inductive FaultCall (K : Type)
  | injectFault (faultType : String) (params : Dict) (ttlSec : Option ℤ)
  | createExperiment (name hypothesis : String) (target : Dict) (faultType : String)
      (params : Dict) (duration : ℤ)
  | stopExperiment (experimentId : String)
  | clearFault (faultType : String)
  | clearAllFaults
  | listFaults
  | getFault (faultType : String)
  | listExperiments
  | getExperiment (experimentId : String)
  | getReport (experimentId : String)
  | beforeRequest (request : ChaosRequest)
  | beforeServiceOperation (stage : String) (active : List (ChaosExperiment K))
  | beforeStoreOperation (operation : String) (active : List (ChaosExperiment K))
  | recordResponse (response : ChaosResponse K) (active : List (ChaosExperiment K))
  | recordFallback (active : List (ChaosExperiment K))

/-- What a call answers, as far as a later statement looks at it. -/
inductive FaultAnswer (K : Type)
  | done
  | prepared (active : List (ChaosExperiment K)) (outcome : HookOutcome)

namespace FaultCall

/-- A call whose answer is not looked at. -/
def silent {α : Type} (p : Faults K α) : Faults K (FaultAnswer K) := do
  let _ ← p
  pure .done

def program (settings : FaultSettings K) : FaultCall K → Faults K (FaultAnswer K)
  | injectFault faultType params ttlSec =>
      silent (FaultInjection.injectFault settings faultType params ttlSec)
  | createExperiment name hypothesis target faultType params duration =>
      silent (FaultInjection.createExperiment settings name hypothesis target faultType params
        duration)
  | stopExperiment experimentId => silent (Faults.ofChaos (ChaosDemo.stopExperiment experimentId))
  | clearFault faultType => silent (FaultInjection.clearFault faultType)
  | clearAllFaults => silent FaultInjection.clearAllFaults
  | listFaults => silent FaultInjection.listFaults
  | getFault faultType => silent (FaultInjection.getFault faultType)
  | listExperiments => silent (Faults.ofChaos (ChaosDemo.listExperiments false))
  | getExperiment experimentId => silent (Faults.ofChaos (ChaosDemo.getExperiment experimentId))
  | getReport experimentId => silent (Faults.ofChaos (buildReport experimentId))
  | beforeRequest request => do
      let (active, outcome) ← FaultInjection.beforeRequest settings request
      pure (.prepared active outcome)
  | beforeServiceOperation stage active => silent (injectServiceFaults stage active)
  | beforeStoreOperation operation active => silent (injectStoreFaults operation active)
  | recordResponse response active =>
      silent (Faults.ofChaos (ChaosObserver.recordResponse response active))
  | recordFallback active => silent (Faults.ofChaos (ChaosObserver.recordFallback active))

/-- Whether it may store a new experiment. -/
def creates : FaultCall K → Bool
  | injectFault _ _ _ => true
  | createExperiment _ _ _ _ _ _ => true
  | _ => false

/-- Whether it is there to stop experiments. -/
def isStop : FaultCall K → Bool
  | stopExperiment _ => true
  | clearFault _ => true
  | clearAllFaults => true
  | _ => false

/-- The experiments it may stop.  The hook asks for the fault `exception`. -/
def stops : FaultCall K → ChaosExperiment K → Prop
  | stopExperiment experimentId, experiment => experiment.id = experimentId
  | clearFault faultType, experiment => experiment.faultType = faultType
  | clearAllFaults, _ => True
  | getFault faultType, experiment => experiment.faultType = faultType
  | beforeRequest _, experiment => experiment.faultType = "exception"
  | _, _ => False

/-- The fault keys it may remove. -/
def drops : FaultCall K → String → Prop
  | clearFault faultType, t => t = faultType
  | clearAllFaults, _ => True
  | _, _ => False

end FaultCall

/-- Every client makes one call. -/
def faultCallsAt {ι : Type} (settings : FaultSettings K) (calls : ι → FaultCall K)
    (s : FaultState K) : Config (FaultSig K) Exc (FaultAnswer K) (FaultState K) ι :=
  ⟨s, fun i => (calls i).program settings, []⟩

/-! ### Programs that store no experiment -/

/-- The call stores no experiment; and nobody sleeps backwards. -/
def ChaosOp.harmless : ChaosOp K → Prop
  | .setex (.experiment _) _ _ => False
  | .sleep seconds => 0 ≤ seconds
  | _ => True

/-- The call stores no experiment, and takes no time. -/
def ChaosOp.still : ChaosOp K → Prop
  | .setex (.experiment _) _ _ => False
  | .sleep _ => False
  | _ => True

section Harmless

theorem recordReportRecoveredMetrics_still (report : Report K) :
    (recordReportRecoveredMetrics report).Only ChaosOp.still := by
  refine .bind (.perform trivial) fun _ => .bind (.perform trivial) fun _ => ?_
  have hrest : ∀ _ : Unit, (do
      let now ← Chaos.time
      Chaos.metric report.experimentId report.labels
        (.recoveryDuration (max (now - report.createdAt) 0)) : Chaos K Unit).Only
        ChaosOp.still :=
    fun _ => .bind (.perform trivial) fun _ => .perform trivial
  show (if report.afterErrorCount = 0 then _ else _ : Chaos K Unit).Only ChaosOp.still
  exact .ite (.bind (.perform trivial) hrest) (.bind (.perform trivial) hrest)

theorem recordRecovered_still (experiment : ChaosExperiment K) :
    (recordRecovered experiment).Only ChaosOp.still := by
  refine .bind (.perform trivial) fun report => ?_
  cases report with
  | none => trivial
  | some report =>
      exact .bind (recordReportRecoveredMetrics_still report) fun _ => .perform trivial

theorem harmless_of_still {α : Type} {p : Chaos K α} (hp : p.Only ChaosOp.still) :
    p.Only ChaosOp.harmless := by
  refine hp.mono fun o ho => ?_
  cases o with
  | setex k ttl v =>
      cases k with
      | experiment id => exact ho.elim
      | report id => trivial
  | sleep seconds => exact ho.elim
  | _ => trivial

theorem recordReportRecoveredMetrics_harmless (report : Report K) :
    (recordReportRecoveredMetrics report).Only ChaosOp.harmless :=
  harmless_of_still (recordReportRecoveredMetrics_still report)

theorem recordRecovered_harmless (experiment : ChaosExperiment K) :
    (recordRecovered experiment).Only ChaosOp.harmless :=
  harmless_of_still (recordRecovered_still experiment)

theorem saveReport_harmless (id : String) (report : Report K) :
    (saveReport id report).Only ChaosOp.harmless :=
  .perform trivial

theorem recordInjected_harmless (experiment : ChaosExperiment K) (phase : String) :
    (recordInjected experiment phase).Only ChaosOp.harmless := by
  refine .bind (.perform trivial) fun _ => .bind (.perform trivial) fun report => ?_
  cases report with
  | none => trivial
  | some report => exact saveReport_harmless _ _

theorem recordResponse_harmless (response : ChaosResponse K)
    (experiments : List (ChaosExperiment K)) :
    (recordResponse response experiments).Only ChaosOp.harmless := by
  induction experiments with
  | nil => trivial
  | cons experiment experiments ih =>
      refine .bind (.perform trivial) fun report => ?_
      cases report with
      | none => exact ih
      | some report => exact .bind (saveReport_harmless _ _) fun _ => ih

theorem recordFallback_harmless (experiments : List (ChaosExperiment K)) :
    (recordFallback experiments).Only ChaosOp.harmless := by
  induction experiments with
  | nil => trivial
  | cons experiment experiments ih =>
      refine .bind (.perform trivial) fun report => ?_
      cases report with
      | none => exact ih
      | some report => exact .bind (saveReport_harmless _ _) fun _ => ih

theorem finalizeExpiredReports_harmless :
    (finalizeExpiredReports : Chaos K Unit).Only ChaosOp.harmless := by
  refine .bind (.perform trivial) fun now => .bind (.perform trivial) fun ids => ?_
  induction pySorted ids with
  | nil => trivial
  | cons id ids ih =>
      refine .bind (.bind (.perform trivial) fun report => ?_) fun _ => ih
      cases report with
      | none => trivial
      | some report =>
          refine .ite trivial (.ite ?_ trivial)
          exact .bind (recordReportRecoveredMetrics_harmless report) fun _ =>
            saveReport_harmless _ _

theorem buildReport_harmless (experimentId : String) :
    (buildReport experimentId : Chaos K _).Only ChaosOp.harmless := by
  refine .bind (.perform trivial) fun report => .bind (.perform trivial) fun experiment => ?_
  cases report with
  | none => trivial
  | some report => exact .ite (.bind (saveReport_harmless _ _) fun _ => trivial) trivial

theorem listEach_harmless (includeStopped : Bool) (ids : List String) :
    (listEach includeStopped ids : Chaos K _).Only ChaosOp.harmless := by
  induction ids with
  | nil => trivial
  | cons id ids ih =>
      refine .bind (.perform trivial) fun raw => .bind ih fun rest => ?_
      cases raw with
      | none => trivial
      | some experiment => exact .ite trivial trivial

theorem storeList_harmless (includeStopped : Bool) :
    (ChaosExperimentStore.listExperiments includeStopped : Chaos K _).Only ChaosOp.harmless :=
  .bind (.perform trivial) fun ids => listEach_harmless includeStopped (pySorted ids)

theorem matchRequest_harmless (experiment : ChaosExperiment K) (request : ChaosRequest) :
    (matchRequest experiment request).Only ChaosOp.harmless := by
  refine .ite trivial (.ite trivial ?_)
  rw [percentageMatch]
  split
  · trivial
  · exact .bind (.ofExcept _) fun value => .bind (.perform trivial) fun sample => trivial

theorem beforeRequest_harmless (experiment : ChaosExperiment K) (injector : FaultInjector) :
    (injector.beforeRequest experiment).Only ChaosOp.harmless := by
  cases injector with
  | latency =>
      refine .bind (.ofExcept _) fun ms => .ite_of (fun _ => trivial) fun hms => ?_
      refine .bind (recordInjected_harmless _ _) fun _ => .perform ?_
      have hpos : 0 < ms := not_le.mp hms
      show 0 ≤ ms / 1000
      positivity
  | exception => trivial
  | drop => trivial
  | slowDb => trivial

theorem prepareEach_harmless (request : ChaosRequest) (experiments : List (ChaosExperiment K)) :
    (prepareEach request experiments).Only ChaosOp.harmless := by
  induction experiments with
  | nil => trivial
  | cons experiment experiments ih =>
      refine .bind (matchRequest_harmless _ _) fun matched => .ite ?_ ih
      refine .bind (.ofExcept _) fun injector => .bind (beforeRequest_harmless _ _) fun _ => ?_
      exact .bind ih fun _ => trivial

end Harmless

/-- The call stores no experiment, and leaves the fault keys alone. -/
def FaultOp.harmless : FaultOp K → Prop
  | .chaos o => o.harmless
  | .setexFault _ _ _ => False
  | .deleteFaults _ => False
  | _ => True

theorem ofChaos_harmless {α : Type} {p : Chaos K α} (hp : p.Only ChaosOp.harmless) :
    (Faults.ofChaos p).Only FaultOp.harmless :=
  hp.interp fun _ ho => .perform ho

section Harmless

theorem shouldDrop_harmless (experiment : ChaosExperiment K) :
    (FaultInjector.shouldDrop experiment).Only FaultOp.harmless :=
  .bind (.ofExcept _) fun _ => .bind (.perform trivial) fun _ => trivial

theorem delay_harmless (experiment : ChaosExperiment K) (phase : String) (totalMs : K) :
    (FaultInjector.delay experiment phase totalMs).Only FaultOp.harmless := by
  refine .ite_of (fun hpos => ?_) fun _ => trivial
  refine .bind (ofChaos_harmless (recordInjected_harmless _ _)) fun _ => .perform ?_
  show 0 ≤ totalMs / 1000
  positivity

theorem jitter_harmless (jitterMs : K) :
    (FaultInjector.jitter jitterMs).Only FaultOp.harmless :=
  .ite (.perform trivial) trivial

theorem legacyApply_harmless (experiment : ChaosExperiment K) (injector : FaultInjector) :
    (injector.legacyApply experiment).Only FaultOp.harmless := by
  cases injector with
  | latency =>
      exact .bind (ofChaos_harmless (beforeRequest_harmless experiment .latency)) fun _ => trivial
  | exception => exact .bind (ofChaos_harmless (recordInjected_harmless _ _)) fun _ => trivial
  | drop =>
      refine .bind (shouldDrop_harmless _) fun _ => .ite ?_ trivial
      exact .bind (ofChaos_harmless (recordInjected_harmless _ _)) fun _ => trivial
  | slowDb =>
      refine .bind (.ofExcept _) fun baseMs => .bind (.ofExcept _) fun jitterMs => ?_
      refine .bind (jitter_harmless jitterMs) fun spread => ?_
      refine .bind (delay_harmless _ _ _) fun _ => .bind (.perform trivial) fun sample => ?_
      exact .bind (.ofExcept _) fun timeoutRate => .ite trivial trivial

theorem beforeService_harmless (experiment : ChaosExperiment K) (stage : String)
    (injector : FaultInjector) :
    (injector.beforeService experiment stage).Only FaultOp.harmless := by
  cases injector with
  | latency => trivial
  | exception =>
      refine .ite trivial ?_
      exact .bind (ofChaos_harmless (recordInjected_harmless _ _)) fun _ => trivial
  | drop =>
      refine .ite trivial (.bind (shouldDrop_harmless _) fun _ => .ite ?_ trivial)
      exact .bind (ofChaos_harmless (recordInjected_harmless _ _)) fun _ => trivial
  | slowDb => trivial

theorem beforeStoreCall_harmless (experiment : ChaosExperiment K) (operation : String)
    (injector : FaultInjector) :
    (injector.beforeStoreCall experiment operation).Only FaultOp.harmless := by
  cases injector with
  | latency => trivial
  | exception => trivial
  | drop => trivial
  | slowDb =>
      refine .ite trivial (.ite trivial ?_)
      refine .bind (.ofExcept _) fun baseMs => .bind (.ofExcept _) fun jitterMs => ?_
      refine .bind (.ofExcept _) fun timeoutRate => .bind (jitter_harmless jitterMs) fun _ => ?_
      refine .bind (delay_harmless _ _ _) fun _ => .bind (.perform trivial) fun sample => ?_
      exact .ite (.bind (ofChaos_harmless (recordInjected_harmless _ _)) fun _ => trivial) trivial

theorem injectServiceFaults_harmless (stage : String) (experiments : List (ChaosExperiment K)) :
    (injectServiceFaults stage experiments).Only FaultOp.harmless := by
  induction experiments with
  | nil => trivial
  | cons experiment experiments ih =>
      refine .bind (.ofExcept _) fun injector => ?_
      exact .bind (beforeService_harmless _ _ _) fun _ => ih

theorem injectStoreFaults_harmless (operation : String) (experiments : List (ChaosExperiment K)) :
    (injectStoreFaults operation experiments).Only FaultOp.harmless := by
  induction experiments with
  | nil => trivial
  | cons experiment experiments ih =>
      refine .bind (.ofExcept _) fun injector => ?_
      exact .bind (beforeStoreCall_harmless _ _ _) fun _ => ih

theorem readEach_harmless (faultTypes : List String) :
    (readEach faultTypes : Faults K _).Only FaultOp.harmless := by
  induction faultTypes with
  | nil => trivial
  | cons faultType faultTypes ih =>
      refine .bind (.perform trivial) fun raw => .bind ih fun rest => ?_
      cases raw <;> trivial

theorem listFaults_harmless : (listFaults : Faults K _).Only FaultOp.harmless := by
  refine .bind (.perform trivial) fun _ => .bind (readEach_harmless _) fun _ => .ite ?_ trivial
  refine .bind (ofChaos_harmless ?_) fun _ => trivial
  exact .bind (storeList_harmless false) fun _ => trivial

end Harmless

end ChaosDemo
