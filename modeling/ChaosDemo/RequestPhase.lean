/-
ChaosDemo/RequestPhase.lean

The request hook with notes: which experiment it looks at, and which one it takes for
matched.

    considered e     until the next note, a draw is a sample of the percentage of `e`
    matched e        until the next note, a sleep is the delay of `e`

`erase_beforeRequest` says that the hook of hooks.py is what is left without the notes.
The account of a run (`PhaseAccount`) lists the samples and the sleeps with the
experiments they belong to, and `OncePerRequest` is the promise about it.
-/
import ChaosDemo.FaultReads
import ChaosDemo.Notes

set_option linter.unusedSectionVars false

namespace ChaosDemo

open CallTree Keyspace ChaosExperimentStore ChaosObserver

variable {K : Type} [Field K] [LinearOrder K]

/-! ### The hook, with notes -/

inductive PhaseNote (K : Type)
  | considered (experiment : ChaosExperiment K)
  | matched (experiment : ChaosExperiment K)

def PhaseNote.experiment : PhaseNote K → ChaosExperiment K
  | considered experiment => experiment
  | matched experiment => experiment

/-- A program of the facade with notes. -/
abbrev PhaseProg (K α : Type) := Prog ((FaultSig K).noted (PhaseNote K)) Exc α

namespace RequestPhase

def note (n : PhaseNote K) : PhaseProg K Unit := Prog.note (S := FaultSig K) n

def plain {α : Type} (p : Faults K α) : PhaseProg K α := Prog.plain (S := FaultSig K) p

def chaos {α : Type} (p : Chaos K α) : PhaseProg K α := plain (Faults.ofChaos p)

/-- `match_request`, between its notes. -/
def matchRequest (experiment : ChaosExperiment K) (request : ChaosRequest) : PhaseProg K Bool := do
  note (.considered experiment)
  let matched ← chaos (ChaosDemo.matchRequest experiment request)
  if matched then do
    note (.matched experiment)
    pure true
  else pure false

/-- The loop of `prepare_request_experiments`. -/
def prepareEach (request : ChaosRequest) :
    List (ChaosExperiment K) → PhaseProg K (List (ChaosExperiment K))
  | [] => pure []
  | experiment :: experiments => do
      let matched ← matchRequest experiment request
      if matched then do
        let injector ← Prog.ofExcept (buildInjector experiment.faultType)
        chaos (injector.beforeRequest experiment)
        let active ← prepareEach request experiments
        pure (experiment :: active)
      else prepareEach request experiments

/-- `prepare_request_experiments`. -/
def prepareRequestExperiments (settings : FaultSettings K) (request : ChaosRequest) :
    PhaseProg K (List (ChaosExperiment K)) :=
  if settings.faultInjectionEnabled = false then pure []
  else do
    chaos finalizeExpiredReports
    let experiments ← chaos (ChaosExperimentStore.listExperiments false)
    prepareEach request experiments

/-- The loop of `apply_legacy_faults`. -/
def applyEach (request : ChaosRequest) :
    List (ChaosExperiment K) → List (ChaosExperiment K) →
      PhaseProg K (Option FaultInjector.Action × List (ChaosExperiment K))
  | [], active => pure (if active.isEmpty then none else some .latency, active)
  | experiment :: experiments, active =>
      if experiment.legacyApi = false then applyEach request experiments active
      else do
        let matched ← matchRequest experiment request
        if matched then do
          let injector ← Prog.ofExcept (buildInjector experiment.faultType)
          let action ← plain (injector.legacyApply experiment)
          if action = some .drop ∨ action = some .exception then
            pure (action, addActive experiment active)
          else applyEach request experiments (addActive experiment active)
        else applyEach request experiments active

/-- `apply_faults`. -/
def applyFaults (settings : FaultSettings K) (request : ChaosRequest)
    (active : List (ChaosExperiment K)) :
    PhaseProg K (Option FaultInjector.Action × List (ChaosExperiment K)) :=
  if settings.faultInjectionEnabled = false then pure (none, active)
  else do
    let experiments ← chaos (ChaosExperimentStore.listExperiments false)
    applyEach request experiments active

/-- What the hook does after `apply_faults`. -/
def outcome (active : List (ChaosExperiment K)) :
    Except Exc (Option FaultInjector.Action × List (ChaosExperiment K)) →
      Faults K (List (ChaosExperiment K) × FaultInjection.HookOutcome)
  | .error _ => pure (active, .passed)
  | .ok (some .drop, active) => pure (active, .dropped)
  | .ok (some .exception, active) => do
      let fault ← (FaultInjection.getFault "exception").attempt
      match fault with
      | .error _ => pure (active, .passed)
      | .ok fault =>
          let params := match fault with
            | some record => record.params
            | none => []
          pure (active, .raised ("fault injected: " ++
            (Dict.getD params "error_type" (.str "runtime")).pyStr))
  | .ok (_, active) => pure (active, .passed)

/-- The chaos part of `before_request`. -/
def beforeRequest (settings : FaultSettings K) (request : ChaosRequest) :
    PhaseProg K (List (ChaosExperiment K) × FaultInjection.HookOutcome) :=
  if FaultInjection.exempt request.path then pure ([], .passed)
  else do
    let prepared ← (prepareRequestExperiments settings request).attempt
    match prepared with
    | .error _ => pure ([], .passed)
    | .ok active => do
        let applied ← (applyFaults settings request active).attempt
        plain (outcome active applied)

/-! ### Without the notes -/

section Erase

variable {α β : Type}

theorem ofChaos_bind (p : Chaos K α) (f : α → Chaos K β) :
    Faults.ofChaos (p >>= f) = Faults.ofChaos p >>= fun a => Faults.ofChaos (f a) :=
  Prog.interp_bind _ p f

theorem ofChaos_ofExcept (r : Except Exc α) :
    Faults.ofChaos (Prog.ofExcept r : Chaos K α) = Prog.ofExcept r := by
  cases r <;> rfl

@[simp] theorem erase_chaos (p : Chaos K α) : (chaos p).erase = Faults.ofChaos p :=
  Prog.erase_plain _

theorem erase_matchRequest (experiment : ChaosExperiment K) (request : ChaosRequest) :
    (matchRequest experiment request).erase =
      Faults.ofChaos (ChaosDemo.matchRequest experiment request) := by
  rw [matchRequest, note, Prog.erase_note_bind, Prog.erase_bind, erase_chaos]
  have hpass : ∀ matched : Bool, (if matched then do
      note (.matched experiment)
      pure true
      else pure false : PhaseProg K Bool).erase = Prog.ret matched := by
    intro matched
    cases matched <;> rfl
  simp only [hpass]
  exact Prog.bind_ret _

theorem erase_prepareEach (request : ChaosRequest) (experiments : List (ChaosExperiment K)) :
    (prepareEach request experiments).erase =
      Faults.ofChaos (ChaosDemo.prepareEach request experiments) := by
  induction experiments with
  | nil => rfl
  | cons experiment experiments ih =>
      rw [prepareEach, ChaosDemo.prepareEach, Prog.erase_bind, erase_matchRequest, ofChaos_bind]
      congr 1
      funext matched
      cases matched with
      | false => exact ih
      | true =>
          simp only [if_true, Prog.erase_bind, ofChaos_bind, Prog.erase_ofExcept,
            ofChaos_ofExcept, erase_chaos, ih]
          rfl

theorem erase_applyEach (request : ChaosRequest) (experiments active : List (ChaosExperiment K)) :
    (applyEach request experiments active).erase =
      ChaosDemo.applyEach request experiments active := by
  induction experiments generalizing active with
  | nil => rfl
  | cons experiment experiments ih =>
      rw [applyEach, ChaosDemo.applyEach, Prog.erase_ite, ih, Prog.erase_bind, erase_matchRequest]
      congr 1
      congr 1
      funext matched
      cases matched with
      | false => exact ih active
      | true =>
          simp only [if_true, Prog.erase_bind, Prog.erase_ofExcept, plain, Prog.erase_plain,
            Prog.erase_ite, ih]
          rfl

theorem erase_prepareRequestExperiments (settings : FaultSettings K) (request : ChaosRequest) :
    (prepareRequestExperiments settings request).erase =
      FaultInjection.prepareRequestExperiments settings request := by
  rw [prepareRequestExperiments, FaultInjection.prepareRequestExperiments, Prog.erase_ite,
    ChaosDemo.prepareRequestExperiments, ofChaos_bind, Prog.erase_bind, erase_chaos]
  congr 1
  congr 1
  funext _
  rw [ofChaos_bind, Prog.erase_bind, erase_chaos]
  congr 1
  funext experiments
  exact erase_prepareEach request experiments

theorem erase_applyFaults (settings : FaultSettings K) (request : ChaosRequest)
    (active : List (ChaosExperiment K)) :
    (applyFaults settings request active).erase =
      FaultInjection.applyFaults settings request active := by
  rw [applyFaults, FaultInjection.applyFaults, Prog.erase_ite, applyLegacyFaults,
    Prog.erase_bind, erase_chaos]
  congr 1
  congr 1
  funext experiments
  exact erase_applyEach request experiments active

/-- **The hook without its notes is the hook.** -/
theorem erase_beforeRequest (settings : FaultSettings K) (request : ChaosRequest) :
    (beforeRequest settings request).erase = FaultInjection.beforeRequest settings request := by
  rw [beforeRequest, FaultInjection.beforeRequest, Prog.erase_ite, Prog.erase_bind,
    Prog.erase_attempt, erase_prepareRequestExperiments]
  congr 1
  congr 1
  funext prepared
  cases prepared with
  | error e => rfl
  | ok active =>
      simp only [Prog.erase_bind, Prog.erase_attempt, erase_applyFaults, plain, Prog.erase_plain]
      rfl

end Erase

end RequestPhase

/-! ### The account -/

/-- What a run has done, and for which experiment. -/
structure PhaseAccount (K : Type) where
  current : Option (PhaseNote K) := none
  considered : List (ChaosExperiment K) := []
  matched : List (ChaosExperiment K) := []
  sampled : List (ChaosExperiment K) := []
  slept : List (ChaosExperiment K × K) := []

/-- One call or one note. -/
def PhaseAccount.enter (a : PhaseAccount K) : FaultOp K ⊕ PhaseNote K → PhaseAccount K
  | .inr (.considered experiment) => { a with
      current := some (.considered experiment)
      considered := a.considered ++ [experiment] }
  | .inr (.matched experiment) => { a with
      current := some (.matched experiment)
      matched := a.matched ++ [experiment] }
  | .inl (.chaos .random) =>
      match a.current with
      | some (.considered experiment) => { a with sampled := a.sampled ++ [experiment] }
      | _ => a
  | .inl (.chaos (.sleep seconds)) =>
      match a.current with
      | some n => { a with slept := a.slept ++ [(n.experiment, seconds)] }
      | none => a
  | .inl _ => a

/-- The hook, alone, with its account. -/
def RequestPhase.run (env : FaultEnv K) (settings : FaultSettings K) (request : ChaosRequest)
    (s : FaultState K) :
    Except Exc (List (ChaosExperiment K) × FaultInjection.HookOutcome) ×
      FaultState K × PhaseAccount K :=
  (RequestPhase.beforeRequest settings request).eval
    (noted (FaultState.serve env) PhaseAccount.enter) (s, {})

/-- The account is that of the hook as it is. -/
theorem RequestPhase.run_eq (env : FaultEnv K) (settings : FaultSettings K)
    (request : ChaosRequest) (s : FaultState K) :
    (FaultInjection.beforeRequest settings request).eval (FaultState.serve env) s =
      ((run env settings request s).1, (run env settings request s).2.1) := by
  rw [← erase_beforeRequest]
  exact eval_erase _ _ _

/-! ### What the matcher asks -/

/-- The endpoint and the method of the target are those of the request. -/
def ChaosExperiment.admits (experiment : ChaosExperiment K) (request : ChaosRequest) : Bool :=
  let endpoint := Dict.get experiment.target "endpoint"
  let method := Dict.get experiment.target "method"
  !decide (endpoint.truthy ∧ endpoint ≠ .str "*" ∧ endpoint ≠ .str request.path) &&
    !decide (method.truthy ∧ pyUpper method.pyStr ≠ pyUpper request.method)

/-- The share of the requests that a percentage stands for, where there is one. -/
def share (target : Dict) : Except Exc (Option K) :=
  match target.get "percentage" with
  | .null => .ok none
  | percentage => (pyFloat percentage).map fun value =>
      let value : K := if 1 < value then value / 100 else value
      some (max 0 (min value 1))

namespace ChaosExperiment

/-- The percentage is sampled for the request. -/
def asks (experiment : ChaosExperiment K) (request : ChaosRequest) : Bool :=
  experiment.admits request &&
    match (share experiment.target : Except Exc (Option K)) with
    | .ok (some _) => true
    | _ => false

/-- The percentage is no number, and the request comes to it. -/
def refuses (experiment : ChaosExperiment K) (request : ChaosRequest) : Bool :=
  experiment.admits request &&
    match (share experiment.target : Except Exc (Option K)) with
    | .ok _ => false
    | .error _ => true

/-- A number among the parameters. -/
def number (experiment : ChaosExperiment K) (key : String) : K :=
  match (Dict.getD experiment.params key (.int 0)).number? with
  | some q => q
  | none => 0

/-- The latency of a latency experiment, in seconds. -/
def latencySeconds (experiment : ChaosExperiment K) : K :=
  if experiment.faultType = "latency" then experiment.number "latency_ms" / 1000 else 0

end ChaosExperiment

/-! ### The promise -/

/-- A report, as a GET sees it. -/
def FaultState.report (s : FaultState K) (id : String) : Option (Report K) :=
  s.chaos.data.lookup s.chaos.now (.report id)

/-- The latency that was slept. -/
def PhaseAccount.latency (a : PhaseAccount K) : K :=
  ((a.slept.filter fun p => p.1.faultType = "latency").map Prod.snd).sum

/-- **One injection for each request.**  No experiment sleeps twice, no report counts
twice, a percentage the hook comes to is sampled once, and the latency is that of the
experiments that matched, each taken once. -/
structure OncePerRequest (request : ChaosRequest) (s s' : FaultState K) (a : PhaseAccount K) :
    Prop where
  slept : ∀ id, a.slept.countP (fun p => p.1.id = id) ≤ 1
  counted : ∀ id report report', s.report id = some report → s'.report id = some report' →
    report'.faultInjectedCount ≤ report.faultInjectedCount + 1
  sampled : ∀ experiment ∈ a.considered, experiment.asks request = true →
    a.sampled.countP (fun other => other.id = experiment.id) = 1
  latency : a.latency = (a.matched.dedup.map ChaosExperiment.latencySeconds).sum

/-! ### When it is kept -/

/-- The experiments that run at a time. -/
def FaultState.runningAt (s : FaultState K) (now : K) : List (ChaosExperiment K) :=
  ({ s.chaos with now := now } : ChaosState K).listed false
    (pySorted ((s.chaos.data.keys now).filterMap ChaosPattern.experiments.match?))

/-- Whether the experiment matches, if `n` numbers were drawn before. -/
def ChaosExperiment.verdict (experiment : ChaosExperiment K) (draw : ℕ → K)
    (request : ChaosRequest) (n : ℕ) : Except Exc Bool :=
  if experiment.admits request = false then .ok false
  else match (share experiment.target : Except Exc (Option K)) with
    | .error e => .error e
    | .ok none => .ok true
    | .ok (some p) => .ok (decide (draw n < p))

/-- A verdict that lets the experiment act. -/
def favourable : Except Exc Bool → Bool
  | .ok matched => matched
  | .error _ => false

/-- The experiment, if it matches. -/
def ChaosExperiment.taken (experiment : ChaosExperiment K) (draw : ℕ → K)
    (request : ChaosRequest) (n : ℕ) : List (ChaosExperiment K) :=
  if favourable (experiment.verdict draw request n) then [experiment] else []

/-- The experiments that match. -/
def matching (draw : ℕ → K) (request : ChaosRequest) :
    List (ChaosExperiment K) → ℕ → List (ChaosExperiment K)
  | [], _ => []
  | experiment :: experiments, n =>
      experiment.taken draw request n ++
        matching draw request experiments (if experiment.asks request then n + 1 else n)

/-- `apply_legacy_faults` does nothing again on this list, if `n` numbers were drawn
before: as long as it goes on, no legacy experiment that comes into question has a
percentage or a latency. -/
def spares (draw : ℕ → K) (request : ChaosRequest) : List (ChaosExperiment K) → ℕ → Bool
  | [], _ => true
  | experiment :: experiments, n =>
      if experiment.legacyApi = false ∨ experiment.admits request = false then
        spares draw request experiments n
      else if experiment.asks request then false
      else match buildInjector experiment.faultType with
        | .ok .latency => decide (experiment.number "latency_ms" = 0) &&
            spares draw request experiments n
        | .ok .drop => decide (draw n < experiment.number "drop_rate") ||
            spares draw request experiments (n + 1)
        | .ok .slowDb => decide (draw n < experiment.number "timeout_rate") ||
            spares draw request experiments (n + 1)
        | _ => true

/-- When the hook injects once: it does not look at the experiments, it gives up over a
percentage before `apply_legacy_faults`, or that has nothing to do again. -/
def InjectsOnce (env : FaultEnv K) (settings : FaultSettings K) (request : ChaosRequest)
    (s : FaultState K) : Prop :=
  FaultInjection.exempt request.path = true ∨ settings.faultInjectionEnabled = false ∨
    (∃ experiment ∈ s.runningAt s.chaos.now, experiment.refuses request = true) ∨
      let running := s.runningAt s.chaos.now
      let delay := ((matching env.draw request running s.chaos.drawn).map
        ChaosExperiment.latencySeconds).sum
      spares env.draw request (s.runningAt (s.chaos.now + delay))
        (s.chaos.drawn + (running.filter fun e => e.asks request).length) = true

/-- What is stored is what the entry points store: under its own id, and with parameters
that `_validate_fault_params` accepts. -/
structure Admissible (settings : FaultSettings K) (s : FaultState K) : Prop where
  named : s.Named
  valid : ∀ id e, s.slot id = some e →
    validateFaultParams settings e.val.faultType e.val.params = none
  reports : ∀ id r, s.chaos.data.slots (.report id) = some r → r.val.experimentId = id

end ChaosDemo
