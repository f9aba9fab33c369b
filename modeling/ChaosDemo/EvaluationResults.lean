/-
ChaosDemo/EvaluationResults.lean

What a caller of the platform sees of an evaluation (ai_platform/core/service.py).  After
the evaluation `run` has four ways to its result:

    the gate is active and passes        evaluation, score, security score, gate
    the gate is active and fails         evaluation, score, security score, error
    the gate is disabled or absent       none of them
    the evaluation itself raises         none of them, error

The third way falls through to the result that is meant for a run without evaluation.
So the caller has the evaluation exactly behind an active gate, and to enable or disable
the gate changes what the caller has of it.
-/
import ChaosDemo.PlatformService

namespace ChaosDemo

open CallTree

namespace AIPlatformService

section Run

variable (self : AIPlatformService) (env : PlatformEnv) (request : Json)
  (mode : Option String) (metadata : Dict)

/-- The runtime's part of `run`. -/
def runtimeRun : Platform AgentState :=
  AgentRuntime.run env (some self.config.security) self.workflow request
    (Dict.update [("mode", .str (self.effectiveMode mode))] metadata)

/-- Evaluation is enabled, there is an engine, and it returns this result on the state. -/
def Evaluates (state : AgentState) (evaluation : EvaluationResult) : Prop :=
  self.config.evaluationEnabled = true ∧ ∃ evaluators, self.evaluation = some evaluators ∧
    EvaluationEngine.evaluate (fun s => some s.metadata) evaluators (.object state) =
      .ok evaluation

/-- The gate is enabled, and there is one. -/
def GateActive : Prop :=
  self.config.qualityGateEnabled = true ∧ ∃ thresholds, self.gate = some thresholds

/-- The service with another gate, or with the gate switched. -/
def withGate (enabled : Bool) (gate : Option Thresholds) : AIPlatformService :=
  { self with config := { self.config with qualityGateEnabled := enabled }, gate := gate }

end Run

end AIPlatformService

/-- The result has the evaluation's dictionary and its two scores. -/
structure PlatformResult.Carries (result : PlatformResult) (r : EvaluationResult) : Prop where
  evaluation : result.evaluation = some r.asDict
  score : result.score = r.score
  securityScore : result.securityScore = scoreValue r.securityScore

/-- Two results differ in nothing but `success`, `gate`, `error` and `error_type`. -/
structure PlatformResult.SameButGate (result result' : PlatformResult) : Prop where
  answer : result.answer = result'.answer
  score : result.score = result'.score
  securityScore : result.securityScore = result'.securityScore
  evaluation : result.evaluation = result'.evaluation
  violations : result.violations = result'.violations
  metadata : result.metadata = result'.metadata

namespace AIPlatformService

variable {self : AIPlatformService} {env : PlatformEnv} {request : Json}
  {mode : Option String} {metadata : Dict} {h : PlatformHistory} {state : AgentState}
  {evaluation : EvaluationResult}

/-- The result that carries nothing of an evaluation. -/
def rawResult (state : AgentState) (mode : String) : PlatformResult :=
  { success := true, answer := state.answer, metadata := [("mode", .str mode)] }

/-- Where the workflow succeeds, `run` ends in what is made of its state. -/
theorem run_outcome_iff
    (hrun : Outcome (self.runtimeRun env request mode metadata) [] h (.ok state))
    (hok : state.status ≠ .failed) (res : Except PyError PlatformResult) :
    Outcome (self.run env request mode metadata) [] h res ↔
      res = .ok (self.evaluated state (self.effectiveMode mode)) := by
  have hrest : Outcome (self.run env request mode metadata) [] h
      (.ok (self.evaluated state (self.effectiveMode mode))) := by
    refine Outcome.bind_ok hrun.attempt ?_
    simp only [hok, if_false]
    exact .ret
  constructor
  · intro hout
    exact hout.unique hrest
  · rintro rfl
    exact hrest

theorem evaluated_eq_gated (heval : self.Evaluates state evaluation) (m : String) :
    self.evaluated state m = self.gated (rawResult state m) evaluation := by
  obtain ⟨henabled, evaluators, hengine, hresult⟩ := heval
  unfold AIPlatformService.evaluated
  rw [hengine]
  simp only [henabled, hresult]
  rfl

/-- An active gate hands the evaluation on, whatever its verdict. -/
theorem gated_of_active (hactive : self.GateActive) (state : AgentState) (m : String)
    (evaluation : EvaluationResult) :
    (self.gated (rawResult state m) evaluation).Carries evaluation ∧
      (self.gated (rawResult state m) evaluation).answer = state.answer ∧
      (self.gated (rawResult state m) evaluation).violations = .arr [] ∧
      (self.gated (rawResult state m) evaluation).metadata = [("mode", .str m)] := by
  obtain ⟨henabled, thresholds, hgate⟩ := hactive
  unfold AIPlatformService.gated
  rw [hgate]
  simp only [henabled]
  cases QualityGate.assertPass thresholds evaluation with
  | error e => exact ⟨⟨rfl, rfl, rfl⟩, rfl, rfl, rfl⟩
  | ok report => exact ⟨⟨rfl, rfl, rfl⟩, rfl, rfl, rfl⟩

/-- Without an active gate the result is the one of a run that was not evaluated. -/
theorem gated_of_inactive (hinactive : ¬ self.GateActive) (m : String) :
    self.gated (rawResult state m) evaluation = rawResult state m := by
  unfold AIPlatformService.gated
  cases hgate : self.gate with
  | none => rfl
  | some thresholds =>
      have hdisabled : self.config.qualityGateEnabled = false := by
        rw [Bool.eq_false_iff]
        intro henabled
        exact hinactive ⟨henabled, thresholds, hgate⟩
      exact if_pos hdisabled

theorem carries_gated_iff (m : String) :
    (self.gated (rawResult state m) evaluation).Carries evaluation ↔ self.GateActive := by
  constructor
  · intro hcarries
    by_contra hinactive
    have hnone := hcarries.evaluation
    rw [gated_of_inactive hinactive] at hnone
    cases hnone
  · intro hactive
    exact (gated_of_active hactive state m evaluation).1

/-- Two services that agree on the evaluation and the mode give results that differ only
    in what the gate decides exactly if the gate of both is active, or of neither. -/
theorem sameButGate_gated_iff {self' : AIPlatformService} (m : String) :
    (self.gated (rawResult state m) evaluation).SameButGate
        (self'.gated (rawResult state m) evaluation) ↔
      (self.GateActive ↔ self'.GateActive) := by
  constructor
  · intro hsame
    have hcarried : (self.gated (rawResult state m) evaluation).Carries evaluation ↔
        self.GateActive := carries_gated_iff m
    have hcarried' : (self'.gated (rawResult state m) evaluation).Carries evaluation ↔
        self'.GateActive := carries_gated_iff m
    rw [← hcarried, ← hcarried']
    constructor
    · intro hcarries
      exact ⟨hsame.evaluation.symm.trans hcarries.evaluation,
        hsame.score.symm.trans hcarries.score,
        hsame.securityScore.symm.trans hcarries.securityScore⟩
    · intro hcarries
      exact ⟨hsame.evaluation.trans hcarries.evaluation, hsame.score.trans hcarries.score,
        hsame.securityScore.trans hcarries.securityScore⟩
  · intro hiff
    by_cases hactive : self.GateActive
    · obtain ⟨hcarries, hanswer, hviolations, hmetadata⟩ :=
        gated_of_active hactive state m evaluation
      obtain ⟨hcarries', hanswer', hviolations', hmetadata'⟩ :=
        gated_of_active (hiff.mp hactive) state m evaluation
      exact ⟨hanswer.trans hanswer'.symm, hcarries.score.trans hcarries'.score.symm,
        hcarries.securityScore.trans hcarries'.securityScore.symm,
        hcarries.evaluation.trans hcarries'.evaluation.symm,
        hviolations.trans hviolations'.symm, hmetadata.trans hmetadata'.symm⟩
    · have hinactive' : ¬ self'.GateActive := fun hactive' => hactive (hiff.mpr hactive')
      rw [gated_of_inactive hactive, gated_of_inactive hinactive']
      exact ⟨rfl, rfl, rfl, rfl, rfl, rfl⟩

/-- **When an evaluation reaches the caller.**  In every run whose workflow succeeds and
    whose evaluation returns, the result carries the evaluation exactly if the gate is
    active.  With the gate set or switched in any other way the same run ends in a result
    that differs in nothing but `success`, `gate`, `error` and `error_type` exactly if the
    gate is active both times, or neither time. -/
theorem evaluation_reaches_caller_iff
    (hrun : Outcome (self.runtimeRun env request mode metadata) [] h (.ok state))
    (hok : state.status ≠ .failed) (heval : self.Evaluates state evaluation) :
    ∃ result, (∀ res, Outcome (self.run env request mode metadata) [] h res ↔
        res = .ok result) ∧
      (result.Carries evaluation ↔ self.GateActive) ∧
      ∀ enabled gate, ∃ result',
        (∀ res, Outcome ((self.withGate enabled gate).run env request mode metadata) [] h res ↔
          res = .ok result') ∧
        (result.SameButGate result' ↔
          (self.GateActive ↔ (self.withGate enabled gate).GateActive)) := by
  refine ⟨_, run_outcome_iff hrun hok, ?_, ?_⟩
  · rw [evaluated_eq_gated heval]
    exact carries_gated_iff _
  · intro enabled gate
    -- the runtime and the evaluation do not look at the gate
    have hrun' : Outcome ((self.withGate enabled gate).runtimeRun env request mode metadata)
        [] h (.ok state) := hrun
    have heval' : (self.withGate enabled gate).Evaluates state evaluation := heval
    refine ⟨_, run_outcome_iff hrun' hok, ?_⟩
    rw [evaluated_eq_gated heval, evaluated_eq_gated heval']
    exact sameButGate_gated_iff _

/-! ### A service that evaluates without a gate -/

/-- Evaluation is enabled, with an engine that has no evaluators yet, and no node runs. -/
def evaluatingService : AIPlatformService where
  config := { security := { securityEnabled := false }, evaluationEnabled := true }
  workflow := .none
  evaluation := some []

/-- Texts are as they are; no pattern matches. -/
def quietEnv : PlatformEnv where
  text := { lower := fun s => s, search := fun _ _ => some false }

/-- The state in which its runtime ends. -/
def quietState : AgentState where
  request := .str "hello"
  status := .succeeded
  metadata := [("mode", .str "rule")]

/-- The result of its evaluation. -/
def quietEvaluation : EvaluationResult where
  success := true
  metrics := [("security_assessed", .bool false)]

theorem quietRun : Outcome (evaluatingService.runtimeRun quietEnv (.str "hello") none []) [] []
    (.ok quietState) := .ret

theorem quietEvaluates : evaluatingService.Evaluates quietState quietEvaluation :=
  ⟨rfl, [], rfl, rfl⟩

/-- Its run, and the same run with a gate. -/
theorem evaluation_reaches_caller_quietRun :
    ∃ result, (∀ res, Outcome (evaluatingService.run quietEnv (.str "hello") none []) [] [] res ↔
        res = .ok result) ∧
      (result.Carries quietEvaluation ↔ evaluatingService.GateActive) ∧
      ∀ enabled gate, ∃ result',
        (∀ res, Outcome ((evaluatingService.withGate enabled gate).run quietEnv (.str "hello")
          none []) [] [] res ↔ res = .ok result') ∧
        (result.SameButGate result' ↔
          (evaluatingService.GateActive ↔ (evaluatingService.withGate enabled gate).GateActive)) :=
  evaluation_reaches_caller_iff quietRun (by decide) quietEvaluates

/-- Its result has nothing of the evaluation. -/
theorem evaluation_lost_without_gate :
    ¬ ∀ (self : AIPlatformService) (env : PlatformEnv) (request : Json) (mode : Option String)
      (metadata : Dict) (h : PlatformHistory) (state : AgentState)
      (evaluation : EvaluationResult) (result : PlatformResult),
      Outcome (self.runtimeRun env request mode metadata) [] h (.ok state) →
      state.status ≠ .failed → self.Evaluates state evaluation →
      Outcome (self.run env request mode metadata) [] h (.ok result) →
      result.Carries evaluation := by
  intro hclaim
  have hout : Outcome (evaluatingService.run quietEnv (.str "hello") none []) [] []
      (.ok (rawResult quietState "rule")) := .ret
  have hcarries := hclaim evaluatingService quietEnv (.str "hello") none [] [] quietState
    quietEvaluation _ quietRun (by decide) quietEvaluates hout
  cases hcarries.evaluation

end AIPlatformService

end ChaosDemo
