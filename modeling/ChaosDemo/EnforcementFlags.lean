/-
ChaosDemo/EnforcementFlags.lean

The flags `block_on_input_violation` and `block_on_injection` of a security policy
(ai_platform/security: policy.py, guard.py; ai_platform/agent/runtime.py).

`SecurityGuard.check_input` asks for a flag only to decide whether it returns at once.
When it does not, it merges the two results with `worst`, and the merged result has not
passed when one of them has not.  The runtime refuses every request whose result has not
passed.  So a check that fails refuses the request, whatever its flag:

    refused  ↔  the validator fails  or  the prompt guard fails,

and a flag that is off only adds what the other check found to the report
(`mem_violations_worst`).  The flags are followed exactly on the requests that no check
fails, or that a check fails whose flag is on (`followsFlags_iff`).
-/
import ChaosDemo.ObservedRun

namespace ChaosDemo

/-! ### The merged result -/

theorem mem_foldl_merge {v : String} (added : List String) : ∀ vs : List String,
    v ∈ added.foldl (fun vs v => if v ∈ vs then vs else vs ++ [v]) vs ↔ v ∈ vs ∨ v ∈ added := by
  induction added with
  | nil =>
      intro vs
      simp
  | cons w added ih =>
      intro vs
      rw [List.foldl_cons, ih]
      by_cases hw : w ∈ vs
      · rw [if_pos hw, List.mem_cons]
        constructor
        · rintro (h | h)
          · exact .inl h
          · exact .inr (.inr h)
        · rintro (h | rfl | h)
          · exact .inl h
          · exact .inl hw
          · exact .inr h
      · rw [if_neg hw, List.mem_append, List.mem_singleton, List.mem_cons, or_assoc]

namespace SecurityResult

/-- What either of two results reports is reported. -/
theorem mem_violations_worst (a b : SecurityResult) (v : String) :
    v ∈ (worst a b).violations ↔ v ∈ a.violations ∨ v ∈ b.violations := by
  rw [← mem_foldl_merge b.violations a.violations, worst]
  split
  · rfl
  · rfl

end SecurityResult

/-! ### The runtime -/

namespace Observability

/-- The end of a run that is refused. -/
def refusal (runtime : AgentRuntime) (r : SecurityResult) (state : AgentState) :
    Observed AgentState := do
  let trace ← openRun runtime state.request
  recordBlock r state.request trace
  pure (ChaosDemo.AgentRuntime.blocked state r)

/-- A run that gives the request to its workflow. -/
def dispatchedRun (runtime : AgentRuntime) (node : ℕ → NodeReply → Observed NodeReply)
    (state : AgentState) : Observed AgentState := do
  let trace ← openRun runtime state.request
  let running : AgentState := { state with status := .running }
  let outcome ← (dispatch runtime.workflow node running).attempt
  match outcome with
  | .ok result => do
      closeRun (fun t => agentEnd t (succeeded running result).status) trace
      pure (succeeded running result)
  | .error e => do
      closeRun (fun t => agentError t e) trace
      pure (failed running e)

/-- The two ways of a run: the check of the request decides. -/
theorem runState_of_inputBlock (env : TextEnv) (runtime : AgentRuntime)
    (node : ℕ → NodeReply → Observed NodeReply) (state : AgentState) :
    runState env runtime node state =
      match inputBlock env runtime state.request with
      | some r => refusal runtime r state
      | none => dispatchedRun runtime node state := by
  cases h : inputBlock env runtime state.request with
  | some r =>
      rw [runState, h]
      rfl
  | none =>
      rw [runState, h]
      rfl

section Flags

variable (env : TextEnv) (policy : SecurityPolicy) (runtime : AgentRuntime)
  (node : ℕ → NodeReply → Observed NodeReply) (state : AgentState)

/-- `run_state` refuses the request at the input stage. -/
def Refused : Prop :=
  ∃ r, inputBlock env runtime state.request = some r ∧
    runState env runtime node state = refusal runtime r state

/-- `run_state` gives the request to the workflow. -/
def Dispatched : Prop :=
  inputBlock env runtime state.request = none ∧
    runState env runtime node state = dispatchedRun runtime node state

/-- A check fails whose flag is on. -/
def Enforced (request : Json) : Prop :=
  ((InputValidator.validate env policy request).passed = false ∧
      policy.blockOnInputViolation = true) ∨
    ((PromptGuard.check env policy request).passed = false ∧ policy.blockOnInjection = true)

/-- Both checks pass. -/
def BothPass (request : Json) : Prop :=
  (InputValidator.validate env policy request).passed = true ∧
    (PromptGuard.check env policy request).passed = true

/-- The input check reports what both checks found, and nothing else. -/
def ReportsBoth (request : Json) : Prop :=
  ∀ v, v ∈ (SecurityGuard.checkInput env policy request).violations ↔
    v ∈ (InputValidator.validate env policy request).violations ∨
      v ∈ (PromptGuard.check env policy request).violations

/-- The flags decide: a request is refused when a check fails whose flag is on, and with
both flags off it is dispatched and reported. -/
structure FollowsFlags : Prop where
  refused : Refused env runtime node state ↔ Enforced env policy state.request
  reportOnly : policy.blockOnInputViolation = false → policy.blockOnInjection = false →
    Dispatched env runtime node state ∧ ReportsBoth env policy state.request

variable {env policy runtime node state}

theorem refused_iff :
    Refused env runtime node state ↔ ∃ r, inputBlock env runtime state.request = some r := by
  constructor
  · rintro ⟨r, hr, -⟩
    exact ⟨r, hr⟩
  · rintro ⟨r, hr⟩
    refine ⟨r, hr, ?_⟩
    rw [runState_of_inputBlock, hr]

theorem dispatched_iff :
    Dispatched env runtime node state ↔ inputBlock env runtime state.request = none := by
  constructor
  · exact fun h => h.1
  · intro hnone
    refine ⟨hnone, ?_⟩
    rw [runState_of_inputBlock, hnone]

/-- The request has passed when both checks have, whatever the flags. -/
theorem passed_checkInput_iff (hen : policy.securityEnabled = true) (request : Json) :
    (SecurityGuard.checkInput env policy request).passed = true ↔
      BothPass env policy request := by
  rw [SecurityGuard.checkInput, if_neg (by rw [hen]; exact Bool.noConfusion), BothPass]
  dsimp only
  split
  · next hinput => simp [hinput.1]
  · split
    · next hguard => simp [hguard.1]
    · rw [SecurityResult.passed_worst, Bool.and_eq_true]

theorem refused_iff_not_bothPass (hsec : runtime.security = some policy)
    (hen : policy.securityEnabled = true) :
    Refused env runtime node state ↔ ¬ BothPass env policy state.request := by
  rw [refused_iff, ← passed_checkInput_iff hen, inputBlock, hsec]
  dsimp only
  rw [if_pos hen]
  split
  · next hpassed => exact iff_of_false (by rintro ⟨r, h⟩; cases h) (fun h => h hpassed)
  · next hnot => exact iff_of_true ⟨_, rfl⟩ hnot

/-- With both flags off the report is complete. -/
theorem reportsBoth_of_flags (hen : policy.securityEnabled = true)
    (hinput : policy.blockOnInputViolation = false) (hguard : policy.blockOnInjection = false)
    (request : Json) : ReportsBoth env policy request := by
  intro v
  rw [SecurityGuard.checkInput, if_neg (by rw [hen]; exact Bool.noConfusion)]
  dsimp only
  rw [if_neg (by rw [hinput]; simp), if_neg (by rw [hguard]; simp)]
  exact SecurityResult.mem_violations_worst _ _ v

theorem Enforced.not_bothPass {request : Json} (h : Enforced env policy request) :
    ¬ BothPass env policy request := by
  rintro ⟨hvalid, hsafe⟩
  rcases h with ⟨hfails, -⟩ | ⟨hfails, -⟩
  · rw [hvalid] at hfails
    cases hfails
  · rw [hsafe] at hfails
    cases hfails

/-- **When the flags are followed.**  A request is refused exactly when a check fails whose
flag is on, and with both flags off it is dispatched and reported, exactly when both checks
pass or a check fails whose flag is on. -/
theorem followsFlags_iff (hsec : runtime.security = some policy)
    (hen : policy.securityEnabled = true) :
    FollowsFlags env policy runtime node state ↔
      BothPass env policy state.request ∨ Enforced env policy state.request := by
  have hrefused : Refused env runtime node state ↔ ¬ BothPass env policy state.request :=
    refused_iff_not_bothPass hsec hen
  constructor
  · intro h
    by_cases hpass : BothPass env policy state.request
    · exact .inl hpass
    · exact .inr (h.refused.mp (hrefused.mpr hpass))
  · intro h
    constructor
    · rw [hrefused]
      constructor
      · intro hnot
        exact h.resolve_left hnot
      · exact Enforced.not_bothPass
    · intro hinput hguard
      refine ⟨?_, reportsBoth_of_flags hen hinput hguard _⟩
      -- no flag is on, so both checks pass
      have hpass : BothPass env policy state.request := by
        refine h.resolve_right ?_
        rintro (⟨-, hon⟩ | ⟨-, hon⟩)
        · rw [hinput] at hon
          cases hon
        · rw [hguard] at hon
          cases hon
      rw [dispatched_iff]
      cases hblock : inputBlock env runtime state.request with
      | none => rfl
      | some r => exact absurd hpass (hrefused.mp (refused_iff.mpr ⟨r, hblock⟩))

end Flags

/-! #### A policy that only reports -/

def reportOnlyPolicy : SecurityPolicy := { blockOnInputViolation := false, blockOnInjection := false }

/-- Lower case in ASCII, and no patterns. -/
def plainTextEnv : TextEnv where
  lower := fun s => String.ofList (s.toList.map Char.toLower)
  search := fun _ _ => some false

def reportOnlyRuntime : AgentRuntime := { security := some reportOnlyPolicy }

/-- A request that breaks no rule goes to the workflow. -/
theorem followsFlags_harmless : FollowsFlags plainTextEnv reportOnlyPolicy reportOnlyRuntime
    (fun _ reply => .ret reply) { request := .str "query my order" } := by
  apply (followsFlags_iff rfl rfl).mpr
  left
  exact ⟨by decide +kernel, by decide +kernel⟩

/-- An injection is refused although both flags are off. -/
theorem not_followsFlags_reportOnly : ¬ FollowsFlags plainTextEnv reportOnlyPolicy
    reportOnlyRuntime (fun _ reply => .ret reply) { request := .str "jailbreak" } := by
  intro h
  obtain ⟨⟨hnone, -⟩, -⟩ := h.reportOnly rfl rfl
  have hblocks : (inputBlock plainTextEnv reportOnlyRuntime (.str "jailbreak")).isSome = true := by
    decide +kernel
  rw [show inputBlock plainTextEnv reportOnlyRuntime (.str "jailbreak") = none from hnone] at hblocks
  cases hblocks

end Observability

end ChaosDemo
