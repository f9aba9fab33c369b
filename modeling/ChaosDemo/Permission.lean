/-
ChaosDemo/Permission.lean

The permission of a tool under a role.  The lists of a policy and of its role are meant
to restrict together (`Permitted`): no blocklist has the tool, and each allowlist that
is not empty has it.

`check` computes the two allowlists into one, and an empty one means that nothing is
restricted.  So it decides `Permitted` except where both allowlists are there and have
no tool in common (`check_iff_permitted_iff`): then what is left of them reads as no
restriction at all, and every tool that is not blocked passes
(`check_passed_of_nothingLeft`).
-/
import ChaosDemo.Security

namespace ChaosDemo

/-- An allowlist permits a tool: it has it, or restricts nothing. -/
def Allows (allowed : List String) (toolName : String) : Prop :=
  allowed = [] ∨ toolName ∈ allowed

/-- The global lists and those of the role, all of which must permit the tool; a role
that is not known permits none. -/
structure Permitted (policy : SecurityPolicy) (toolName : String) (role : Option String) :
    Prop where
  not_blocked : toolName ∉ policy.blockedTools
  allowed : Allows policy.allowedTools toolName
  role : ∀ name, policy.effectiveRole role = some name → ∃ toolRole,
    policy.roles.lookup name = some toolRole ∧ toolName ∉ toolRole.blockedTools ∧
      Allows toolRole.allowedTools toolName

/-- The policy and the role each allow some tools and no tool in common, and neither
blocks this one. -/
structure NothingLeft (policy : SecurityPolicy) (toolName : String) (toolRole : ToolRole) :
    Prop where
  global : policy.allowedTools ≠ []
  role : toolRole.allowedTools ≠ []
  disjoint : ∀ t ∈ policy.allowedTools, t ∉ toolRole.allowedTools
  not_blocked : toolName ∉ policy.blockedTools
  not_role_blocked : toolName ∉ toolRole.blockedTools

section Lists

variable {policy : SecurityPolicy} {toolName : String} {toolRole : ToolRole}
  {blocked allowed : List String}

theorem checkLists_passed :
    (checkLists blocked allowed toolName).passed = true ↔
      toolName ∉ blocked ∧ Allows allowed toolName := by
  by_cases hb : toolName ∈ blocked
  · simp [checkLists, hb]
  · by_cases ha : allowed ≠ [] ∧ toolName ∉ allowed
    · have hnot : ¬ Allows allowed toolName := by
        intro h
        rcases h with h | h
        · exact ha.1 h
        · exact ha.2 h
      simp [checkLists, hb, ha, hnot]
    · have hallows : Allows allowed toolName := by
        by_cases hnil : allowed = []
        · exact Or.inl hnil
        · right
          by_contra hmem
          exact ha ⟨hnil, hmem⟩
      simp only [checkLists, if_neg hb, if_neg ha, SecurityResult.passed_pass, true_iff]
      exact ⟨hb, hallows⟩

/-- The list that is computed restricts as the two lists together, or was emptied. -/
theorem allows_allowedWith :
    Allows (policy.allowedWith toolRole) toolName ↔
      (Allows policy.allowedTools toolName ∧ Allows toolRole.allowedTools toolName) ∨
      (policy.allowedTools ≠ [] ∧ toolRole.allowedTools ≠ [] ∧
        ∀ t ∈ policy.allowedTools, t ∉ toolRole.allowedTools) := by
  by_cases hrole : toolRole.allowedTools = []
  · simp [SecurityPolicy.allowedWith, hrole, Allows]
  · by_cases hglobal : policy.allowedTools = []
    · simp [SecurityPolicy.allowedWith, hrole, hglobal, Allows]
    · have hwith : policy.allowedWith toolRole =
          policy.allowedTools.filter (· ∈ toolRole.allowedTools) := by
        simp [SecurityPolicy.allowedWith, hrole, hglobal]
      rw [hwith]
      simp only [Allows, hrole, hglobal, false_or, ne_eq, not_false_eq_true, true_and,
        List.filter_eq_nil_iff, List.mem_filter, decide_eq_true_eq]
      exact Or.comm

end Lists

section Check

variable {policy : SecurityPolicy} {toolName : String} {role : Option String}

/-- Without a role. -/
theorem check_passed_global (hs : policy.securityEnabled = true)
    (ht : policy.toolPermissionEnabled = true) (hrole : policy.effectiveRole role = none) :
    (PermissionChecker.check policy toolName role).passed = true ↔
      toolName ∉ policy.blockedTools ∧ Allows policy.allowedTools toolName := by
  simp only [PermissionChecker.check, hs, ht, hrole]
  exact checkLists_passed

/-- With a role that the policy does not know. -/
theorem check_passed_unknown (hs : policy.securityEnabled = true)
    (ht : policy.toolPermissionEnabled = true) {name : String}
    (hrole : policy.effectiveRole role = some name) (hname : policy.roles.lookup name = none) :
    (PermissionChecker.check policy toolName role).passed = false := by
  simp [PermissionChecker.check, hs, ht, hrole, hname]

/-- With a role. -/
theorem check_passed_role (hs : policy.securityEnabled = true)
    (ht : policy.toolPermissionEnabled = true) {name : String} {toolRole : ToolRole}
    (hrole : policy.effectiveRole role = some name)
    (hname : policy.roles.lookup name = some toolRole) :
    (PermissionChecker.check policy toolName role).passed = true ↔
      Permitted policy toolName role ∨ NothingLeft policy toolName toolRole := by
  have hcheck : PermissionChecker.check policy toolName role =
      checkLists (policy.blockedTools ++ toolRole.blockedTools)
        (policy.allowedWith toolRole) toolName := by
    simp [PermissionChecker.check, hs, ht, hrole, hname]
  have hpermitted : Permitted policy toolName role ↔
      (toolName ∉ policy.blockedTools ∧ toolName ∉ toolRole.blockedTools) ∧
        Allows policy.allowedTools toolName ∧ Allows toolRole.allowedTools toolName := by
    constructor
    · intro h
      obtain ⟨toolRole', hname', hblocked, hallows⟩ := h.role name hrole
      obtain rfl : toolRole' = toolRole := Option.some.inj (hname'.symm.trans hname)
      exact ⟨⟨h.not_blocked, hblocked⟩, h.allowed, hallows⟩
    · intro h
      refine ⟨h.1.1, h.2.1, fun name' hrole' => ?_⟩
      obtain rfl : name = name' := Option.some.inj (hrole.symm.trans hrole')
      exact ⟨toolRole, hname, h.1.2, h.2.2⟩
  have hleft : NothingLeft policy toolName toolRole ↔
      (toolName ∉ policy.blockedTools ∧ toolName ∉ toolRole.blockedTools) ∧
        policy.allowedTools ≠ [] ∧ toolRole.allowedTools ≠ [] ∧
          ∀ t ∈ policy.allowedTools, t ∉ toolRole.allowedTools := by
    constructor
    · intro h
      exact ⟨⟨h.not_blocked, h.not_role_blocked⟩, h.global, h.role, h.disjoint⟩
    · intro h
      exact ⟨h.2.1, h.2.2.1, h.2.2.2, h.1.1, h.1.2⟩
  rw [hcheck, checkLists_passed, allows_allowedWith, hpermitted, hleft, List.mem_append, not_or,
    and_or_left]

/-- Where nothing is left of the two allowlists, the tool passes. -/
theorem check_passed_of_nothingLeft (hs : policy.securityEnabled = true)
    (ht : policy.toolPermissionEnabled = true) {name : String} {toolRole : ToolRole}
    (hrole : policy.effectiveRole role = some name)
    (hname : policy.roles.lookup name = some toolRole) (h : NothingLeft policy toolName toolRole) :
    (PermissionChecker.check policy toolName role).passed = true ∧
      ¬ Permitted policy toolName role := by
  refine ⟨(check_passed_role hs ht hrole hname).mpr (Or.inr h), ?_⟩
  intro hp
  obtain ⟨toolRole', hname', -, hallows⟩ := hp.role name hrole
  obtain rfl : toolRole' = toolRole := Option.some.inj (hname'.symm.trans hname)
  -- both allowlists would have the tool
  have hglobal : toolName ∈ policy.allowedTools := hp.allowed.resolve_left h.global
  exact h.disjoint toolName hglobal (hallows.resolve_left h.role)

/-- The two allowlists of a call leave nothing. -/
def Emptied (policy : SecurityPolicy) (toolName : String) (role : Option String) : Prop :=
  ∃ name toolRole, policy.effectiveRole role = some name ∧
    policy.roles.lookup name = some toolRole ∧ NothingLeft policy toolName toolRole

/-- **When `check` decides the permission.** -/
theorem check_iff_permitted_iff (hs : policy.securityEnabled = true)
    (ht : policy.toolPermissionEnabled = true) :
    ((PermissionChecker.check policy toolName role).passed = true ↔
      Permitted policy toolName role) ↔ ¬ Emptied policy toolName role := by
  constructor
  · intro hiff hempty
    obtain ⟨name, toolRole, hrole, hname, hleft⟩ := hempty
    have hbad := check_passed_of_nothingLeft hs ht hrole hname hleft
    exact hbad.2 (hiff.mp hbad.1)
  · intro hempty
    cases hrole : policy.effectiveRole role with
    | none =>
        rw [check_passed_global hs ht hrole]
        constructor
        · intro h
          refine ⟨h.1, h.2, fun name hname => ?_⟩
          rw [hrole] at hname
          cases hname
        · intro h
          exact ⟨h.not_blocked, h.allowed⟩
    | some name =>
        cases hname : policy.roles.lookup name with
        | none =>
            have hfail : (PermissionChecker.check policy toolName role).passed = false :=
              check_passed_unknown hs ht hrole hname
            rw [hfail]
            constructor
            · intro h
              cases h
            · intro h
              obtain ⟨toolRole, hknown, -⟩ := h.role name hrole
              rw [hname] at hknown
              cases hknown
        | some toolRole =>
            rw [check_passed_role hs ht hrole hname]
            constructor
            · intro h
              rcases h with h | h
              · exact h
              · exact absurd ⟨name, toolRole, hrole, hname, h⟩ hempty
            · intro h
              exact Or.inl h

end Check

/-- A policy that allows only queries, with a role that may only place orders. -/
def splitPolicy : SecurityPolicy where
  allowedTools := ["query_order"]
  roles := [("writer", { allowedTools := ["place_order"] })]

/-- The tools of the two lists have nothing in common, and every tool passes. -/
theorem disjoint_allowlists_permit :
    ¬ ((PermissionChecker.check splitPolicy "drop_database" (some "writer")).passed = true ↔
      Permitted splitPolicy "drop_database" (some "writer")) := by
  intro hiff
  have hpassed :
      (PermissionChecker.check splitPolicy "drop_database" (some "writer")).passed = true := rfl
  have hallowed := (hiff.mp hpassed).allowed
  rcases hallowed with h | h
  · cases h
  · simp [splitPolicy] at h

/-- Without a role the same policy decides every tool as it should. -/
theorem check_splitPolicy_global :
    (PermissionChecker.check splitPolicy "query_order" none).passed = true ↔
      Permitted splitPolicy "query_order" none := by
  apply (check_iff_permitted_iff rfl rfl).mpr
  intro h
  obtain ⟨name, toolRole, hrole, -⟩ := h
  cases hrole

end ChaosDemo
