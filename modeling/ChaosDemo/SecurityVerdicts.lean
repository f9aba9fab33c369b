/-
ChaosDemo/SecurityVerdicts.lean

The two verdicts on a security report.  `security_scan.py` finds and judges;
`quality_gate.py` reads the same findings from the report and judges again.  Both rank a
severity and compare the highest rank with that of one level:

                       scanner                      gate
    level              lower case, unknown 2        lower case, unknown 2
    severity           as it is, unknown 1          lower case, unknown 2

So the gate fails whenever the scanner does.  On another spelling of `medium` or `high`,
and on an unknown severity, the gate can fail where the scanner passes.
-/
import Mathlib.Data.String.Basic
import ChaosDemo.FailClosed

namespace ChaosDemo.SecurityScan

/-! ### security_scan.py -/

/-- `SEVERITY_RANK`. -/
def severityRanks : List (String × ℕ) := [("low", 1), ("medium", 2), ("high", 3)]

/-- A finding, as `add_finding` puts it down. -/
structure Finding where
  severity : String
  name : String
  detail : String
  evidence : String

/-- `should_fail`, over `FAIL_LEVEL`. -/
def shouldFail (failLevel : String) (findings : List Finding) : Bool × ℕ :=
  let threshold := (severityRanks.lookup failLevel).getD 2
  let highest := findings.foldl
    (fun highest f => max highest ((severityRanks.lookup f.severity).getD 1)) 0
  (decide (threshold ≤ highest), highest)

/-- What the scanner knows besides its findings. -/
structure ScanMeta where
  generatedAt : ℤ
  baseUrl : String
  contextAware : Bool
  checks : List PyJson

def Finding.toPy (f : Finding) : PyJson :=
  .obj [("severity", .str f.severity), ("name", .str f.name), ("detail", .str f.detail),
    ("evidence", .str f.evidence)]

/-- The report that `main` writes. -/
def scanReport (m : ScanMeta) (failLevel : String) (findings : List Finding) : PyJson :=
  .obj [("generated_at", .int m.generatedAt), ("base_url", .str m.baseUrl),
    ("fail_on", .str failLevel), ("context_aware", .bool m.contextAware),
    ("checks", .arr m.checks), ("findings", .arr (findings.map Finding.toPy)),
    ("finding_count", .int findings.length)]

/-! ### Verdicts -/

/-- What `str.lower` does: its result is in lower case, and so are the three names. -/
structure LowerCases (lower : String → String) : Prop where
  idempotent : ∀ text, lower (lower text) = lower text
  low : lower "low" = "low"
  medium : lower "medium" = "medium"
  high : lower "high" = "high"

/-- The report is young enough for the gate, where it looks at that. -/
def YoungEnough (s : GateSettings) (m : ScanMeta) (now : ℤ) : Prop :=
  s.checkFreshness = true → m.generatedAt ≤ now ∧ now - m.generatedAt ≤ s.maxReportAgeSec

/-- The findings that both judges see alike: at level `low` all, at `high` those with an
    exact `high` among them or without another spelling of it, and at every other level
    those with an exact `medium` or `high` among them or with nothing but spellings of
    `low`. -/
def SeenAlike (lower : String → String) (level : String) (severities : List String) : Prop :=
  if lower level = "low" then True
  else if lower level = "high" then
    "high" ∈ severities ∨ ∀ severity ∈ severities, lower severity ≠ "high"
  else
    "medium" ∈ severities ∨ "high" ∈ severities ∨
      ∀ severity ∈ severities, lower severity = "low"

/-- The rank that the scanner gives. -/
def scannerRank (severity : String) : ℕ := (severityRanks.lookup severity).getD 1

theorem severityRanks_lookup (level : String) (default : ℕ) :
    (severityRanks.lookup level).getD default =
      if level = "low" then 1 else if level = "medium" then 2
      else if level = "high" then 3 else default := by
  simp only [severityRanks, List.lookup_cons, List.lookup_nil]
  by_cases hlow : level = "low"
  · simp [hlow]
  · by_cases hmedium : level = "medium"
    · simp [hmedium]
    · by_cases hhigh : level = "high"
      · simp [hhigh]
      · simp [hlow, hmedium, hhigh, beq_eq_false_iff_ne.mpr]

/-- The scanner fails exactly at a finding that reaches its level. -/
theorem shouldFail_iff {failLevel : String} {findings : List Finding} :
    (shouldFail failLevel findings).1 = true ↔
      ∃ f ∈ findings, (severityRanks.lookup failLevel).getD 2 ≤ scannerRank f.severity := by
  have hpos : ¬ (severityRanks.lookup failLevel).getD 2 ≤ 0 := by
    rw [severityRanks_lookup]
    split_ifs <;> omega
  simp only [shouldFail, decide_eq_true_eq, le_foldl_max, hpos, false_or]
  rfl

/-! ### The gate on a report of the scanner -/

section Gate

variable {env : GateEnv} {s : GateSettings}

/-- The gate fails on a well-formed report exactly at a finding that reaches its level. -/
theorem stops_of_reads {data : PyJson} {severities : List String}
    (h : ReadsFindings data severities) :
    GateStops (checkFindings s env data) ↔
      ∃ severity ∈ severities, severityRank env.lower (env.lower s.failOn) ≤
        severityRank env.lower (env.lower severity) := by
  constructor
  · intro hstops
    by_contra hnone
    have hwithin : FindingsWithin s env severities := fun severity hmem =>
      Nat.lt_of_not_le fun hle => hnone ⟨severity, hmem, hle⟩
    rw [(checkFindings_of_reads h).mpr hwithin] at hstops
    exact not_stops_ok hstops
  · rintro ⟨severity, hmem, hle⟩
    obtain ⟨read, hget, items, hiter, hread⟩ := severities_of_reads h
    exact stops_checkFindings.mpr ⟨read, hget, items, hiter, severities.map env.lower, hread,
      env.lower severity, List.mem_map_of_mem hmem, hle⟩

variable {m : ScanMeta} {now : ℤ}

theorem reads_scanReport (m : ScanMeta) (failLevel : String) (findings : List Finding) :
    ReadsFindings (scanReport m failLevel findings) (findings.map Finding.severity) := by
  refine ⟨_, rfl, Or.inr ⟨_, rfl, ?_⟩⟩
  rw [List.forall₂_map_left_iff, List.forall₂_map_right_iff]
  exact List.forall₂_same.mpr fun f _ => ⟨_, rfl, Or.inr rfl⟩

theorem checkReportFreshness_scanReport (h : YoungEnough s m now) (failLevel : String)
    (findings : List Finding) :
    checkReportFreshness s env (scanReport m failLevel findings) "security" now = .ok () := by
  refine checkReportFreshness_eq_ok_iff.mpr fun hcheck => ?_
  obtain ⟨hpast, hage⟩ := h hcheck
  exact ⟨_, .int m.generatedAt, m.generatedAt, rfl, rfl, rfl, by omega, hage⟩

theorem stops_scanReport_iff (h : YoungEnough s m now) (failLevel : String)
    (findings : List Finding) :
    GateStops (checkSecurityGate s env (.loaded (scanReport m failLevel findings)) now) ↔
      ∃ f ∈ findings, severityRank env.lower (env.lower s.failOn) ≤
        severityRank env.lower (env.lower f.severity) := by
  have hfindings : GateStops (checkFindings s env (scanReport m failLevel findings)) ↔ _ :=
    stops_of_reads (reads_scanReport m failLevel findings)
  rw [checkSecurityGate_loaded, checkReportFreshness_scanReport h]
  show GateStops (checkFindings s env _ >>= fun _ => pure "PASS") ↔ _
  rw [stops_bind_iff, hfindings]
  simp only [not_stops_pure, and_false, exists_false, or_false, List.mem_map,
    exists_exists_and_eq_and]

end Gate

/-! ### Where the two agree -/

section Agreement

variable {lower : String → String}

/-- In lower case a severity has one rank for the gate, whatever its spelling. -/
theorem severityRank_lower (h : LowerCases lower) (text : String) :
    severityRank lower (lower text) = if lower text = "low" then 1
      else if lower text = "medium" then 2 else if lower text = "high" then 3 else 2 := by
  show (severityRanks.lookup (lower (lower text))).getD 2 = _
  rw [h.idempotent, severityRanks_lookup]

theorem scannerRank_eq (text : String) :
    scannerRank text = if text = "low" then 1 else if text = "medium" then 2
      else if text = "high" then 3 else 1 :=
  severityRanks_lookup text 1

theorem one_le_scannerRank (text : String) : 1 ≤ scannerRank text := by
  rw [scannerRank_eq]
  split_ifs <;> omega

theorem two_le_scannerRank_iff (text : String) :
    2 ≤ scannerRank text ↔ text = "medium" ∨ text = "high" := by
  rw [scannerRank_eq]
  split_ifs with hlow hmedium hhigh
  · simp [hlow]
  · simp [hmedium]
  · simp [hhigh]
  · simp [hmedium, hhigh]

theorem three_le_scannerRank_iff (text : String) : 3 ≤ scannerRank text ↔ text = "high" := by
  rw [scannerRank_eq]
  split_ifs with hlow hmedium hhigh
  · simp [hlow]
  · simp [hmedium]
  · simp [hhigh]
  · simp [hhigh]

theorem two_le_severityRank_iff (h : LowerCases lower) (text : String) :
    2 ≤ severityRank lower (lower text) ↔ lower text ≠ "low" := by
  rw [severityRank_lower h]
  split_ifs with hlow hmedium hhigh
  · simp [hlow]
  · simp [hlow]
  · simp [hlow]
  · simp [hlow]

theorem three_le_severityRank_iff (h : LowerCases lower) (text : String) :
    3 ≤ severityRank lower (lower text) ↔ lower text = "high" := by
  rw [severityRank_lower h]
  split_ifs with hlow hmedium hhigh
  · simp [hlow]
  · simp [hmedium]
  · simp [hhigh]
  · simp [hhigh]

/-- The gate never ranks a severity below the scanner. -/
theorem scannerRank_le (h : LowerCases lower) (text : String) :
    scannerRank text ≤ severityRank lower (lower text) := by
  rw [scannerRank_eq]
  split_ifs with hlow hmedium hhigh
  · exact severityRank_pos
  · rw [two_le_severityRank_iff h, hmedium, h.medium]
    decide
  · rw [three_le_severityRank_iff h, hhigh, h.high]
  · exact severityRank_pos

/-- What reaches a level for the scanner and what does for the gate exist together
    exactly where the two see the findings alike. -/
theorem reach_alike_iff (h : LowerCases lower) (level : String) (severities : List String) :
    ((∃ severity ∈ severities, severityRank lower (lower level) ≤ scannerRank severity) ↔
      ∃ severity ∈ severities,
        severityRank lower (lower level) ≤ severityRank lower (lower severity)) ↔
      SeenAlike lower level severities := by
  have hup : (∃ severity ∈ severities,
      severityRank lower (lower level) ≤ scannerRank severity) → ∃ severity ∈ severities,
        severityRank lower (lower level) ≤ severityRank lower (lower severity) := by
    rintro ⟨severity, hmem, hle⟩
    exact ⟨severity, hmem, hle.trans (scannerRank_le h severity)⟩
  have hdown : ∀ {p q : Prop}, (p → q) → ((p ↔ q) ↔ (q → p)) :=
    fun hpq => ⟨fun hiff => hiff.mpr, fun hqp => ⟨hpq, hqp⟩⟩
  rw [hdown hup]
  unfold SeenAlike
  split_ifs with hlow hhigh
  · -- every finding reaches the lowest level
    rw [severityRank_lower h, if_pos hlow]
    refine iff_of_true ?_ trivial
    rintro ⟨severity, hmem, -⟩
    exact ⟨severity, hmem, one_le_scannerRank severity⟩
  · have hmedium : lower level ≠ "medium" := by
      rw [hhigh]
      decide
    rw [severityRank_lower h, if_neg hlow, if_neg hmedium, if_pos hhigh]
    simp only [three_le_scannerRank_iff, three_le_severityRank_iff h, exists_eq_right]
    constructor
    · intro himp
      by_cases hexact : "high" ∈ severities
      · exact .inl hexact
      · exact .inr fun severity hmem heq => hexact (himp ⟨severity, hmem, heq⟩)
    · rintro (hexact | hnone) ⟨severity, hmem, heq⟩
      · exact hexact
      · exact absurd heq (hnone severity hmem)
  · have hlevel : severityRank lower (lower level) = 2 := by
      rw [severityRank_lower h, if_neg hlow, if_neg hhigh]
      exact ite_self 2
    rw [hlevel]
    simp only [two_le_scannerRank_iff, two_le_severityRank_iff h]
    constructor
    · intro himp
      by_cases hother : ∃ severity ∈ severities, lower severity ≠ "low"
      · obtain ⟨severity, hmem, rfl | rfl⟩ := himp hother
        · exact .inl hmem
        · exact .inr (.inl hmem)
      · right
        right
        intro severity hmem
        by_contra hne
        exact hother ⟨severity, hmem, hne⟩
    · rintro (hmedium | hexact | hnone) ⟨severity, hmem, hne⟩
      · exact ⟨"medium", hmedium, .inl rfl⟩
      · exact ⟨"high", hexact, .inr rfl⟩
      · exact absurd (hnone severity hmem) hne

end Agreement

/-- On every list of findings, every level and every young report of these findings the
    gate fails where the scanner does, and the two agree exactly if the findings are seen
    alike. -/
theorem scannerGate_agree_iff {env : GateEnv} (hlower : LowerCases env.lower)
    {s : GateSettings} {m : ScanMeta} {now : ℤ} (hyoung : YoungEnough s m now)
    (findings : List Finding) :
    ((shouldFail (env.lower s.failOn) findings).1 = true →
      GateStops (checkSecurityGate s env
        (.loaded (scanReport m (env.lower s.failOn) findings)) now)) ∧
    (((shouldFail (env.lower s.failOn) findings).1 = true ↔
      GateStops (checkSecurityGate s env
        (.loaded (scanReport m (env.lower s.failOn) findings)) now)) ↔
      SeenAlike env.lower s.failOn (findings.map Finding.severity)) := by
  have hlevel : (severityRanks.lookup (env.lower s.failOn)).getD 2 =
      severityRank env.lower (env.lower s.failOn) := by
    show _ = (severityRanks.lookup (env.lower (env.lower s.failOn))).getD 2
    rw [hlower.idempotent]
  rw [shouldFail_iff, stops_scanReport_iff hyoung, hlevel]
  constructor
  · rintro ⟨f, hmem, hle⟩
    exact ⟨f, hmem, hle.trans (scannerRank_le hlower f.severity)⟩
  · rw [← reach_alike_iff hlower]
    simp only [List.mem_map, exists_exists_and_eq_and]

/-! ### Another spelling -/

/-- A letter in lower case is none of the capitals. -/
theorem toLower_toLower (c : Char) : c.toLower.toLower = c.toLower := by
  unfold Char.toLower
  split_ifs with h h'
  · exfalso
    simp only [ge_iff_le, UInt32.le_iff_toNat_le, UInt32.toNat_add] at h h'
    simp at h h'
    omega
  · rfl
  · rfl

/-- `str.lower` on letters of ASCII. -/
theorem lowerCases_ascii : LowerCases minuteLater.lower where
  idempotent text := by
    simp [minuteLater, Function.comp_def, toLower_toLower]
  low := by decide +kernel
  medium := by decide +kernel
  high := by decide +kernel

/-- A report made at 1000. -/
def scanMeta : ScanMeta where
  generatedAt := 1000
  baseUrl := "http://127.0.0.1:5000"
  contextAware := true
  checks := []

/-- A finding named by its severity alone. -/
def findingOf (severity : String) : Finding := ⟨severity, "probe", "", ""⟩

theorem youngEnough_scanMeta (failOn : String) :
    YoungEnough { failOn := failOn } scanMeta 1060 := by
  intro _
  have hnow : (1000 : ℤ) ≤ 1060 ∧ (1060 : ℤ) - 1000 ≤ 3600 := by decide
  exact hnow

/-- A finding of severity `medium` at the level `medium`. -/
theorem scannerGate_medium :
    ((shouldFail (minuteLater.lower "medium") [findingOf "medium"]).1 = true →
      GateStops (checkSecurityGate { failOn := "medium" } minuteLater
        (.loaded (scanReport scanMeta (minuteLater.lower "medium") [findingOf "medium"]))
        1060)) ∧
    (((shouldFail (minuteLater.lower "medium") [findingOf "medium"]).1 = true ↔
      GateStops (checkSecurityGate { failOn := "medium" } minuteLater
        (.loaded (scanReport scanMeta (minuteLater.lower "medium") [findingOf "medium"]))
        1060)) ↔
      SeenAlike minuteLater.lower "medium" ["medium"]) :=
  scannerGate_agree_iff lowerCases_ascii (youngEnough_scanMeta "medium") [findingOf "medium"]

/-- At the level `high` a finding of severity `HIGH` passes the scanner and fails at the
    gate. -/
theorem scannerGate_otherSpelling :
    ¬ ∀ (env : GateEnv), LowerCases env.lower → ∀ (s : GateSettings) (m : ScanMeta) (now : ℤ),
      YoungEnough s m now → ∀ findings : List Finding,
      ((shouldFail (env.lower s.failOn) findings).1 = true ↔
        GateStops (checkSecurityGate s env
          (.loaded (scanReport m (env.lower s.failOn) findings)) now)) := by
  intro h
  have hagree := h minuteLater lowerCases_ascii { failOn := "high" } scanMeta 1060
    (youngEnough_scanMeta "high") [findingOf "HIGH"]
  rw [stops_scanReport_iff (youngEnough_scanMeta "high")] at hagree
  have hpass : (shouldFail (minuteLater.lower "high") [findingOf "HIGH"]).1 = false := by
    decide +kernel
  have hfail : severityRank minuteLater.lower (minuteLater.lower "high") ≤
      severityRank minuteLater.lower (minuteLater.lower "HIGH") := by
    decide +kernel
  have hreached := hagree.mpr ⟨findingOf "HIGH", List.mem_singleton_self _, hfail⟩
  rw [hpass] at hreached
  cases hreached

end ChaosDemo.SecurityScan
