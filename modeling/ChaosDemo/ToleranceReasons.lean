/-
ChaosDemo/ToleranceReasons.lean

Why an experiment failed (agent-eval/scripts/run_experiment.py).  The runner reads the
dictionary that the token black-hole gate returned, and makes its keys itself: the prefix
of a sub-gate with `_pass`, `_ratio` and `_max` behind it.  Four of the seven sub-gates
have the keys that are made so.  Of the other three

* the surge of the retry rate has its ratio under `retry_rate_surge`, so its reason quotes
  `None`;
* the surge of the fail path has its flag under `fail_path_surge_pass`, so it has no
  reason;
* the surge of the retry path is not asked for.

So every failing verdict has its reasons exactly when these three hold
(`explained_iff`).
-/
import ChaosDemo.TokenGate

namespace ChaosDemo

/-! ### The runner -/

/-- `d.get(k)`. -/
def RunReport.valueOrNone (d : RunReport) (k : String) : PyJson := (d.lookup k).getD .null

/-- `_TOLERANCE_ENV`, the keys with the prefixes of the gate's fields. -/
def toleranceEnv : List (String × String) :=
  [("token_surge_max", "token_surge"), ("retry_surge_max", "retry_surge"),
   ("fail_path_token_surge_max", "fail_path_token_surge")]

/-- `_ABSOLUTE_GATE_FIELDS`. -/
def absoluteGateFields : List (String × String) :=
  [("token_max_per_task", "chaos_max_token_per_task"),
   ("token_p99_per_task", "chaos_p99_token_per_task"),
   ("retry_tax", "chaos_retry_tax_ratio")]

/-- An entry of `tolerance_reasons`. -/
structure Reason where
  key : String
  -- `ratio` or `observed`
  word : String
  observed : PyJson
  limit : PyJson

/-- The text of an entry, with Python's `str`. -/
def Reason.text (str : PyJson → String) (r : Reason) : String :=
  r.key ++ ": " ++ r.word ++ "=" ++ str r.observed ++ " > max=" ++ str r.limit

/-- A reason, where the flag is `False`. -/
def RunReport.reasonFor (gate : RunReport) (flag : String) (reason : Reason) : List Reason :=
  match gate.lookup flag with
  | some (.bool false) => [reason]
  | _ => []

/-- The loop over `_TOLERANCE_ENV`. -/
def relativeReason (gate : RunReport) (entry : String × String) : List Reason :=
  gate.reasonFor (entry.2 ++ "_pass")
    { key := entry.1
      word := "ratio"
      observed := gate.valueOrNone (entry.2 ++ "_ratio")
      limit := gate.valueOrNone (entry.2 ++ "_max") }

/-- The loop over `_ABSOLUTE_GATE_FIELDS`. -/
def absoluteReason (gate : RunReport) (entry : String × String) : List Reason :=
  gate.reasonFor (entry.1 ++ "_pass")
    { key := entry.1
      word := "observed"
      observed := gate.valueOrNone entry.2
      limit := gate.valueOrNone (entry.1 ++ "_max") }

/-- `tolerance_reasons`. -/
def toleranceReasons (gate : RunReport) : List Reason :=
  if (gate.valueOrNone "pass").truthy then []
  else
    toleranceEnv.flatMap (relativeReason gate) ++
      absoluteGateFields.flatMap (absoluteReason gate)

/-! ### The sub-gates -/

/-- The keys under which the gate returns a sub-gate. -/
structure SubGate where
  flag : String
  observed : String
  limit : String

/-- The seven, those first that the runner asks for. -/
def subGates : List SubGate :=
  [⟨"token_surge_pass", "token_surge_ratio", "token_surge_max"⟩,
   ⟨"retry_surge_pass", "retry_rate_surge", "retry_surge_max"⟩,
   ⟨"token_max_per_task_pass", "chaos_max_token_per_task", "token_max_per_task_max"⟩,
   ⟨"token_p99_per_task_pass", "chaos_p99_token_per_task", "token_p99_per_task_max"⟩,
   ⟨"retry_tax_pass", "chaos_retry_tax_ratio", "retry_tax_max"⟩,
   ⟨"fail_path_surge_pass", "fail_path_token_surge_ratio", "fail_path_token_surge_max"⟩,
   ⟨"retry_path_surge_pass", "retry_path_token_surge_ratio", "retry_path_token_surge_max"⟩]

/-- The observed value and the limit of a sub-gate that failed. -/
def SubGate.failure (gate : RunReport) (s : SubGate) : List (PyJson × PyJson) :=
  match gate.lookup s.flag with
  | some (.bool false) => [(gate.valueOrNone s.observed, gate.valueOrNone s.limit)]
  | _ => []

/-- The failing sub-gates, by what they observed and by their limits. -/
def failures (gate : RunReport) : List (PyJson × PyJson) := subGates.flatMap (·.failure gate)

/-- What the reasons quote. -/
def quotes (gate : RunReport) : List (PyJson × PyJson) :=
  (toleranceReasons gate).map fun r => (r.observed, r.limit)

/-- A failing gate has one reason for each failing sub-gate, with its value and limit, and
so it has one. -/
def Explained (gate : RunReport) : Prop :=
  gate.lookup "pass" = some (.bool false) →
    (quotes gate).Perm (failures gate) ∧ toleranceReasons gate ≠ []

/-! ### The reports -/

/-- Nothing that the gate reads raises. -/
structure Evaluable (baseline chaos : RunReport) : Prop where
  baselineFloats : ∀ k ∈ ["avg_token_per_task", "retry_rate"],
    (floatOr0 baseline k).isOk = true
  chaosFloats : ∀ k ∈ ["avg_token_per_task", "max_token_per_task", "p99_token_per_task",
    "retry_rate"], (floatOr0 chaos k).isOk = true
  averages : ∀ k ∈ ["avg_token_rule_fail", "avg_token_with_retry"],
    (averageSurge baseline chaos k).isOk = true
  baselineTax : baseline.retryTaxRatio.isOk = true
  chaosTax : chaos.retryTaxRatio.isOk = true

/-- The three sub-gates hold whose keys the runner does not find. -/
structure PathsHold (baseline chaos : RunReport) (t : TokenThresholds) : Prop where
  retryRate : ∀ x y, floatOr0 chaos "retry_rate" = .ok x →
    floatOr0 baseline "retry_rate" = .ok y → (x.sub y).le t.retrySurgeMax = true
  failPath : ∀ ratio, averageSurge baseline chaos "avg_token_rule_fail" = .ok (some ratio) →
    ratio.le t.failPathSurgeMax = true
  retryPath : ∀ ratio, averageSurge baseline chaos "avg_token_with_retry" = .ok (some ratio) →
    retryCaseCount baseline ≠ .ok 0 → retryCaseCount chaos ≠ .ok 0 →
    ratio.le t.retryPathSurgeMax = true

theorem evaluable_iff {baseline chaos : RunReport} :
    Evaluable baseline chaos ↔ ∃ r, readTokens baseline chaos = .ok r := by
  constructor
  · intro h
    obtain ⟨b, hb⟩ := exists_ok_of_isOk (h.baselineFloats "avg_token_per_task" (by decide))
    obtain ⟨c, hc⟩ := exists_ok_of_isOk (h.chaosFloats "avg_token_per_task" (by decide))
    obtain ⟨m, hm⟩ := exists_ok_of_isOk (h.chaosFloats "max_token_per_task" (by decide))
    obtain ⟨p, hp⟩ := exists_ok_of_isOk (h.chaosFloats "p99_token_per_task" (by decide))
    obtain ⟨x, hx⟩ := exists_ok_of_isOk (h.chaosFloats "retry_rate" (by decide))
    obtain ⟨y, hy⟩ := exists_ok_of_isOk (h.baselineFloats "retry_rate" (by decide))
    obtain ⟨fp, hfp⟩ := exists_ok_of_isOk (h.averages "avg_token_rule_fail" (by decide))
    obtain ⟨rp, hrp⟩ := exists_ok_of_isOk (h.averages "avg_token_with_retry" (by decide))
    obtain ⟨tax, htax⟩ := exists_ok_of_isOk h.chaosTax
    obtain ⟨tax', htax'⟩ := exists_ok_of_isOk h.baselineTax
    -- the ratios read the counts first
    obtain ⟨n, hn, -⟩ := bind_eq_ok_iff.mp htax
    obtain ⟨n', hn', -⟩ := bind_eq_ok_iff.mp htax'
    refine ⟨⟨tokenSurgeRatio b c, m, p, x.sub y, fp, rp, n', n, tax, tax'⟩, ?_⟩
    exact readTokens_eq_ok_iff.mpr
      ⟨b, c, x, y, hb, hc, hm, hp, hx, hy, hfp, hrp, hn', hn, htax, htax', rfl, rfl⟩
  · rintro ⟨r, hr⟩
    obtain ⟨b, c, x, y, hof⟩ := readTokens_eq_ok_iff.mp hr
    constructor
    · simp [hof.baselineTokens, hof.baselineRate, Except.isOk, Except.toBool]
    · simp [hof.chaosTokens, hof.chaosMaxToken, hof.chaosP99Token, hof.chaosRate, Except.isOk,
        Except.toBool]
    · simp [hof.fpRatio, hof.rpRatio, Except.isOk, Except.toBool]
    · rw [hof.baselineRetryTax]
      rfl
    · rw [hof.chaosRetryTax]
      rfl

/-- What the readings say of the three. -/
theorem pathsHold_iff {baseline chaos : RunReport} {t : TokenThresholds} {r : TokenReadings}
    (hr : readTokens baseline chaos = .ok r) :
    PathsHold baseline chaos t ↔ r.rSurge.le t.retrySurgeMax = true ∧
      within r.fpRatio t.failPathSurgeMax = true ∧ r.retryPathPass t = true := by
  obtain ⟨b, c, x, y, hof⟩ := readTokens_eq_ok_iff.mp hr
  rw [hof.rSurge]
  constructor
  · intro h
    refine ⟨h.retryRate x y hof.chaosRate hof.baselineRate, ?_, ?_⟩
    · cases hfp : r.fpRatio with
      | none => rfl
      | some ratio => exact h.failPath ratio (hfp ▸ hof.fpRatio)
    · rw [TokenReadings.retryPathPass]
      split
      · rfl
      · next hskip =>
          simp only [Bool.or_eq_true, decide_eq_true_eq, not_or] at hskip
          cases hrp : r.rpRatio with
          | none => rfl
          | some ratio =>
              apply h.retryPath ratio (hrp ▸ hof.rpRatio)
              · rw [hof.baseRetryN]
                exact fun h0 => hskip.1.2 (Except.ok.inj h0)
              · rw [hof.chaosRetryN]
                exact fun h0 => hskip.2 (Except.ok.inj h0)
  · rintro ⟨hrate, hfail, hpath⟩
    constructor
    · intro x' y' hx' hy'
      obtain rfl := Except.ok.inj (hof.chaosRate.symm.trans hx')
      obtain rfl := Except.ok.inj (hof.baselineRate.symm.trans hy')
      exact hrate
    · intro ratio hratio
      rw [Except.ok.inj (hof.fpRatio.symm.trans hratio)] at hfail
      exact hfail
    · intro ratio hratio hbase hchaos
      have hrp := Except.ok.inj (hof.rpRatio.symm.trans hratio)
      rw [hof.baseRetryN] at hbase
      rw [hof.chaosRetryN] at hchaos
      rw [TokenReadings.retryPathPass, if_neg, hrp] at hpath
      · exact hpath
      · simp only [hrp, Bool.or_eq_true, decide_eq_true_eq, not_or]
        exact ⟨⟨by rintro ⟨⟩, fun h0 => hbase (congrArg _ h0)⟩, fun h0 => hchaos (congrArg _ h0)⟩

/-! ### Reasons and failures -/

/-- An item, unless a flag is set. -/
def whenFalse {α : Type} (passed : Bool) (a : α) : List α := if passed then [] else [a]

theorem mem_whenFalse {α : Type} {passed : Bool} {a b : α} :
    b ∈ whenFalse passed a ↔ passed = false ∧ b = a := by
  cases passed <;> simp [whenFalse]

@[simp] theorem map_whenFalse {α β : Type} (f : α → β) (passed : Bool) (a : α) :
    (whenFalse passed a).map f = whenFalse passed (f a) := by
  cases passed <;> rfl

section Gate

variable (r : TokenReadings) (t : TokenThresholds)

theorem reasonFor_gate {flag : String} {passed : Bool}
    (h : (r.gate t).lookup flag = some (.bool passed)) (reason : Reason) :
    (r.gate t).reasonFor flag reason = whenFalse passed reason := by
  rw [RunReport.reasonFor, h]
  cases passed <;> rfl

theorem failure_gate {s : SubGate} {passed : Bool}
    (h : (r.gate t).lookup s.flag = some (.bool passed)) :
    s.failure (r.gate t)
      = whenFalse passed ((r.gate t).valueOrNone s.observed, (r.gate t).valueOrNone s.limit) := by
  rw [SubGate.failure, h]
  cases passed <;> rfl

/-- The failures of the sub-gates that the runner bounds absolutely. -/
def absoluteFailures : List (PyJson × PyJson) :=
  whenFalse (r.chaosMaxToken.le t.tokenMaxPerTaskMax)
      (.float r.chaosMaxToken, .float t.tokenMaxPerTaskMax) ++
    (whenFalse (r.chaosP99Token.le t.tokenP99PerTaskMax)
        (.float r.chaosP99Token, .float t.tokenP99PerTaskMax) ++
      whenFalse (r.retryTaxPass t) (.ofOption r.chaosRetryTax, .float t.retryTaxMax))

theorem failures_gate : failures (r.gate t) =
    whenFalse (r.tRatio.le t.tokenSurgeMax) (.float r.tRatio, .float t.tokenSurgeMax) ++
      (whenFalse (r.rSurge.le t.retrySurgeMax) (.float r.rSurge, .float t.retrySurgeMax) ++
        (absoluteFailures r t ++
          (whenFalse (within r.fpRatio t.failPathSurgeMax)
              (.ofOption r.fpRatio, .float t.failPathSurgeMax) ++
            whenFalse (r.retryPathPass t) (.ofOption r.rpRatio, .float t.retryPathSurgeMax)))) := by
  simp only [failures, subGates, List.flatMap_cons, List.flatMap_nil, List.append_nil]
  rw [failure_gate r t rfl, failure_gate r t rfl, failure_gate r t rfl, failure_gate r t rfl,
    failure_gate r t rfl, failure_gate r t rfl, failure_gate r t rfl]
  simp only [absoluteFailures, List.append_assoc]
  rfl

theorem quotes_gate (hpass : r.pass t = false) : quotes (r.gate t) =
    whenFalse (r.tRatio.le t.tokenSurgeMax) (.float r.tRatio, .float t.tokenSurgeMax) ++
      (whenFalse (r.rSurge.le t.retrySurgeMax) (.null, .float t.retrySurgeMax) ++
        absoluteFailures r t) := by
  have hfails : ((r.gate t).valueOrNone "pass").truthy = false := hpass
  -- no flag of the gate is called so
  have hmissing : ∀ reason, (r.gate t).reasonFor "fail_path_token_surge_pass" reason = [] :=
    fun _ => rfl
  have hrelative : toleranceEnv.flatMap (relativeReason (r.gate t)) =
      whenFalse (r.tRatio.le t.tokenSurgeMax)
          ⟨"token_surge_max", "ratio", .float r.tRatio, .float t.tokenSurgeMax⟩ ++
        whenFalse (r.rSurge.le t.retrySurgeMax)
          ⟨"retry_surge_max", "ratio", .null, .float t.retrySurgeMax⟩ := by
    show (r.gate t).reasonFor "token_surge_pass" _ ++ ((r.gate t).reasonFor "retry_surge_pass" _ ++
      ((r.gate t).reasonFor "fail_path_token_surge_pass" _ ++ [])) = _
    rw [hmissing, reasonFor_gate r t rfl, reasonFor_gate r t rfl, List.append_nil,
      List.append_nil]
    rfl
  have habsolute : absoluteGateFields.flatMap (absoluteReason (r.gate t)) =
      whenFalse (r.chaosMaxToken.le t.tokenMaxPerTaskMax)
          ⟨"token_max_per_task", "observed", .float r.chaosMaxToken,
            .float t.tokenMaxPerTaskMax⟩ ++
        (whenFalse (r.chaosP99Token.le t.tokenP99PerTaskMax)
            ⟨"token_p99_per_task", "observed", .float r.chaosP99Token,
              .float t.tokenP99PerTaskMax⟩ ++
          whenFalse (r.retryTaxPass t)
            ⟨"retry_tax", "observed", .ofOption r.chaosRetryTax, .float t.retryTaxMax⟩) := by
    show (r.gate t).reasonFor "token_max_per_task_pass" _ ++
      ((r.gate t).reasonFor "token_p99_per_task_pass" _ ++
        ((r.gate t).reasonFor "retry_tax_pass" _ ++ [])) = _
    rw [reasonFor_gate r t rfl, reasonFor_gate r t rfl, reasonFor_gate r t rfl, List.append_nil]
    rfl
  rw [quotes, toleranceReasons, if_neg (by rw [hfails]; decide), hrelative, habsolute]
  simp only [List.map_append, map_whenFalse, absoluteFailures, List.append_assoc]

variable {r t}

/-- A sub-gate that fails has observed something. -/
theorem observed_ne_null {v limit : PyJson} (h : (v, limit) ∈
    whenFalse (r.tRatio.le t.tokenSurgeMax) (.float r.tRatio, .float t.tokenSurgeMax) ++
      (whenFalse (r.rSurge.le t.retrySurgeMax) (.float r.rSurge, .float t.retrySurgeMax) ++
        absoluteFailures r t)) : v ≠ .null := by
  simp only [absoluteFailures, List.mem_append, mem_whenFalse, Prod.mk.injEq] at h
  rintro rfl
  rcases h with ⟨-, h, -⟩ | ⟨-, h, -⟩ | ⟨-, h, -⟩ | ⟨-, h, -⟩ | ⟨hfails, h, -⟩
  · cases h
  · cases h
  · cases h
  · cases h
  · cases htax : r.chaosRetryTax with
    | some x =>
        rw [htax] at h
        cases h
    | none =>
        rw [TokenReadings.retryTaxPass, if_pos htax] at hfails
        cases hfails

theorem length_whenFalse {α : Type} (passed : Bool) (a : α) :
    (whenFalse passed a).length = if passed then 0 else 1 := by
  cases passed <;> rfl

/-- The reasons quote the failures exactly when the three sub-gates hold. -/
theorem quotes_perm_iff (hpass : r.pass t = false) :
    (quotes (r.gate t)).Perm (failures (r.gate t)) ↔ r.rSurge.le t.retrySurgeMax = true ∧
      within r.fpRatio t.failPathSurgeMax = true ∧ r.retryPathPass t = true := by
  rw [quotes_gate r t hpass, failures_gate r t]
  constructor
  · intro hperm
    -- a failure of one of the two paths has no reason
    have hlength := hperm.length_eq
    simp only [List.length_append, length_whenFalse] at hlength
    have hfail : within r.fpRatio t.failPathSurgeMax = true := by
      by_contra hnot
      rw [if_neg hnot] at hlength
      omega
    have hpath : r.retryPathPass t = true := by
      by_contra hnot
      rw [if_neg hnot] at hlength
      omega
    refine ⟨?_, hfail, hpath⟩
    -- and one of the retry rate has a reason that quotes `None`
    by_contra hnot
    rw [Bool.not_eq_true] at hnot
    have hmem : ((PyJson.null, PyJson.float t.retrySurgeMax) : PyJson × PyJson) ∈
        whenFalse (r.tRatio.le t.tokenSurgeMax) (.float r.tRatio, .float t.tokenSurgeMax) ++
          (whenFalse (r.rSurge.le t.retrySurgeMax) (.null, .float t.retrySurgeMax) ++
            absoluteFailures r t) := by
      apply List.mem_append_right
      apply List.mem_append_left
      exact mem_whenFalse.mpr ⟨hnot, rfl⟩
    have hmem' := hperm.mem_iff.mp hmem
    rw [hfail, hpath] at hmem'
    simp only [whenFalse, if_true, List.append_nil] at hmem'
    exact observed_ne_null hmem' rfl
  · rintro ⟨hrate, hfail, hpath⟩
    rw [hrate, hfail, hpath]
    simp only [whenFalse, if_true, List.nil_append, List.append_nil]
    exact List.Perm.refl _

/-- A gate that fails although the three hold has a reason. -/
theorem toleranceReasons_ne_nil (hpass : r.pass t = false)
    (hrate : r.rSurge.le t.retrySurgeMax = true)
    (hfail : within r.fpRatio t.failPathSurgeMax = true) (hpath : r.retryPathPass t = true) :
    toleranceReasons (r.gate t) ≠ [] := by
  intro hnil
  have hquotes : quotes (r.gate t) = [] := by rw [quotes, hnil, List.map_nil]
  rw [quotes_gate r t hpass] at hquotes
  simp only [absoluteFailures, List.append_eq_nil_iff] at hquotes
  have hpassed : ∀ {passed : Bool} {a : PyJson × PyJson}, whenFalse passed a = [] →
      passed = true := by
    intro passed a h
    cases passed with
    | true => rfl
    | false => cases h
  obtain ⟨htokens, -, hmost, hp99, htax⟩ := hquotes
  rw [TokenReadings.pass, hpassed htokens, hpassed hmost, hpassed hp99, hpassed htax, hrate,
    hfail, hpath] at hpass
  cases hpass

end Gate

/-- **When a failing verdict has its reasons.**  A failing gate has one reason for each
failing sub-gate, with its own value and limit, exactly when nothing is evaluated, or the
surges of the retry rate, of the fail path and of the retry path are all within bounds. -/
theorem explained_iff (baseline chaos : RunReport) (t : TokenThresholds) :
    (∀ gate, evaluateTokenBlackHoleGate baseline chaos t = .ok gate → Explained gate) ↔
      (Evaluable baseline chaos → PathsHold baseline chaos t) := by
  constructor
  · intro h hevaluable
    obtain ⟨r, hr⟩ := evaluable_iff.mp hevaluable
    rw [pathsHold_iff hr]
    have hgate : evaluateTokenBlackHoleGate baseline chaos t = .ok (r.gate t) := by
      rw [evaluateTokenBlackHoleGate, hr]
      rfl
    cases hpass : r.pass t with
    | true =>
        simp only [TokenReadings.pass, Bool.and_eq_true] at hpass
        exact ⟨hpass.1.1.1.2, hpass.1.1.2, hpass.1.2⟩
    | false =>
        have hflag : (r.gate t).lookup "pass" = some (.bool false) := by
          rw [TokenReadings.gate_pass, hpass]
        exact (quotes_perm_iff hpass).mp (h _ hgate hflag).1
  · intro h gate hgate hflag
    obtain ⟨r, hr, hgate⟩ := bind_eq_ok_iff.mp hgate
    obtain rfl := Except.ok.inj hgate
    rw [TokenReadings.gate_pass] at hflag
    have hpass : r.pass t = false := PyJson.bool.inj (Option.some.inj hflag)
    obtain ⟨hrate, hfail, hpath⟩ := (pathsHold_iff hr).mp (h (evaluable_iff.mpr ⟨r, hr⟩))
    exact ⟨(quotes_perm_iff hpass).mpr ⟨hrate, hfail, hpath⟩,
      toleranceReasons_ne_nil hpass hrate hfail hpath⟩

/-! #### A verdict without a reason -/

/-- A run without retries, by the average of its failing cases. -/
def failPathRun (tokens : ℚ) : RunReport :=
  [("avg_token_per_task", .float (.fin 100)), ("max_token_per_task", .float (.fin 199)),
   ("p99_token_per_task", .float (.fin 187)), ("retry_rate", .float (.fin 0)),
   ("retry_case_count", .int 0), ("avg_token_rule_fail", .float (.fin tokens))]

/-- The flags of the readings that the reasons and the gate depend on. -/
def TokenReadings.flags (r : TokenReadings) (t : TokenThresholds) : List Bool :=
  [r.pass t, r.tRatio.le t.tokenSurgeMax, r.rSurge.le t.retrySurgeMax,
   r.chaosMaxToken.le t.tokenMaxPerTaskMax, r.chaosP99Token.le t.tokenP99PerTaskMax,
   r.retryTaxPass t]

/-- Failing cases that take twice the tokens fail the gate, and no reason is given. -/
theorem not_explained_failPath :
    ∃ gate, evaluateTokenBlackHoleGate (failPathRun 100) (failPathRun 200)
        defaultTokenThresholds = .ok gate ∧
      gate.lookup "pass" = some (.bool false) ∧ toleranceReasons gate = [] ∧
      ¬ Explained gate := by
  have hflags : (readTokens (failPathRun 100) (failPathRun 200)).map
      (fun r => r.flags defaultTokenThresholds) = .ok [false, true, true, true, true, true] := by
    decide +kernel
  cases hr : readTokens (failPathRun 100) (failPathRun 200) with
  | error e =>
      rw [hr] at hflags
      cases hflags
  | ok r =>
      rw [hr] at hflags
      have hlist := Except.ok.inj hflags
      simp only [TokenReadings.flags, List.cons.injEq, and_true] at hlist
      obtain ⟨hpass, htokens, hrate, hmost, hp99, htax⟩ := hlist
      have hflag : (r.gate defaultTokenThresholds).lookup "pass" = some (.bool false) := by
        rw [TokenReadings.gate_pass, hpass]
      have hnil : toleranceReasons (r.gate defaultTokenThresholds) = [] := by
        apply List.map_eq_nil_iff.mp
        show quotes (r.gate defaultTokenThresholds) = []
        rw [quotes_gate r _ hpass, absoluteFailures, htokens, hrate, hmost, hp99, htax]
        rfl
      refine ⟨r.gate defaultTokenThresholds, ?_, hflag, hnil, fun hexplained => ?_⟩
      · rw [evaluateTokenBlackHoleGate, hr]
        rfl
      · exact (hexplained hflag).2 hnil

end ChaosDemo
