/-
ChaosDemo/TokenGate.lean

The token black-hole gate of the chaos comparison (agent-eval/scripts/chaos_compare.py).
It compares the report of a run with injected faults with the report of a run without,
in seven sub-gates.  Three of them take a ratio whose denominator may be missing or not
positive, and are skipped then; two of these also when there are no, or too few, cases
with a retry.

What a sub-gate is skipped for is read from the baseline, from the counts of the cases
with a retry and from the average without one, never from the six fields that get worse.
So the gate is antitone in these fields, and monotone in the thresholds
(`tokenGate_antitone`).

Reports are what `json.load` gives, and thresholds are floats.
-/
import ChaosDemo.Report

namespace ChaosDemo

/-! ### The readings -/

/-- A report of one run. -/
abbrev RunReport := List (String × PyJson)

/-- `report.get(k)`, where it is not `None`. -/
def RunReport.value? (report : RunReport) (k : String) : Option PyJson :=
  match report.lookup k with
  | some .null => none
  | v => v

/-- `float(report.get(k) or 0)`. -/
def floatOr0 (report : RunReport) (k : String) : Except PyError PyFloat :=
  (PyJson.orElse (report.value? k) (.int 0)).toFloat

/-- `int(report.get("retry_case_count") or 0)`. -/
def retryCaseCount (report : RunReport) : Except PyError ℤ :=
  (PyJson.orElse (report.value? "retry_case_count") (.int 0)).toInt

/-- `float(v) if v is not None else None`. -/
def optFloat : Option PyJson → Except PyError (Option PyFloat)
  | none => .ok none
  | some v => v.toFloat.map some

/-- `except (TypeError, ValueError)`, and what stands for the value then. -/
def orOnBadValue {α : Type} (read : Except PyError α) (other : α) : Except PyError α :=
  match read with
  | .error .typeError => .ok other
  | .error .valueError => .ok other
  | read => read

/-- `token_surge_ratio`. -/
def tokenSurgeRatio (baselineTokens chaosTokens : PyFloat) : PyFloat :=
  if baselineTokens.le (.fin 0) then .fin 0
  else (chaosTokens.sub baselineTokens).div baselineTokens

/-- `fail_path_surge_ratio`. -/
def failPathSurgeRatio : Option PyFloat → Option PyFloat → Option PyFloat
  | some baselineAvg, some chaosAvg =>
      if baselineAvg.le (.fin 0) then none
      else some ((chaosAvg.sub baselineAvg).div baselineAvg)
  | _, _ => none

/-- An average of both reports; where one is no number, neither counts. -/
def averages (baseline chaos : RunReport) (k : String) :
    Except PyError (Option PyFloat × Option PyFloat) :=
  orOnBadValue
    (do
      let b ← optFloat (baseline.value? k)
      let c ← optFloat (chaos.value? k)
      pure (b, c))
    (none, none)

/-- The surge of an average. -/
def averageSurge (baseline chaos : RunReport) (k : String) : Except PyError (Option PyFloat) :=
  (averages baseline chaos k).map fun pair => failPathSurgeRatio pair.1 pair.2

/-- `retry_tax_ratio`, with cases that have a retry. -/
def retryTax (run : RunReport) : Except PyError (Option PyFloat) :=
  match run.value? "avg_token_with_retry", run.value? "avg_token_no_retry" with
  | some ar, some an =>
      orOnBadValue
        (do
          let ar ← ar.toFloat
          let an ← an.toFloat
          pure (if an.le (.fin 0) then none else some ((ar.sub an).div an)))
        none
  | _, _ => .ok none

/-- `retry_tax_ratio`. -/
def RunReport.retryTaxRatio (run : RunReport) : Except PyError (Option PyFloat) := do
  let n ← retryCaseCount run
  if n ≤ 0 then pure none else retryTax run

/-- `RETRY_TAX_MIN_SAMPLES`. -/
def retryTaxMinSamples : ℤ := 5

/-- What the gate computes from the two reports. -/
structure TokenReadings where
  tRatio : PyFloat
  chaosMaxToken : PyFloat
  chaosP99Token : PyFloat
  rSurge : PyFloat
  fpRatio : Option PyFloat
  rpRatio : Option PyFloat
  baseRetryN : ℤ
  chaosRetryN : ℤ
  chaosRetryTax : Option PyFloat
  baselineRetryTax : Option PyFloat

/-- The first part of `evaluate_token_black_hole_gate`. -/
def readTokens (baseline chaos : RunReport) : Except PyError TokenReadings := do
  let baselineTokens ← floatOr0 baseline "avg_token_per_task"
  let chaosTokens ← floatOr0 chaos "avg_token_per_task"
  let chaosMaxToken ← floatOr0 chaos "max_token_per_task"
  let chaosP99Token ← floatOr0 chaos "p99_token_per_task"
  let chaosRate ← floatOr0 chaos "retry_rate"
  let baselineRate ← floatOr0 baseline "retry_rate"
  let fpRatio ← averageSurge baseline chaos "avg_token_rule_fail"
  let rpRatio ← averageSurge baseline chaos "avg_token_with_retry"
  let baseRetryN ← retryCaseCount baseline
  let chaosRetryN ← retryCaseCount chaos
  let chaosRetryTax ← chaos.retryTaxRatio
  let baselineRetryTax ← baseline.retryTaxRatio
  pure
    { tRatio := tokenSurgeRatio baselineTokens chaosTokens
      chaosMaxToken := chaosMaxToken
      chaosP99Token := chaosP99Token
      rSurge := chaosRate.sub baselineRate
      fpRatio := fpRatio
      rpRatio := rpRatio
      baseRetryN := baseRetryN
      chaosRetryN := chaosRetryN
      chaosRetryTax := chaosRetryTax
      baselineRetryTax := baselineRetryTax }

/-- Where the readings come from. -/
structure TokenReadings.Of (baseline chaos : RunReport) (r : TokenReadings)
    (b c x y : PyFloat) : Prop where
  baselineTokens : floatOr0 baseline "avg_token_per_task" = .ok b
  chaosTokens : floatOr0 chaos "avg_token_per_task" = .ok c
  chaosMaxToken : floatOr0 chaos "max_token_per_task" = .ok r.chaosMaxToken
  chaosP99Token : floatOr0 chaos "p99_token_per_task" = .ok r.chaosP99Token
  chaosRate : floatOr0 chaos "retry_rate" = .ok x
  baselineRate : floatOr0 baseline "retry_rate" = .ok y
  fpRatio : averageSurge baseline chaos "avg_token_rule_fail" = .ok r.fpRatio
  rpRatio : averageSurge baseline chaos "avg_token_with_retry" = .ok r.rpRatio
  baseRetryN : retryCaseCount baseline = .ok r.baseRetryN
  chaosRetryN : retryCaseCount chaos = .ok r.chaosRetryN
  chaosRetryTax : chaos.retryTaxRatio = .ok r.chaosRetryTax
  baselineRetryTax : baseline.retryTaxRatio = .ok r.baselineRetryTax
  tRatio : r.tRatio = tokenSurgeRatio b c
  rSurge : r.rSurge = x.sub y

theorem readTokens_eq_ok_iff {baseline chaos : RunReport} {r : TokenReadings} :
    readTokens baseline chaos = .ok r ↔ ∃ b c x y, r.Of baseline chaos b c x y := by
  constructor
  · intro h
    obtain ⟨b, hb, h⟩ := bind_eq_ok_iff.mp h
    obtain ⟨c, hc, h⟩ := bind_eq_ok_iff.mp h
    obtain ⟨most, hmost, h⟩ := bind_eq_ok_iff.mp h
    obtain ⟨p99, hp99, h⟩ := bind_eq_ok_iff.mp h
    obtain ⟨x, hx, h⟩ := bind_eq_ok_iff.mp h
    obtain ⟨y, hy, h⟩ := bind_eq_ok_iff.mp h
    obtain ⟨fp, hfp, h⟩ := bind_eq_ok_iff.mp h
    obtain ⟨rp, hrp, h⟩ := bind_eq_ok_iff.mp h
    obtain ⟨n, hn, h⟩ := bind_eq_ok_iff.mp h
    obtain ⟨n', hn', h⟩ := bind_eq_ok_iff.mp h
    obtain ⟨tax, htax, h⟩ := bind_eq_ok_iff.mp h
    obtain ⟨tax', htax', h⟩ := bind_eq_ok_iff.mp h
    obtain rfl := Except.ok.inj h
    exact ⟨b, c, x, y, hb, hc, hmost, hp99, hx, hy, hfp, hrp, hn, hn', htax, htax', rfl, rfl⟩
  · rintro ⟨b, c, x, y, h⟩
    rw [readTokens, h.baselineTokens, h.chaosTokens, h.chaosMaxToken, h.chaosP99Token,
      h.chaosRate, h.baselineRate, h.fpRatio, h.rpRatio, h.baseRetryN, h.chaosRetryN,
      h.chaosRetryTax, h.baselineRetryTax]
    obtain ⟨_, _, _, _, _, _, _, _, _, _⟩ := r
    obtain rfl := h.tRatio
    obtain rfl := h.rSurge
    rfl

/-! ### The gate -/

/-- The thresholds, under the names of the arguments. -/
structure TokenThresholds where
  tokenSurgeMax : PyFloat
  tokenMaxPerTaskMax : PyFloat
  tokenP99PerTaskMax : PyFloat
  retrySurgeMax : PyFloat
  failPathSurgeMax : PyFloat
  retryPathSurgeMax : PyFloat
  retryTaxMax : PyFloat

/-- A ratio that is there is at most the bound. -/
def within : Option PyFloat → PyFloat → Bool
  | none, _ => true
  | some ratio, bound => ratio.le bound

/-- A float or `None`. -/
def PyJson.ofOption : Option PyFloat → PyJson
  | none => .null
  | some x => .float x

namespace TokenReadings

variable (r : TokenReadings) (t : TokenThresholds)

/-- `retry_path_gate_pass`. -/
def retryPathPass : Bool :=
  if r.rpRatio = none || r.baseRetryN = 0 || r.chaosRetryN = 0 then true
  else within r.rpRatio t.retryPathSurgeMax

/-- `retry_tax_gate_pass`. -/
def retryTaxPass : Bool :=
  if r.chaosRetryTax = none then true
  else if r.chaosRetryN < retryTaxMinSamples then true
  else within r.chaosRetryTax t.retryTaxMax

/-- `retry_tax_skipped`. -/
def retryTaxSkipped : PyJson :=
  if r.chaosRetryTax = none then .str "no_retry_samples"
  else if r.chaosRetryN < retryTaxMinSamples then
    .str ("insufficient_samples(" ++ toString r.chaosRetryN ++ "<" ++
      toString retryTaxMinSamples ++ ")")
  else .bool false

/-- Whether all seven sub-gates pass. -/
def pass : Bool :=
  r.tRatio.le t.tokenSurgeMax && r.chaosMaxToken.le t.tokenMaxPerTaskMax &&
    r.chaosP99Token.le t.tokenP99PerTaskMax && r.rSurge.le t.retrySurgeMax &&
    within r.fpRatio t.failPathSurgeMax && r.retryPathPass t && r.retryTaxPass t

/-- The dictionary that is returned. -/
def gate : RunReport :=
  [("token_surge_ratio", .float r.tRatio),
   ("token_surge_max", .float t.tokenSurgeMax),
   ("token_surge_pass", .bool (r.tRatio.le t.tokenSurgeMax)),
   ("chaos_max_token_per_task", .float r.chaosMaxToken),
   ("token_max_per_task_max", .float t.tokenMaxPerTaskMax),
   ("token_max_per_task_pass", .bool (r.chaosMaxToken.le t.tokenMaxPerTaskMax)),
   ("chaos_p99_token_per_task", .float r.chaosP99Token),
   ("token_p99_per_task_max", .float t.tokenP99PerTaskMax),
   ("token_p99_per_task_pass", .bool (r.chaosP99Token.le t.tokenP99PerTaskMax)),
   ("retry_rate_surge", .float r.rSurge),
   ("retry_surge_max", .float t.retrySurgeMax),
   ("retry_surge_pass", .bool (r.rSurge.le t.retrySurgeMax)),
   ("fail_path_token_surge_ratio", .ofOption r.fpRatio),
   ("fail_path_token_surge_max", .float t.failPathSurgeMax),
   ("fail_path_surge_pass", .bool (within r.fpRatio t.failPathSurgeMax)),
   ("retry_path_token_surge_ratio", .ofOption r.rpRatio),
   ("retry_path_token_surge_max", .float t.retryPathSurgeMax),
   ("retry_path_surge_pass", .bool (r.retryPathPass t)),
   ("baseline_retry_case_count", .int r.baseRetryN),
   ("chaos_retry_case_count", .int r.chaosRetryN),
   ("chaos_retry_tax_ratio", .ofOption r.chaosRetryTax),
   ("retry_tax_max", .float t.retryTaxMax),
   ("retry_tax_min_samples", .int retryTaxMinSamples),
   ("retry_tax_skipped", r.retryTaxSkipped),
   ("retry_tax_pass", .bool (r.retryTaxPass t)),
   ("baseline_retry_tax_ratio", .ofOption r.baselineRetryTax),
   ("pass", .bool (r.pass t))]

theorem gate_pass : (r.gate t).lookup "pass" = some (.bool (r.pass t)) := by
  simp [gate, List.lookup_cons]

end TokenReadings

/-- `evaluate_token_black_hole_gate`. -/
def evaluateTokenBlackHoleGate (baseline chaos : RunReport) (t : TokenThresholds) :
    Except PyError RunReport := do
  let r ← readTokens baseline chaos
  pure (r.gate t)

/-- The gate is evaluated, and says whether it passes. -/
def GateSays (baseline chaos : RunReport) (t : TokenThresholds) (pass : Bool) : Prop :=
  ∃ gate, evaluateTokenBlackHoleGate baseline chaos t = .ok gate ∧
    gate.lookup "pass" = some (.bool pass)

theorem gateSays_iff {baseline chaos : RunReport} {t : TokenThresholds} {pass : Bool} :
    GateSays baseline chaos t pass ↔
      ∃ r, readTokens baseline chaos = .ok r ∧ r.pass t = pass := by
  constructor
  · rintro ⟨gate, hgate, hpass⟩
    obtain ⟨r, hr, hgate⟩ := bind_eq_ok_iff.mp hgate
    obtain rfl := Except.ok.inj hgate
    rw [TokenReadings.gate_pass] at hpass
    exact ⟨r, hr, PyJson.bool.inj (Option.some.inj hpass)⟩
  · rintro ⟨r, hr, hpass⟩
    refine ⟨r.gate t, ?_, ?_⟩
    · rw [evaluateTokenBlackHoleGate, hr]
      rfl
    · rw [TokenReadings.gate_pass, hpass]

/-! ### Worse reports -/

/-- The fields of a chaos report that the gate bounds. -/
def chaosFields : List String :=
  ["avg_token_per_task", "max_token_per_task", "p99_token_per_task", "retry_rate",
   "avg_token_rule_fail", "avg_token_with_retry"]

/-- A field that `float` makes a rational of. -/
def RunReport.Reads (report : RunReport) (k : String) (q : ℚ) : Prop :=
  ∃ v, report.value? k = some v ∧ v.toFloat = .ok (.fin q)

/-- Two chaos reports that differ in these fields only, and there the second is no better. -/
structure Worse (chaos chaos' : RunReport) : Prop where
  others : ∀ k, k ∉ chaosFields → chaos.lookup k = chaos'.lookup k
  fields : ∀ k ∈ chaosFields, ∃ p q, chaos.Reads k p ∧ chaos'.Reads k q ∧ p ≤ q

/-- Every threshold is the same or a higher one. -/
structure TokenThresholds.Raised (t t' : TokenThresholds) : Prop where
  tokenSurgeMax : t.tokenSurgeMax.NoLess t'.tokenSurgeMax
  tokenMaxPerTaskMax : t.tokenMaxPerTaskMax.NoLess t'.tokenMaxPerTaskMax
  tokenP99PerTaskMax : t.tokenP99PerTaskMax.NoLess t'.tokenP99PerTaskMax
  retrySurgeMax : t.retrySurgeMax.NoLess t'.retrySurgeMax
  failPathSurgeMax : t.failPathSurgeMax.NoLess t'.failPathSurgeMax
  retryPathSurgeMax : t.retryPathSurgeMax.NoLess t'.retryPathSurgeMax
  retryTaxMax : t.retryTaxMax.NoLess t'.retryTaxMax

theorem TokenThresholds.Raised.refl (t : TokenThresholds) : t.Raised t :=
  ⟨.inl rfl, .inl rfl, .inl rfl, .inl rfl, .inl rfl, .inl rfl, .inl rfl⟩

/-- Both missing, or both there and the second no less. -/
abbrev OptionNoLess : Option PyFloat → Option PyFloat → Prop := Option.Rel PyFloat.NoLess

theorem OptionNoLess.refl : ∀ a : Option PyFloat, OptionNoLess a a
  | none => .none
  | some _ => .some (.inl rfl)

/-- The second readings are no better than the first, and made from the same counts. -/
structure TokenReadings.Worse (r r' : TokenReadings) : Prop where
  tRatio : r.tRatio.NoLess r'.tRatio
  chaosMaxToken : r.chaosMaxToken.NoLess r'.chaosMaxToken
  chaosP99Token : r.chaosP99Token.NoLess r'.chaosP99Token
  rSurge : r.rSurge.NoLess r'.rSurge
  fpRatio : OptionNoLess r.fpRatio r'.fpRatio
  rpRatio : OptionNoLess r.rpRatio r'.rpRatio
  baseRetryN : r.baseRetryN = r'.baseRetryN
  chaosRetryN : r.chaosRetryN = r'.chaosRetryN
  chaosRetryTax : OptionNoLess r.chaosRetryTax r'.chaosRetryTax

theorem TokenReadings.Worse.refl (r : TokenReadings) : r.Worse r :=
  ⟨.inl rfl, .inl rfl, .inl rfl, .inl rfl, .refl _, .refl _, rfl, rfl, .refl _⟩

/-! #### The sub-gates -/

theorem OptionNoLess.eq_none_iff {a b : Option PyFloat} (h : OptionNoLess a b) :
    a = none ↔ b = none := by
  cases h with
  | none => exact Iff.rfl
  | some _ => exact ⟨fun h => (nomatch h), fun h => (nomatch h)⟩

theorem within_of_noLess {a b : Option PyFloat} {bound bound' : PyFloat}
    (h : OptionNoLess a b) (hbound : bound.NoLess bound') (hb : within b bound = true) :
    within a bound' = true := by
  cases h with
  | none => rfl
  | some hle => exact PyFloat.le_of_noLess hle hbound hb

section SubGates

variable {r r' : TokenReadings} {t t' : TokenThresholds} (hr : r.Worse r') (ht : t.Raised t')
include hr ht

theorem retryPathPass_of_worse (h : r'.retryPathPass t = true) : r.retryPathPass t' = true := by
  rw [TokenReadings.retryPathPass] at h ⊢
  split
  · rfl
  · next hskip =>
      -- the other one is not skipped either
      have hskip' : ¬ (r'.rpRatio = none || r'.baseRetryN = 0 || r'.chaosRetryN = 0) = true := by
        simpa only [hr.rpRatio.eq_none_iff, hr.baseRetryN, hr.chaosRetryN] using hskip
      rw [if_neg hskip'] at h
      exact within_of_noLess hr.rpRatio ht.retryPathSurgeMax h

theorem retryTaxPass_of_worse (h : r'.retryTaxPass t = true) : r.retryTaxPass t' = true := by
  rw [TokenReadings.retryTaxPass] at h ⊢
  split
  · rfl
  · next hnone =>
      rw [if_neg (fun h' => hnone (hr.chaosRetryTax.eq_none_iff.mpr h')), ← hr.chaosRetryN] at h
      split
      · rfl
      · next hmany =>
          rw [if_neg hmany] at h
          exact within_of_noLess hr.chaosRetryTax ht.retryTaxMax h

/-- Better readings pass where worse ones do, and higher thresholds let them. -/
theorem pass_of_worse (h : r'.pass t = true) : r.pass t' = true := by
  simp only [TokenReadings.pass, Bool.and_eq_true] at h ⊢
  obtain ⟨⟨⟨⟨⟨⟨hsurge, hmax⟩, hp99⟩, hretry⟩, hfail⟩, hpath⟩, htax⟩ := h
  refine ⟨⟨⟨⟨⟨⟨?_, ?_⟩, ?_⟩, ?_⟩, ?_⟩, ?_⟩, ?_⟩
  · exact PyFloat.le_of_noLess hr.tRatio ht.tokenSurgeMax hsurge
  · exact PyFloat.le_of_noLess hr.chaosMaxToken ht.tokenMaxPerTaskMax hmax
  · exact PyFloat.le_of_noLess hr.chaosP99Token ht.tokenP99PerTaskMax hp99
  · exact PyFloat.le_of_noLess hr.rSurge ht.retrySurgeMax hretry
  · exact within_of_noLess hr.fpRatio ht.failPathSurgeMax hfail
  · exact retryPathPass_of_worse hr ht hpath
  · exact retryTaxPass_of_worse hr ht htax

end SubGates

/-! #### The readings of worse reports -/

theorem toFloat_int_zero : (PyJson.int 0).toFloat = .ok (.fin 0) := by
  have hlimit : (0 : ℤ).natAbs < floatLimit := floatLimit_pos
  show intToFloat 0 = _
  rw [intToFloat, if_pos hlimit, Int.cast_zero]

theorem floatOr0_of_reads {report : RunReport} {k : String} {q : ℚ} (h : report.Reads k q) :
    floatOr0 report k = .ok (.fin q) := by
  obtain ⟨v, hv, hfloat⟩ := h
  rw [floatOr0, hv]
  show (if v.truthy then v else PyJson.int 0).toFloat = _
  split
  · exact hfloat
  · next hfalsy =>
      -- a falsy value that is a number is 0
      have hzero : PyFloat.fin 0 = PyFloat.fin q := by
        cases v with
        | bool b =>
            cases b with
            | true => exact absurd rfl hfalsy
            | false => exact Except.ok.inj hfloat
        | int i =>
            have hi : i = 0 := by simpa [PyJson.truthy] using hfalsy
            subst hi
            exact Except.ok.inj (toFloat_int_zero.symm.trans hfloat)
        | float x =>
            have hx : x = .fin 0 := by simpa [PyJson.truthy] using hfalsy
            subst hx
            exact Except.ok.inj hfloat
        | str s =>
            have hs : s = "" := by simpa [PyJson.truthy] using hfalsy
            subst hs
            cases hfloat
        | _ => cases hfloat
      rw [← hzero]
      exact toFloat_int_zero

theorem optFloat_of_reads {report : RunReport} {k : String} {q : ℚ} (h : report.Reads k q) :
    optFloat (report.value? k) = .ok (some (.fin q)) := by
  obtain ⟨v, hv, hfloat⟩ := h
  rw [hv, optFloat, hfloat]
  rfl

theorem tokenSurgeRatio_noLess (b : PyFloat) {p q : ℚ} (h : p ≤ q) :
    (tokenSurgeRatio b (.fin p)).NoLess (tokenSurgeRatio b (.fin q)) := by
  rw [tokenSurgeRatio, tokenSurgeRatio]
  split
  · exact .inl rfl
  · next hb => exact PyFloat.surge_noLess h hb

theorem failPathSurgeRatio_noLess (b : Option PyFloat) {p q : ℚ} (h : p ≤ q) :
    OptionNoLess (failPathSurgeRatio b (some (.fin p)))
      (failPathSurgeRatio b (some (.fin q))) := by
  cases b with
  | none => exact .none
  | some b =>
      rw [failPathSurgeRatio, failPathSurgeRatio]
      split
      · exact .none
      · next hb => exact .some (PyFloat.surge_noLess h hb)

/-- A related result, where the first returns. -/
def OkRel {α : Type} (R : α → α → Prop) (x y : Except PyError α) : Prop :=
  ∀ a, x = .ok a → ∃ b, y = .ok b ∧ R a b

theorem OkRel.of_error {α : Type} {R : α → α → Prop} {e : PyError} {y : Except PyError α} :
    OkRel R (.error e) y :=
  fun _ h => (nomatch h)

theorem OkRel.of_ok {α : Type} {R : α → α → Prop} {a b : α} (h : R a b) :
    OkRel R (.ok a) (.ok b) := by
  intro a' ha
  obtain rfl := Except.ok.inj ha
  exact ⟨b, rfl, h⟩

namespace Worse

variable {chaos chaos' : RunReport} (h : Worse chaos chaos')
include h

theorem value_eq {k : String} (hk : k ∉ chaosFields) : chaos.value? k = chaos'.value? k := by
  rw [RunReport.value?, RunReport.value?, h.others k hk]

theorem averageSurge_noLess (baseline : RunReport) {k : String} (hk : k ∈ chaosFields) :
    OkRel OptionNoLess (averageSurge baseline chaos k) (averageSurge baseline chaos' k) := by
  obtain ⟨p, q, hp, hq, hle⟩ := h.fields k hk
  rw [averageSurge, averageSurge, averages, averages, optFloat_of_reads hp, optFloat_of_reads hq]
  cases optFloat (baseline.value? k) with
  | ok b => exact .of_ok (failPathSurgeRatio_noLess b hle)
  | error e =>
      -- the same error, caught on both sides or on neither
      cases e with
      | typeError => exact .of_ok .none
      | valueError => exact .of_ok .none
      | _ => exact .of_error

theorem retryCaseCount_eq : retryCaseCount chaos = retryCaseCount chaos' := by
  have hk : "retry_case_count" ∉ chaosFields := by decide
  rw [retryCaseCount, retryCaseCount, h.value_eq hk]

theorem retryTax_noLess : OkRel OptionNoLess (retryTax chaos) (retryTax chaos') := by
  have hk : "avg_token_no_retry" ∉ chaosFields := by decide
  obtain ⟨p, q, ⟨v, hv, hp⟩, ⟨w, hw, hq⟩, hle⟩ := h.fields "avg_token_with_retry" (by decide)
  rw [retryTax, retryTax, hv, hw, h.value_eq hk]
  cases chaos'.value? "avg_token_no_retry" with
  | none => exact .of_ok .none
  | some an =>
      show OkRel OptionNoLess (orOnBadValue (do
          let ar ← v.toFloat
          let an ← an.toFloat
          pure (if an.le (.fin 0) then none else some ((ar.sub an).div an))) none)
        (orOnBadValue (do
          let ar ← w.toFloat
          let an ← an.toFloat
          pure (if an.le (.fin 0) then none else some ((ar.sub an).div an))) none)
      rw [hp, hq]
      cases an.toFloat with
      | ok an =>
          apply OkRel.of_ok
          split
          · exact .none
          · next han => exact .some (PyFloat.surge_noLess hle han)
      | error e =>
          cases e with
          | typeError => exact .of_ok .none
          | valueError => exact .of_ok .none
          | _ => exact .of_error

theorem retryTaxRatio_noLess : OkRel OptionNoLess chaos.retryTaxRatio chaos'.retryTaxRatio := by
  rw [RunReport.retryTaxRatio, RunReport.retryTaxRatio, h.retryCaseCount_eq]
  cases retryCaseCount chaos' with
  | error e => exact .of_error
  | ok n =>
      show OkRel OptionNoLess (if n ≤ 0 then pure none else retryTax chaos)
        (if n ≤ 0 then pure none else retryTax chaos')
      split
      · exact .of_ok .none
      · exact h.retryTax_noLess

/-- What is read from a worse report is worse. -/
theorem readTokens_worse (baseline : RunReport) :
    OkRel TokenReadings.Worse (readTokens baseline chaos) (readTokens baseline chaos') := by
  intro r hr
  obtain ⟨b, c, x, y, hof⟩ := readTokens_eq_ok_iff.mp hr
  obtain ⟨tokens, tokens', htokens, htokens', hletokens⟩ :=
    h.fields "avg_token_per_task" (by decide)
  obtain ⟨most, most', hmost, hmost', hlemost⟩ := h.fields "max_token_per_task" (by decide)
  obtain ⟨p99, p99', hp99, hp99', hlep99⟩ := h.fields "p99_token_per_task" (by decide)
  obtain ⟨rate, rate', hrate, hrate', hlerate⟩ := h.fields "retry_rate" (by decide)
  obtain ⟨fp', hfp', hlefp⟩ := h.averageSurge_noLess baseline (by decide) _ hof.fpRatio
  obtain ⟨rp', hrp', hlerp⟩ := h.averageSurge_noLess baseline (by decide) _ hof.rpRatio
  obtain ⟨tax', htax', hletax⟩ := h.retryTaxRatio_noLess _ hof.chaosRetryTax
  obtain rfl := Except.ok.inj ((floatOr0_of_reads htokens).symm.trans hof.chaosTokens)
  obtain rfl := Except.ok.inj ((floatOr0_of_reads hrate).symm.trans hof.chaosRate)
  have hmost_eq := Except.ok.inj ((floatOr0_of_reads hmost).symm.trans hof.chaosMaxToken)
  have hp99_eq := Except.ok.inj ((floatOr0_of_reads hp99).symm.trans hof.chaosP99Token)
  refine ⟨{ r with
    tRatio := tokenSurgeRatio b (.fin tokens')
    chaosMaxToken := .fin most'
    chaosP99Token := .fin p99'
    rSurge := (PyFloat.fin rate').sub y
    fpRatio := fp'
    rpRatio := rp'
    chaosRetryTax := tax' }, readTokens_eq_ok_iff.mpr ⟨b, .fin tokens', .fin rate', y, ?_⟩, ?_⟩
  · exact
      { hof with
        chaosTokens := floatOr0_of_reads htokens'
        chaosMaxToken := floatOr0_of_reads hmost'
        chaosP99Token := floatOr0_of_reads hp99'
        chaosRate := floatOr0_of_reads hrate'
        fpRatio := hfp'
        rpRatio := hrp'
        chaosRetryN := h.retryCaseCount_eq ▸ hof.chaosRetryN
        chaosRetryTax := htax'
        tRatio := rfl
        rSurge := rfl }
  · exact
      { tRatio := hof.tRatio ▸ tokenSurgeRatio_noLess b hletokens
        chaosMaxToken := hmost_eq ▸ .inr (by simpa using hlemost)
        chaosP99Token := hp99_eq ▸ .inr (by simpa using hlep99)
        rSurge := hof.rSurge ▸ PyFloat.sub_noLess hlerate y
        fpRatio := hlefp
        rpRatio := hlerp
        baseRetryN := rfl
        chaosRetryN := rfl
        chaosRetryTax := hletax }

end Worse

/-- **The token black-hole gate is antitone.**  Where it fails on a chaos report it fails on
a worse one; where it passes it passes with higher thresholds. -/
theorem tokenGate_antitone (baseline : RunReport) {chaos chaos' : RunReport}
    (h : Worse chaos chaos') {t t' : TokenThresholds} (ht : t.Raised t') :
    (GateSays baseline chaos t false → GateSays baseline chaos' t false) ∧
      (GateSays baseline chaos t true → GateSays baseline chaos t' true) := by
  constructor
  · intro hfails
    obtain ⟨r, hr, hpass⟩ := gateSays_iff.mp hfails
    obtain ⟨r', hr', hworse⟩ := h.readTokens_worse baseline r hr
    refine gateSays_iff.mpr ⟨r', hr', ?_⟩
    by_contra hnot
    have hpass' := pass_of_worse hworse (.refl t) (Bool.eq_true_of_not_eq_false hnot)
    rw [hpass] at hpass'
    cases hpass'
  · intro hpasses
    obtain ⟨r, hr, hpass⟩ := gateSays_iff.mp hpasses
    exact gateSays_iff.mpr ⟨r, hr, pass_of_worse (.refl r) ht hpass⟩

/-! #### Two runs -/

def calmRun : RunReport :=
  [("avg_token_per_task", .float (.fin 100)), ("max_token_per_task", .float (.fin 199)),
   ("p99_token_per_task", .float (.fin 187)), ("retry_rate", .float (.fin 0)),
   ("retry_case_count", .int 0), ("avg_token_no_retry", .float (.fin 100))]

/-- A run with retries, by its average. -/
def chaosRun (tokens : ℚ) : RunReport :=
  [("avg_token_per_task", .float (.fin tokens)), ("max_token_per_task", .float (.fin 207)),
   ("p99_token_per_task", .float (.fin 196)), ("retry_rate", .float (.fin (1 / 8))),
   ("retry_case_count", .int 7), ("avg_token_rule_fail", .float (.fin 90)),
   ("avg_token_with_retry", .float (.fin 170)), ("avg_token_no_retry", .float (.fin 100))]

/-- The defaults of the comparison. -/
def defaultTokenThresholds : TokenThresholds where
  tokenSurgeMax := .fin (3 / 10)
  tokenMaxPerTaskMax := .fin 500
  tokenP99PerTaskMax := .fin 300
  retrySurgeMax := .fin (1 / 4)
  failPathSurgeMax := .fin (1 / 2)
  retryPathSurgeMax := .fin (3 / 5)
  retryTaxMax := .fin (3 / 2)

theorem worse_chaosRun {p q : ℚ} (h : p ≤ q) : Worse (chaosRun p) (chaosRun q) where
  others := by
    intro k hk
    have hne : (k == "avg_token_per_task") = false := by
      rw [beq_eq_false_iff_ne]
      rintro rfl
      exact hk List.mem_cons_self
    simp only [chaosRun, List.lookup_cons, List.lookup_nil, hne]
  fields := by
    intro k hk
    simp only [chaosFields, List.mem_cons, List.not_mem_nil, or_false] at hk
    rcases hk with rfl | rfl | rfl | rfl | rfl | rfl
    · exact ⟨p, q, ⟨_, rfl, rfl⟩, ⟨_, rfl, rfl⟩, h⟩
    · exact ⟨_, _, ⟨_, rfl, rfl⟩, ⟨_, rfl, rfl⟩, le_rfl⟩
    · exact ⟨_, _, ⟨_, rfl, rfl⟩, ⟨_, rfl, rfl⟩, le_rfl⟩
    · exact ⟨_, _, ⟨_, rfl, rfl⟩, ⟨_, rfl, rfl⟩, le_rfl⟩
    · exact ⟨_, _, ⟨_, rfl, rfl⟩, ⟨_, rfl, rfl⟩, le_rfl⟩
    · exact ⟨_, _, ⟨_, rfl, rfl⟩, ⟨_, rfl, rfl⟩, le_rfl⟩

theorem gateSays_of_map {baseline chaos : RunReport} {t : TokenThresholds} {pass : Bool}
    (h : (readTokens baseline chaos).map (fun r => r.pass t) = .ok pass) :
    GateSays baseline chaos t pass := by
  cases hr : readTokens baseline chaos with
  | error e =>
      rw [hr] at h
      cases h
  | ok r =>
      rw [hr] at h
      exact gateSays_iff.mpr ⟨r, hr, Except.ok.inj h⟩

/-- The same, and an average may double. -/
def laxThresholds : TokenThresholds := { defaultTokenThresholds with tokenSurgeMax := .fin 1 }

/-- An average that more than doubles fails, and one that grows by an eighth passes a higher
bound. -/
theorem tokenGate_antitone_runs :
    GateSays calmRun (chaosRun 250) defaultTokenThresholds false ∧
      GateSays calmRun (chaosRun 112) laxThresholds true := by
  have hhigher : defaultTokenThresholds.Raised laxThresholds :=
    { TokenThresholds.Raised.refl defaultTokenThresholds with
      tokenSurgeMax := .inr (by decide +kernel) }
  constructor
  · have hworse : Worse (chaosRun 200) (chaosRun 250) := worse_chaosRun (by norm_num)
    apply (tokenGate_antitone calmRun hworse hhigher).1
    exact gateSays_of_map (by decide +kernel)
  · apply (tokenGate_antitone calmRun (worse_chaosRun (le_refl (112 : ℚ))) hhigher).2
    exact gateSays_of_map (by decide +kernel)

end ChaosDemo
