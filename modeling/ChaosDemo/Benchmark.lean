/-
ChaosDemo/Benchmark.lean

The latency percentiles of a benchmark run (benchmark_compare.py).  They are the hundred
cuts of the sample by `statistics.quantiles`, whose exclusive method lets a cut lie outside
a short sample:

    cut of rank r    position r (len + 1) / 100    below entry 1 or above entry len
                                                   the outermost line goes on

The percentiles of one run are in order at every length.  The last one stays below the
slowest request from 99 requests on.
-/
import ChaosDemo.Builtins
import ChaosDemo.Quantiles
import Mathlib.Data.Rat.Floor
import Mathlib.Tactic.NormNum

namespace ChaosDemo

/-! ### The percentiles of a run -/

/-- `statistics.quantiles`, by the exclusive method. -/
def quantiles (data : List ℚ) (n : ℕ) : Except PyError (List ℚ) :=
  if n < 1 then .error (.raised "StatisticsError" "n must be at least 1")
  else if data.length < 2 then
    .error (.raised "StatisticsError" "must have at least two data points")
  else
    .ok ((List.range (n - 1)).map fun i =>
      cutAt (sampleOf data) (data.length - 1) n ((i + 1) * (data.length + 1)))

/-- The rank of a percentage among the cuts. -/
def rankOf (pct : ℚ) : ℕ := (max 1 (min (pyInt pct) 99)).toNat

/-- `_percentile`. -/
def percentile (latencies : List ℚ) (pct : ℚ) : Except PyError ℚ :=
  match latencies with
  | [] => .ok 0
  | [latency] => .ok latency
  | _ => do
      let cuts ← quantiles latencies 100
      match cuts[rankOf pct - 1]? with
      | some cut => .ok cut
      | none => .error (.raised "IndexError" "list index out of range")

/-- `status_count[status] = status_count.get(status, 0) + 1`. -/
def bumpStatus (counts : List (ℤ × ℕ)) (status : ℤ) : List (ℤ × ℕ) :=
  match counts with
  | [] => [(status, 1)]
  | (s, n) :: rest => if s = status then (s, n + 1) :: rest else (s, n) :: bumpStatus rest status

/-- The report of one run. -/
structure BenchmarkRun where
  qps : ℚ
  p50Ms : ℚ
  p95Ms : ℚ
  p99Ms : ℚ
  successRate : ℚ
  degradedRate : ℚ
  limitedRate : ℚ
  errorRate : ℚ
  statusCount : List (ℤ × ℕ)
  elapsedS : ℚ
  requestCount : ℕ
  runLabel : String

/-- `run_benchmark`, over what the `total_requests` calls of `one_request` answered in the
    order of their completion (status and latency) and over the time that passed. -/
def runBenchmark (completed : List (ℤ × ℚ)) (elapsed : ℚ) (concurrency : ℤ)
    (runLabel : String) : Except PyError BenchmarkRun := do
  let totalRequests := completed.length
  if totalRequests < 1 then .error .valueError
  else if concurrency < 1 then .error .valueError
  else
    let latencies := completed.map Prod.snd
    let statusCount := (completed.map Prod.fst).foldl bumpStatus []
    let get (status : ℤ) : ℕ := (statusCount.lookup status).getD 0
    let success := get 201 + get 200
    let degraded := get 202
    let limited := get 429
    let errors := ((statusCount.filter fun entry => 500 ≤ entry.1 ∨ entry.1 = 0).map
      Prod.snd).sum
    let p50 ← percentile latencies 50
    let p95 ← percentile latencies 95
    let p99 ← percentile latencies 99
    .ok {
      qps := if 0 < elapsed then totalRequests / elapsed else 0
      p50Ms := p50
      p95Ms := p95
      p99Ms := p99
      successRate := success / totalRequests
      degradedRate := degraded / totalRequests
      limitedRate := limited / totalRequests
      errorRate := errors / totalRequests
      statusCount := statusCount
      elapsedS := elapsed
      requestCount := totalRequests
      runLabel := runLabel }

/-! ### Ranks -/

theorem rankOf_bounds (pct : ℚ) : 1 ≤ rankOf pct ∧ rankOf pct ≤ 99 := by
  unfold rankOf
  omega

theorem pyInt_mono {x y : ℚ} (hx : 0 ≤ x) (h : x ≤ y) : pyInt x ≤ pyInt y := by
  rw [pyInt_of_nonneg hx, pyInt_of_nonneg (hx.trans h)]
  exact Int.floor_le_floor h

theorem rankOf_mono {p q : ℚ} (hp : 0 ≤ p) (h : p ≤ q) : rankOf p ≤ rankOf q := by
  have hint := pyInt_mono hp h
  unfold rankOf
  omega

@[simp] theorem rankOf_natCast {n : ℕ} (h1 : 1 ≤ n) (h99 : n ≤ 99) :
    rankOf (n : ℚ) = n := by
  have hint : pyInt (n : ℚ) = n := by
    rw [← Int.cast_natCast, pyInt_intCast]
  rw [rankOf, hint]
  omega

/-! ### Percentiles of a sample -/

/-- From two latencies on a percentile is the cut of its rank. -/
theorem percentile_eq {latencies : List ℚ} (h : 2 ≤ latencies.length) (pct : ℚ) :
    percentile latencies pct = .ok (cutAt (sampleOf latencies) (latencies.length - 1) 100
      (rankOf pct * (latencies.length + 1))) := by
  obtain ⟨h1, h99⟩ := rankOf_bounds pct
  match latencies, h with
  | x :: y :: rest, h =>
      have hlen : ¬ (x :: y :: rest).length < 2 := by omega
      have hrank : rankOf pct - 1 < 99 := by omega
      have hsucc : rankOf pct - 1 + 1 = rankOf pct := by omega
      simp only [percentile, quantiles, if_neg hlen]
      simp [bind, Except.bind, hrank, hsucc]

/-- The percentage's cut is not before the first latency. -/
def ReachesFirst (latencies : List ℚ) (lo p : ℚ) : Prop :=
  latencies.length = 1 ∨ 100 ≤ rankOf p * (latencies.length + 1) ∨ 2 ≤ latencies.count lo

/-- The percentage's cut is not after the last latency. -/
def WithinLast (latencies : List ℚ) (hi p : ℚ) : Prop :=
  latencies.length = 1 ∨ rankOf p * (latencies.length + 1) ≤ 100 * latencies.length ∨
    2 ≤ latencies.count hi

section Sample

variable {latencies : List ℚ} {lo hi p q : ℚ}

theorem length_cases (hlo : IsLeast {x | x ∈ latencies} lo) :
    latencies = [lo] ∨ 2 ≤ latencies.length := by
  match latencies, hlo.1 with
  | [x], hmem =>
      left
      rw [List.mem_singleton.mp hmem]
  | x :: y :: rest, _ =>
      right
      simp

theorem percentile_mono (hlo : IsLeast {x | x ∈ latencies} lo) (hp : 1 ≤ p) (hpq : p ≤ q) :
    ∃ a b, percentile latencies p = .ok a ∧ percentile latencies q = .ok b ∧ a ≤ b := by
  rcases length_cases hlo with rfl | hlen
  · exact ⟨lo, lo, rfl, rfl, le_rfl⟩
  · refine ⟨_, _, percentile_eq hlen p, percentile_eq hlen q, ?_⟩
    have hrank : rankOf p ≤ rankOf q := rankOf_mono (zero_le_one.trans hp) hpq
    exact cutAt_mono (sampleOf_ascending (by omega)) (by omega) (by norm_num)
      (Nat.mul_le_mul_right _ hrank)

theorem le_percentile_iff (hlo : IsLeast {x | x ∈ latencies} lo) {a : ℚ}
    (ha : percentile latencies p = .ok a) : lo ≤ a ↔ ReachesFirst latencies lo p := by
  rcases length_cases hlo with rfl | hlen
  · obtain rfl : lo = a := Except.ok.inj ha
    exact ⟨fun _ => .inl rfl, fun _ => le_rfl⟩
  · rw [percentile_eq hlen] at ha
    rw [← Except.ok.inj ha, ← sampleOf_first hlo,
      le_cutAt_iff (sampleOf_ascending (by omega)) (by omega) (by norm_num),
      sampleOf_one_iff hlo hlen, sampleOf_first hlo]
    unfold ReachesFirst
    have hne : latencies.length ≠ 1 := by omega
    simp only [hne, false_or]

theorem percentile_le_iff (hlo : IsLeast {x | x ∈ latencies} lo)
    (hhi : IsGreatest {x | x ∈ latencies} hi) {b : ℚ}
    (hb : percentile latencies q = .ok b) : b ≤ hi ↔ WithinLast latencies hi q := by
  rcases length_cases hlo with rfl | hlen
  · obtain rfl : lo = b := Except.ok.inj hb
    exact ⟨fun _ => .inl rfl, fun _ => hhi.2 hlo.1⟩
  · rw [percentile_eq hlen] at hb
    have hpos : latencies.length - 1 + 1 = latencies.length := by omega
    rw [← Except.ok.inj hb, ← sampleOf_final hhi,
      cutAt_le_iff (sampleOf_ascending (by omega)) (by omega) (by norm_num),
      sampleOf_penultimate_iff hhi hlen, sampleOf_final hhi, hpos, Nat.mul_comm _ 100]
    unfold WithinLast
    have hne : latencies.length ≠ 1 := by omega
    simp only [hne, false_or]

end Sample

/-- The last percentile of a run is within its latencies from 99 requests on. -/
theorem withinLast_p99_iff {latencies : List ℚ} {hi : ℚ} :
    WithinLast latencies hi 99 ↔
      latencies.length = 1 ∨ 99 ≤ latencies.length ∨ 2 ≤ latencies.count hi := by
  have hrank : rankOf 99 = 99 := by
    simpa using rankOf_natCast (n := 99) (by norm_num) (by norm_num)
  have hlen : 99 * (latencies.length + 1) ≤ 100 * latencies.length ↔
      99 ≤ latencies.length := by omega
  rw [WithinLast, hrank, hlen]

/-- Where a run is reported, its percentiles are those of its latencies. -/
theorem percentiles_of_runBenchmark {completed : List (ℤ × ℚ)} {elapsed : ℚ}
    {concurrency : ℤ} {runLabel : String} {run : BenchmarkRun}
    (h : runBenchmark completed elapsed concurrency runLabel = .ok run) :
    percentile (completed.map Prod.snd) 50 = .ok run.p50Ms ∧
      percentile (completed.map Prod.snd) 95 = .ok run.p95Ms ∧
      percentile (completed.map Prod.snd) 99 = .ok run.p99Ms := by
  unfold runBenchmark at h
  simp only at h
  split at h
  · cases h
  · split at h
    · cases h
    · obtain ⟨p50, h50, h⟩ := bind_eq_ok_iff.mp h
      obtain ⟨p95, h95, h⟩ := bind_eq_ok_iff.mp h
      obtain ⟨p99, h99, h⟩ := bind_eq_ok_iff.mp h
      obtain rfl := Except.ok.inj h
      exact ⟨h50, h95, h99⟩

/-! ### Order and bounds -/

/-- The percentiles of a sample are in the order of their percentages.  They are at least
    the smallest latency and at most the largest one exactly where their cuts lie between
    these two, or where the two outermost latencies on that side are equal.  In the report
    of a run p50, p95 and p99 are in order, p50 is at least the fastest request, and p99 is
    at most the slowest one exactly with one request, with 99 or more, or with two that are
    the slowest. -/
theorem benchmarkPercentiles_ordered :
    (∀ (latencies : List ℚ) (lo hi p q : ℚ), IsLeast {x | x ∈ latencies} lo →
      IsGreatest {x | x ∈ latencies} hi → 1 ≤ p → p ≤ q → q ≤ 99 →
      ∃ a b, percentile latencies p = .ok a ∧ percentile latencies q = .ok b ∧ a ≤ b ∧
        (lo ≤ a ↔ ReachesFirst latencies lo p) ∧ (b ≤ hi ↔ WithinLast latencies hi q)) ∧
    ∀ (completed : List (ℤ × ℚ)) (elapsed : ℚ) (concurrency : ℤ) (runLabel : String)
      (run : BenchmarkRun) (fastest slowest : ℚ),
      runBenchmark completed elapsed concurrency runLabel = .ok run →
      IsLeast {x | x ∈ completed.map Prod.snd} fastest →
      IsGreatest {x | x ∈ completed.map Prod.snd} slowest →
      fastest ≤ run.p50Ms ∧ run.p50Ms ≤ run.p95Ms ∧ run.p95Ms ≤ run.p99Ms ∧
        (run.p99Ms ≤ slowest ↔ completed.length = 1 ∨ 99 ≤ completed.length ∨
          2 ≤ (completed.map Prod.snd).count slowest) := by
  constructor
  · intro latencies lo hi p q hlo hhi hp hpq _
    obtain ⟨a, b, ha, hb, hab⟩ := percentile_mono hlo hp hpq
    exact ⟨a, b, ha, hb, hab, le_percentile_iff hlo ha, percentile_le_iff hlo hhi hb⟩
  · intro completed elapsed concurrency runLabel run fastest slowest hrun hlo hhi
    obtain ⟨h50, h95, h99⟩ := percentiles_of_runBenchmark hrun
    obtain ⟨a, b, ha, hb, hab⟩ := percentile_mono (p := 50) (q := 95) hlo (by norm_num)
      (by norm_num)
    obtain ⟨b', c, hb', hc, hbc⟩ := percentile_mono (p := 95) (q := 99) hlo (by norm_num)
      (by norm_num)
    obtain rfl : a = run.p50Ms := Except.ok.inj (ha.symm.trans h50)
    obtain rfl : b = run.p95Ms := Except.ok.inj (hb.symm.trans h95)
    obtain rfl : b' = run.p95Ms := Except.ok.inj (hb'.symm.trans h95)
    obtain rfl : c = run.p99Ms := Except.ok.inj (hc.symm.trans h99)
    have hrank : rankOf 50 = 50 := by
      simpa using rankOf_natCast (n := 50) (by norm_num) (by norm_num)
    have hfirst : ReachesFirst (completed.map Prod.snd) fastest 50 := by
      have hlen : 0 < (completed.map Prod.snd).length := List.length_pos_of_mem hlo.1
      right
      left
      rw [hrank]
      omega
    refine ⟨(le_percentile_iff hlo h50).mpr hfirst, hab, hbc, ?_⟩
    rw [percentile_le_iff hlo hhi h99, withinLast_p99_iff, List.length_map]

/-- Two requests of 10 and 20 ms: p50 is 15 ms. -/
theorem benchmarkPercentiles_twoRequests :
    ∃ a b, percentile [10, 20] 50 = .ok a ∧ percentile [10, 20] 50 = .ok b ∧ a ≤ b ∧
      (10 ≤ a ↔ ReachesFirst [10, 20] 10 50) ∧ (b ≤ 20 ↔ WithinLast [10, 20] 20 50) :=
  benchmarkPercentiles_ordered.1 [10, 20] 10 20 50 50
    ⟨by simp, by norm_num [lowerBounds]⟩ ⟨by simp, by norm_num [upperBounds]⟩
    (by norm_num) (by norm_num) (by norm_num)

/-- Two requests of 10 and 20 ms: p99 is 29.7 ms, later than the slowest request. -/
theorem percentile_beyond_slowest :
    ¬ ∀ (latencies : List ℚ) (lo hi p q : ℚ), IsLeast {x | x ∈ latencies} lo →
      IsGreatest {x | x ∈ latencies} hi → 1 ≤ p → p ≤ q → q ≤ 99 →
      ∃ a b, percentile latencies p = .ok a ∧ percentile latencies q = .ok b ∧
        lo ≤ a ∧ a ≤ b ∧ b ≤ hi := by
  intro h
  have hleast : IsLeast {x : ℚ | x ∈ [10, 20]} 10 := ⟨by simp, by norm_num [lowerBounds]⟩
  have hgreatest : IsGreatest {x : ℚ | x ∈ [10, 20]} 20 :=
    ⟨by simp, by norm_num [upperBounds]⟩
  obtain ⟨a, b, -, hb, -, -, hle⟩ := h [10, 20] 10 20 99 99 hleast hgreatest (by norm_num)
    le_rfl le_rfl
  rw [percentile_le_iff hleast hgreatest hb, withinLast_p99_iff] at hle
  norm_num at hle

end ChaosDemo
