/-
ChaosDemo/ScoreConsistency.lean

What the parts of a report say of each other (ai_platform/evaluation: evaluator.py, metrics).
Without a judge every metric is a count, a mean or a table of the outcomes of the cases, so

  - the rates of the dimensions, weighted by their cases, give the rates of the report;
  - counts that part the cases add up to their number;
  - every case with something wrong is in the review pool, once for each reason;
  - no metric depends on the order of the cases (`report_perm`).
-/
import Mathlib.Algebra.BigOperators.Ring.List
import Mathlib.Data.List.Perm.Basic
import ChaosDemo.ScoreLoop

namespace ChaosDemo

/-! ### Without the order -/

section Perm

variable {α β ε : Type}

/-- A loop that returns on a list returns on every order of it. -/
theorem mapM_perm {f : α → Except ε β} {l l' : List α} {ys : List β} (h : l.Perm l')
    (hys : l.mapM f = .ok ys) : ∃ ys', l'.mapM f = .ok ys' ∧ ys'.Perm ys := by
  obtain ⟨ys', hys', hperm⟩ := List.perm_comp_forall₂ h.symm (mapM_eq_ok_iff.mp hys)
  exact ⟨ys', mapM_eq_ok_iff.mpr hys', hperm⟩

theorem pySum_perm {l l' : List Json} {q : ℚ} (h : l.Perm l') (hq : pySum l = .ok q) :
    pySum l' = .ok q := by
  obtain ⟨qs, hqs, hsum⟩ := bind_eq_ok_iff.mp hq
  obtain ⟨qs', hqs', hperm⟩ := mapM_perm h hqs
  obtain rfl := Except.ok.inj hsum
  rw [pySum, hqs', ← hperm.sum_eq]
  rfl

theorem avgOrNone_perm {l l' : List Json} {a : Option ℚ} (h : l.Perm l')
    (ha : avgOrNone l = .ok a) : avgOrNone l' = .ok a := by
  unfold avgOrNone at ha ⊢
  by_cases hl : l = []
  · subst hl
    rw [List.nil_perm.mp h]
    exact ha
  · have hl' : l' ≠ [] := fun hnil => hl (List.perm_nil.mp (hnil ▸ h))
    rw [if_neg hl] at ha
    rw [if_neg hl']
    cases hsum : pySum l with
    | error e =>
        rw [hsum] at ha
        cases ha
    | ok q =>
        rw [hsum] at ha
        rw [pySum_perm h hsum, ← ha, h.length_eq]

theorem percentileOrNone_perm {l l' : List Json} {p : ℚ} {a : Option ℚ} (h : l.Perm l')
    (ha : percentileOrNone l p = .ok a) : percentileOrNone l' p = .ok a := by
  unfold percentileOrNone at ha ⊢
  obtain ⟨arr, harr, ha⟩ := bind_eq_ok_iff.mp ha
  obtain ⟨arr', harr', hperm⟩ := mapM_perm h harr
  have hsorted : arr'.insertionSort (· ≤ ·) = arr.insertionSort (· ≤ ·) :=
    List.Perm.eq_of_pairwise' (List.pairwise_insertionSort _ _) (List.pairwise_insertionSort _ _)
      ((List.perm_insertionSort _ _).trans (hperm.trans (List.perm_insertionSort _ _).symm))
  rw [harr', ok_bind, ← ha, hsorted, hperm.length_eq]
  have hnil : arr' = [] ↔ arr = [] := by
    rw [← List.length_eq_zero_iff, hperm.length_eq, List.length_eq_zero_iff]
  simp only [hnil]

theorem numeric_of_pySum {l : List Json} {q : ℚ} (h : pySum l = .ok q) :
    ∀ v ∈ l, v.number?.isSome = true := by
  obtain ⟨qs, hqs, -⟩ := bind_eq_ok_iff.mp h
  have hall := mapM_eq_ok_iff.mp hqs
  clear hqs h
  induction hall with
  | nil => simp
  | cons hv _ ih =>
      refine List.forall_mem_cons.mpr ⟨?_, ih⟩
      unfold Json.numeric at hv
      split at hv
      · next hnum => rw [hnum]; rfl
      · cases hv

/-- The largest value is one of the values, and none is larger. -/
theorem pyMax_spec {l : List Json} (h : l ≠ []) :
    pyMax l ∈ l ∧ ∀ v ∈ l, v.number?.getD 0 ≤ (pyMax l).number?.getD 0 := by
  have hfold : ∀ (l : List Json) (best : Json), let m := l.foldl (fun best w =>
      if best.number?.getD 0 < w.number?.getD 0 then w else best) best
      m ∈ best :: l ∧ ∀ v ∈ best :: l, v.number?.getD 0 ≤ m.number?.getD 0 := by
    intro l
    induction l with
    | nil => simp
    | cons w l ih =>
        intro best
        rw [List.foldl_cons]
        by_cases hlt : best.number?.getD 0 < w.number?.getD 0
        · rw [if_pos hlt]
          obtain ⟨hmem, hle⟩ := ih w
          refine ⟨List.mem_cons_of_mem best hmem, List.forall_mem_cons.mpr ⟨?_, hle⟩⟩
          exact hlt.le.trans (hle w List.mem_cons_self)
        · rw [if_neg hlt]
          obtain ⟨hmem, hle⟩ := ih best
          obtain ⟨hbest, hrest⟩ := List.forall_mem_cons.mp hle
          refine ⟨?_, List.forall_mem_cons.mpr ⟨hbest, List.forall_mem_cons.mpr ⟨?_, hrest⟩⟩⟩
          · rcases List.mem_cons.mp hmem with hmem | hmem
            · rw [hmem]
              exact List.mem_cons_self
            · exact List.mem_cons_of_mem _ (List.mem_cons_of_mem w hmem)
          · exact (not_lt.mp hlt).trans hbest
  cases l with
  | nil => exact absurd rfl h
  | cons v l => exact hfold l v

theorem pyEq_of_number {a b : Json} {q : ℚ} (ha : a.number? = some q) (hb : b.number? = some q) :
    a.pyEq b = true := by
  cases a with
  | bool x => rw [Json.pyEq, ha, hb, beq_self_eq_true]
  | int x => rw [Json.pyEq, ha, hb, beq_self_eq_true]
  | num x => rw [Json.pyEq, ha, hb, beq_self_eq_true]
  | null => cases ha
  | str s => cases ha
  | arr items => cases ha
  | obj fields => cases ha

/-- The largest value of another order is the same number. -/
theorem pyMax_perm {l l' : List Json} {q : ℚ} (hne : l ≠ []) (h : l.Perm l')
    (hq : pySum l = .ok q) : (pyMax l').pyEq (pyMax l) = true := by
  have hne' : l' ≠ [] := fun hnil => hne (List.perm_nil.mp (hnil ▸ h))
  obtain ⟨hmem, hle⟩ := pyMax_spec hne
  obtain ⟨hmem', hle'⟩ := pyMax_spec hne'
  obtain ⟨x, hx⟩ := Option.isSome_iff_exists.mp (numeric_of_pySum hq _ hmem)
  obtain ⟨y, hy⟩ := Option.isSome_iff_exists.mp (numeric_of_pySum hq _ (h.mem_iff.mpr hmem'))
  have hxy := hle' _ (h.mem_iff.mp hmem)
  have hyx := hle _ (h.mem_iff.mpr hmem')
  rw [hx, hy] at hxy hyx
  obtain rfl : x = y := le_antisymm hxy hyx
  exact pyEq_of_number hy hx

/-- Dictionaries with the same fields in two orders are equal. -/
theorem pyEq_obj_of_perm {d d' : Dict} (hnodup : (Table.keys d').Nodup) (h : d.Perm d')
    (hself : ∀ f ∈ d, f.2.pyEq f.2 = true) : (Json.obj d).pyEq (.obj d') = true := by
  have hfields : ∀ e : Dict, e ⊆ d' → (∀ f ∈ e, f.2.pyEq f.2 = true) →
      Json.pyEqFields e d' = true := by
    intro e
    induction e with
    | nil => exact fun _ _ => by rw [Json.pyEqFields]
    | cons f e ih =>
        intro hsub heq
        obtain ⟨hf, hsub⟩ := List.cons_subset.mp hsub
        obtain ⟨hfself, heq⟩ := List.forall_mem_cons.mp heq
        rw [Json.pyEqFields, Table.lookup_of_mem hnodup hf, ih hsub heq, Bool.and_true]
        exact hfself
  rw [Json.pyEq, h.length_eq, beq_self_eq_true, Bool.true_and]
  exact hfields d h.subset hself

end Perm

/-! ### The dimensions -/

/-- The entry of a dimension with these outcomes. -/
def DimensionStats.of (os : List CaseOutcome) : DimensionStats where
  cases := os.length
  toolScores := os.map fun o => (o.reading.toolScore : ℚ)
  argScores := os.map (·.reading.argScore)
  taskSuccess := os.countP (·.reading.rulePass)
  hallucinationFlags := os.countP (!·.findings.isEmpty)
  permissionCorrect := os.countP (·.permissionOk == some true)
  permissionCases := os.countP (·.permissionOk.isSome)

theorem DimensionStats.foldl_add (os : List CaseOutcome) :
    os.foldl DimensionStats.add {} = DimensionStats.of os := by
  induction os using List.reverseRecOn with
  | nil => rfl
  | append_singleton os o ih =>
      rw [List.foldl_concat, ih]
      simp only [DimensionStats.add, DimensionStats.of, countP_add_oneIf, List.length_append,
        List.length_singleton, List.map_append, List.map_singleton]

theorem DimensionStats.breakdown_perm {os os' : List CaseOutcome} (h : os.Perm os') :
    (DimensionStats.of os).breakdown = (DimensionStats.of os').breakdown := by
  have htool := (h.map fun o => (o.reading.toolScore : ℚ)).sum_eq
  have harg := (h.map (·.reading.argScore)).sum_eq
  have hpermission := h.countP_eq fun o => o.permissionOk.isSome
  unfold DimensionStats.breakdown DimensionStats.of
  dsimp only
  rw [hpermission, htool, harg, List.length_map, List.length_map, List.length_map,
    List.length_map, h.length_eq, h.countP_eq, h.countP_eq, h.countP_eq]

theorem meanOrNone_self (total : ℚ) (n : ℕ) :
    (meanOrNone total n).pyEq (meanOrNone total n) = true := by
  unfold meanOrNone
  split
  · rw [Json.pyEq]
  · rw [Json.pyEq, beq_self_eq_true]

theorem DimensionStats.breakdown_self (s : DimensionStats) :
    (Json.obj s.breakdown).pyEq (.obj s.breakdown) = true := by
  have hkeys : (Table.keys s.breakdown).Nodup := by
    unfold DimensionStats.breakdown
    split
    · show ["cases", "tool_selection_accuracy", "arg_accuracy", "task_success_rate",
        "hallucination_rate"].Nodup
      decide
    · show ["cases", "tool_selection_accuracy", "arg_accuracy", "task_success_rate",
        "hallucination_rate", "permission_denial_accuracy"].Nodup
      decide
  refine pyEq_obj_of_perm hkeys (List.Perm.refl _) fun f hf => ?_
  unfold DimensionStats.breakdown at hf
  rcases List.mem_append.mp hf with hf | hf
  · simp only [List.mem_cons, List.not_mem_nil, or_false] at hf
    rcases hf with rfl | rfl | rfl | rfl | rfl
    · rw [Json.pyEq, beq_self_eq_true]
    · exact meanOrNone_self _ _
    · exact meanOrNone_self _ _
    · exact meanOrNone_self _ _
    · exact meanOrNone_self _ _
  · split at hf
    · cases hf
    · rw [List.mem_singleton.mp hf, Json.pyEq, beq_self_eq_true]

/-! ### The report of another order -/

/-- Equal, as Python compares values. -/
def SameValue (v w : Json) : Prop := v = w ∨ v.pyEq w = true

@[simp] theorem sameValue_self (v : Json) : SameValue v v := .inl rfl

/-- The same metrics under the same names. -/
def SameMetrics (m m' : Dict) : Prop :=
  List.Forall₂ (fun f f' => f.1 = f'.1 ∧ SameValue f.2 f'.2) m m'

section Report

variable {self : ScoreEvaluator} {env : ScoreEnv} {os os' : List CaseOutcome}

theorem retryTaxRatio_perm (h : os.Perm os') {a : Option ℚ}
    (ha : retryTaxRatio (Tally.of os) = .ok a) : retryTaxRatio (Tally.of os') = .ok a := by
  have hretry : (Tally.of os).tokensWithRetry.Perm (Tally.of os').tokensWithRetry :=
    (h.filter _).map _
  have hnone : (Tally.of os).tokensNoRetry.Perm (Tally.of os').tokensNoRetry :=
    (h.filter _).map _
  unfold retryTaxRatio at ha ⊢
  by_cases hnil : (Tally.of os).tokensWithRetry = []
  · have hnil' : (Tally.of os').tokensWithRetry = [] := List.nil_perm.mp (hnil ▸ hretry)
    rw [if_pos hnil] at ha
    rwa [if_pos hnil']
  · have hnil' : (Tally.of os').tokensWithRetry ≠ [] := fun hnil' =>
      hnil (List.perm_nil.mp (hnil' ▸ hretry))
    rw [if_neg hnil] at ha
    obtain ⟨ar, har, ha⟩ := bind_eq_ok_iff.mp ha
    obtain ⟨an, han, ha⟩ := bind_eq_ok_iff.mp ha
    rw [if_neg hnil', avgOrNone_perm hretry har, avgOrNone_perm hnone han]
    exact ha

/-- A table of counts by kind is the same after sorting. -/
theorem sortedCounts_perm {a b : List (String × Json)} (h : a.Perm b)
    (hnodup : (Table.keys b).Nodup) (hself : ∀ f ∈ a, f.2.pyEq f.2 = true) :
    (Json.obj (Dict.sortKeys a)).pyEq (.obj (Dict.sortKeys b)) = true := by
  have ha : (Dict.sortKeys a).Perm a := List.perm_insertionSort _ a
  have hb : (Dict.sortKeys b).Perm b := List.perm_insertionSort _ b
  refine pyEq_obj_of_perm ?_ (ha.trans (h.trans hb.symm)) fun f hf => hself f (ha.subset hf)
  exact (hb.map Prod.fst).nodup_iff.mpr hnodup

theorem foldl_count {α : Type} (l : List α) (n : ℕ) : l.foldl (fun n _ => n + 1) n = n + l.length := by
  induction l generalizing n with
  | nil => rfl
  | cons a l ih => rw [List.foldl_cons, ih, List.length_cons, Nat.add_right_comm, Nat.add_assoc]

/-- `hallucination_breakdown`. -/
def hallucinationBreakdown (t : Tally) : Json :=
  .obj (Dict.sortKeys (t.hallucinationKinds.map fun c => (c.1, Json.int c.2)))

theorem hallucinationBreakdown_perm (h : os.Perm os') :
    (hallucinationBreakdown (Tally.of os')).pyEq (hallucinationBreakdown (Tally.of os)) = true := by
  have hcount : ∀ fs fs' : List FabricationFinding, fs.Perm fs' →
      Json.int (fs.foldl (fun n _ => n + 1) 0 : ℕ) =
        Json.int (fs'.foldl (fun n _ => n + 1) 0 : ℕ) := by
    intro fs fs' hfs
    rw [foldl_count, foldl_count, hfs.length_eq]
  have htable := Table.tabulate_perm FabricationFinding.kind (g := fun n : ℕ => Json.int n)
    hcount (h.symm.flatMap_right (·.findings))
  have hkeys : (Table.keys (Tally.of os).hallucinationKinds).Nodup :=
    Table.nodup_keys_tabulate (os.flatMap (·.findings))
  refine sortedCounts_perm htable ?_ ?_
  · rw [Table.keys, List.map_map]
    exact hkeys
  · intro f hf
    obtain ⟨c, -, rfl⟩ := List.mem_map.mp hf
    exact (Json.pyEq.eq_def _ _).trans (beq_self_eq_true _)

/-- `dimension_breakdown`. -/
def dimensionBreakdown (t : Tally) : Json :=
  .obj (t.dimensionStats.map fun s => (s.1, Json.obj s.2.breakdown))

theorem dimensionBreakdown_perm (h : os.Perm os') :
    (dimensionBreakdown (Tally.of os')).pyEq (dimensionBreakdown (Tally.of os)) = true := by
  have hentry : ∀ os os' : List CaseOutcome, os.Perm os' →
      Json.obj (os.foldl DimensionStats.add {}).breakdown =
        Json.obj (os'.foldl DimensionStats.add {}).breakdown := by
    intro os os' hos
    rw [DimensionStats.foldl_add, DimensionStats.foldl_add, DimensionStats.breakdown_perm hos]
  have htable := Table.tabulate_perm CaseOutcome.dimension
    (g := fun s => Json.obj (DimensionStats.breakdown s)) hentry h.symm
  refine pyEq_obj_of_perm ?_ htable ?_
  · rw [Table.keys, List.map_map]
    exact Table.nodup_keys_tabulate os
  · intro f hf
    obtain ⟨s, -, rfl⟩ := List.mem_map.mp hf
    exact DimensionStats.breakdown_self s.2

/-- The report on the cases in another order has the same metrics. -/
theorem report_perm {batch batch' : Dict} {total : ℕ} {m : Dict} (hne : os ≠ [])
    (h : os.Perm os') (hget : ∀ k, k ≠ "cases" → batch'.get k = batch.get k)
    (hgetD : ∀ k, k ≠ "cases" → ∀ v, batch'.getD k v = batch.getD k v)
    (hm : self.report env batch total (Tally.of os) = .ok m) :
    ∃ m', self.report env batch' total (Tally.of os') = .ok m' ∧ SameMetrics m' m := by
  simp only [ScoreEvaluator.report, bind_eq_ok_iff] at hm
  obtain ⟨taxRatio, htax, calls, hcalls, tokens, htokens, p99, hp99, estimated, hestimated,
    rulePass, hpass, ruleFail, hfail, withRetry, hretry, noRetry, hno, taxMax, hmax, hreport⟩ := hm
  obtain rfl := Except.ok.inj hreport
  have hperm : (Tally.of os).tokens.Perm (Tally.of os').tokens := h.map _
  have hcalls' : pySum (Tally.of os').callCounts = .ok calls := pySum_perm (h.map _) hcalls
  have htokens' : pySum (Tally.of os').tokens = .ok tokens := pySum_perm hperm htokens
  have hp99' : percentileOrNone (Tally.of os').tokens 99 = .ok p99 :=
    percentileOrNone_perm hperm hp99
  have hestimated' : pySum (Tally.of os').tokensEstimated = .ok estimated :=
    pySum_perm (h.map _) hestimated
  have hpass' : avgOrNone (Tally.of os').tokensRulePass = .ok rulePass :=
    avgOrNone_perm ((h.filter _).map _) hpass
  have hfail' : avgOrNone (Tally.of os').tokensRuleFail = .ok ruleFail :=
    avgOrNone_perm ((h.filter _).map _) hfail
  have hretry' : avgOrNone (Tally.of os').tokensWithRetry = .ok withRetry :=
    avgOrNone_perm ((h.filter _).map _) hretry
  have hno' : avgOrNone (Tally.of os').tokensNoRetry = .ok noRetry :=
    avgOrNone_perm ((h.filter _).map _) hno
  have hlargest : SameValue
      (if (Tally.of os').tokens = [] then .int 0 else pyMax (Tally.of os').tokens)
      (if (Tally.of os).tokens = [] then .int 0 else pyMax (Tally.of os).tokens) := by
    have htokensNe : (Tally.of os).tokens ≠ [] := mt List.map_eq_nil_iff.mp hne
    have htokensNe' : (Tally.of os').tokens ≠ [] := fun hnil =>
      htokensNe (List.perm_nil.mp (hnil ▸ hperm))
    rw [if_neg htokensNe, if_neg htokensNe']
    exact .inr (pyMax_perm htokensNe hperm htokens)
  have hcount : ∀ p : CaseOutcome → Bool, os'.countP p = os.countP p := fun p =>
    (h.countP_eq p).symm
  have htool : (Tally.of os').toolScores.sum = (Tally.of os).toolScores.sum :=
    (h.map _).sum_eq.symm
  have harg : (Tally.of os').argScores.sum = (Tally.of os).argScores.sum :=
    (h.map _).sum_eq.symm
  have hretries : (Tally.of os').retries.countP (fun x => decide (0 < x)) =
      (Tally.of os).retries.countP (fun x => decide (0 < x)) := ((h.map _).countP_eq _).symm
  have hllm : (Tally.of os').tokensLlm.sum = (Tally.of os).tokensLlm.sum :=
    (h.flatMap_right _).sum_eq.symm
  have hllmLength : (Tally.of os').tokensLlm.length = (Tally.of os).tokensLlm.length :=
    (h.flatMap_right _).length_eq.symm
  have hfindings : (Tally.of os').hallucinationFindingCount =
      (Tally.of os).hallucinationFindingCount := (h.map _).sum_eq.symm
  have hfailed : (Tally.of os').tokensRuleFail.length = (Tally.of os).tokensRuleFail.length :=
    ((h.filter _).map _).length_eq.symm
  have hretried : (Tally.of os').tokensWithRetry.length = (Tally.of os).tokensWithRetry.length :=
    ((h.filter _).map _).length_eq.symm
  have hplain : (Tally.of os').tokensNoRetry.length = (Tally.of os).tokensNoRetry.length :=
    ((h.filter _).map _).length_eq.symm
  have hpool : (Tally.of os').reviewPool.length = (Tally.of os).reviewPool.length :=
    (h.flatMap_right _).length_eq.symm
  have hkinds := hallucinationBreakdown_perm h
  have hdimensions := dimensionBreakdown_perm h
  rw [ScoreEvaluator.report, retryTaxRatio_perm h htax, hcalls', htokens', hp99', hestimated',
    hpass', hfail', hretry', hno', hmax]
  refine ⟨_, rfl, ?_⟩
  unfold SameMetrics
  rw [hget "generated_at" (by decide), hgetD "chaos_mode" (by decide),
    hgetD "chaos_fail_rate" (by decide), hgetD "chaos_latency_ms" (by decide), htool, harg,
    hretries, hllm, hllmLength, hfindings, hpool]
  rw [hfailed, hretried, hplain,
    show (Tally.of os').taskSuccess = (Tally.of os).taskSuccess from hcount _,
    show (Tally.of os').hallucinationFlags = (Tally.of os).hallucinationFlags from hcount _,
    show (Tally.of os').offlineFallbackCases = (Tally.of os).offlineFallbackCases from hcount _,
    show (Tally.of os').judgeChecked = (Tally.of os).judgeChecked from hcount _,
    show (Tally.of os').judgePass = (Tally.of os).judgePass from hcount _,
    show (Tally.of os').plannerInvalidCount = (Tally.of os).plannerInvalidCount from hcount _,
    show (Tally.of os').permissionCorrect = (Tally.of os).permissionCorrect from hcount _,
    show (Tally.of os').permissionCaseCount = (Tally.of os).permissionCaseCount from hcount _]
  simp only [List.forall₂_cons, List.Forall₂.nil, sameValue_self, true_and, and_true]
  exact ⟨hlargest, .inr hkinds, .inr hdimensions⟩

end Report

/-! ### What a result says -/

/-- The fields of a value that is a dictionary. -/
def Json.fields (v : Json) : Dict := v.dict?.getD []

/-- The items of a value that is a list. -/
def Json.entries : Json → List Dict
  | .arr items => items.map Json.fields
  | _ => []

/-- The number under a key. -/
def Dict.number (d : Dict) (k : String) : ℚ := (Dict.get d k).number?.getD 0

namespace EvaluationResult

/-- The entries of `dimension_breakdown`. -/
def dimensions (r : EvaluationResult) : List Dict :=
  (Dict.get r.metrics "dimension_breakdown").fields.map fun f => f.2.fields

/-- `case_scores`. -/
def caseScores (r : EvaluationResult) : List Dict := (Dict.get r.details "case_scores").entries

/-- `review_pool`, without its repetitions. -/
def reviewPool (r : EvaluationResult) : List Dict := (Dict.get r.details "review_pool").entries

end EvaluationResult

/-- The rates of a report that each dimension has as well. -/
def sharedRates : List String :=
  ["tool_selection_accuracy", "arg_accuracy", "task_success_rate", "hallucination_rate"]

/-- Two reviews of one case for one reason. -/
def sameReview (a b : Dict) : Bool :=
  (Dict.get a "id").pyEq (Dict.get b "id") && (Dict.get a "reason").pyEq (Dict.get b "reason")

/-- What has to be looked at again: a case that failed, or was not planned well. -/
def NeedsReview (case score : Dict) : Prop :=
  Dict.get score "task_success" = .bool false ∨ Dict.get score "hallucination" = .bool true ∨
    Dict.get score "permission_ok" = .bool false ∨ plannerInvalid case = true

/-- The parts of a result agree with each other and with the cases. -/
structure Consistent (cases : List Json) (r : EvaluationResult) : Prop where
  totalCases : Dict.number r.metrics "total_cases" = cases.length
  dimensionCases :
    (r.dimensions.map (Dict.number · "cases")).sum = Dict.number r.metrics "total_cases"
  dimensionRates : ∀ d ∈ r.dimensions, ∀ k ∈ sharedRates, ∃ q, Dict.get d k = .num q
  weighted : ∀ k ∈ sharedRates, Dict.number r.metrics k =
    (r.dimensions.map fun d => Dict.number d "cases" * Dict.number d k).sum /
      (r.dimensions.map (Dict.number · "cases")).sum
  ruleFails : Dict.number r.metrics "rule_fail_count" +
    r.caseScores.countP (fun s => Dict.get s "task_success" = .bool true) =
      Dict.number r.metrics "total_cases"
  retried : Dict.number r.metrics "retry_case_count" +
    Dict.number r.metrics "no_retry_case_count" = Dict.number r.metrics "total_cases"
  hallucinationCases : Dict.number r.metrics "hallucination_case_count" =
    r.caseScores.countP fun s => Dict.get s "hallucination" = .bool true
  hallucinationFindings : Dict.number r.metrics "hallucination_finding_count" =
    ((Dict.get r.metrics "hallucination_breakdown").fields.map fun f => f.2.number?.getD 0).sum
  reviewed : List.Forall₂ (fun v score =>
    Dict.get score "id" = Dict.get v.fields "id" ∧
      (NeedsReview v.fields score → ∃ entry ∈ r.reviewPool,
        (Dict.get entry "id").pyEq (Dict.get score "id") = true)) cases r.caseScores
  distinctReviews : r.reviewPool.Pairwise fun a b => sameReview a b = false
  poolSize : (cases.Pairwise fun v w =>
      (Dict.get v.fields "id").pyEq (Dict.get w.fields "id") = false) →
    Dict.number r.metrics "manual_review_pool_size" = r.reviewPool.length

section Result

variable {self : ScoreEvaluator} {env : ScoreEnv} {batch : Dict} {cases : List Json}
  {r : EvaluationResult}

/-- A result without a judge is made of the outcomes of the cases. -/
structure Evaluated (scorer : ScoreEvaluator) (env : ScoreEnv) (batch : Dict) (cases : List Json)
    (os : List CaseOutcome) (r : EvaluationResult) : Prop where
  outcomes : List.Forall₂ (fun v o => scorer.outcome env 0 v = .ok o) cases os
  report : scorer.report env batch cases.length (Tally.of os) = .ok r.metrics
  hashable : ∀ item ∈ (Tally.of os).reviewPool, (Dict.get item "id").hashable = true
  reviewPool : r.reviewPool = Table.firsts sameReview (Tally.of os).reviewPool
  caseScores : r.caseScores = os.map CaseOutcome.scores

theorem evaluated_of_evaluate (hskip : self.skipJudge = true)
    (hcases : batch.getD "cases" (.arr []) = .arr cases) (h : self.evaluate env batch = .ok r) :
    ∃ os, Evaluated self env batch cases os r := by
  unfold ScoreEvaluator.evaluate at h
  rw [hcases] at h
  obtain ⟨cases', hiter, h⟩ := bind_eq_ok_iff.mp h
  obtain rfl := Except.ok.inj hiter
  obtain ⟨t, htally, h⟩ := bind_eq_ok_iff.mp h
  obtain ⟨m, hm, h⟩ := bind_eq_ok_iff.mp h
  obtain ⟨deduped, hdeduped, h⟩ := bind_eq_ok_iff.mp h
  obtain rfl := Except.ok.inj h
  obtain ⟨os, hos, rfl⟩ := (ScoreEvaluator.tally_eq_ok_iff hskip rfl).mp htally
  rw [Tally.foldl_add] at hm hdeduped
  unfold dedupeReviewPool at hdeduped
  split at hdeduped
  · next hhash =>
      have hentries : ∀ l : List Dict, (Json.arr (l.map Json.obj)).entries = l := by
        intro l
        rw [Json.entries, List.map_map]
        exact List.map_id l
      refine ⟨os, hos, hm, List.all_eq_true.mp hhash, ?_, ?_⟩
      · exact (hentries deduped).trans (Except.ok.inj hdeduped).symm
      · rw [Tally.foldl_add]
        exact hentries _
  · cases hdeduped

theorem evaluate_of_outcomes (hskip : self.skipJudge = true)
    (hcases : batch.getD "cases" (.arr []) = .arr cases) {os : List CaseOutcome} {m : Dict}
    (hos : List.Forall₂ (fun v o => self.outcome env 0 v = .ok o) cases os)
    (hm : self.report env batch cases.length (Tally.of os) = .ok m)
    (hhash : ∀ item ∈ (Tally.of os).reviewPool, (Dict.get item "id").hashable = true) :
    ∃ r, self.evaluate env batch = .ok r ∧ r.metrics = m := by
  have htally : self.tally env cases {} = .ok (Tally.of os) := by
    rw [ScoreEvaluator.tally_eq_ok_iff hskip rfl]
    exact ⟨os, hos, (Tally.foldl_add os).symm⟩
  have hdedupe : dedupeReviewPool (Tally.of os).reviewPool =
      .ok (Table.firsts sameReview (Tally.of os).reviewPool) :=
    if_pos (List.all_eq_true.mpr hhash)
  rw [ScoreEvaluator.evaluate, hcases]
  simp only [Json.iter, ok_bind, htally, hm, hdedupe]
  exact ⟨_, rfl, rfl⟩

/-- The metrics that the relations are about. -/
structure MetricsOf (total : ℕ) (t : Tally) (m : Dict) : Prop where
  totalCases : Dict.number m "total_cases" = total
  toolSelection : Dict.number m "tool_selection_accuracy" =
    t.toolScores.sum / (if total = 0 then (1 : ℚ) else total)
  argAccuracy : Dict.number m "arg_accuracy" =
    t.argScores.sum / (if total = 0 then (1 : ℚ) else total)
  taskSuccess : Dict.number m "task_success_rate" =
    t.taskSuccess / (if total = 0 then (1 : ℚ) else total)
  hallucination : Dict.number m "hallucination_rate" =
    t.hallucinationFlags / (if total = 0 then (1 : ℚ) else total)
  ruleFails : Dict.number m "rule_fail_count" = t.tokensRuleFail.length
  retried : Dict.number m "retry_case_count" = t.tokensWithRetry.length
  notRetried : Dict.number m "no_retry_case_count" = t.tokensNoRetry.length
  hallucinationCases : Dict.number m "hallucination_case_count" = t.hallucinationFlags
  hallucinationFindings : Dict.number m "hallucination_finding_count" = t.hallucinationFindingCount
  poolSize : Dict.number m "manual_review_pool_size" = t.reviewPool.length
  kinds : Dict.get m "hallucination_breakdown" = hallucinationBreakdown t
  dimensions : Dict.get m "dimension_breakdown" = dimensionBreakdown t

theorem metricsOf_report {total : ℕ} {t : Tally} {m : Dict}
    (h : self.report env batch total t = .ok m) : MetricsOf total t m := by
  simp only [ScoreEvaluator.report, bind_eq_ok_iff] at h
  obtain ⟨taxRatio, -, calls, -, tokens, -, p99, -, estimated, -, rulePass, -, ruleFail, -,
    withRetry, -, noRetry, -, taxMax, -, hreport⟩ := h
  obtain rfl := Except.ok.inj hreport
  have hint : ∀ {d : Dict} {k : String} {n : ℕ}, Dict.get d k = .int n → Dict.number d k = n := by
    intro d k n hget
    rw [Dict.number, hget]
    exact Int.cast_natCast n
  exact
    { totalCases := hint rfl
      toolSelection := rfl
      argAccuracy := rfl
      taskSuccess := rfl
      hallucination := rfl
      ruleFails := hint rfl
      retried := hint rfl
      notRetried := hint rfl
      hallucinationCases := hint rfl
      hallucinationFindings := hint rfl
      poolSize := hint rfl
      kinds := rfl
      dimensions := rfl }

end Result

/-! ### The relations -/

section Relations

variable {os : List CaseOutcome}

/-- An entry of the table of dimensions has a case, and a score for each. -/
theorem mem_dimensionStats {d : String} {s : DimensionStats}
    (h : (d, s) ∈ (Tally.of os).dimensionStats) :
    0 < s.cases ∧ s.toolScores.length = s.cases ∧ s.argScores.length = s.cases := by
  obtain ⟨⟨o, ho, hd⟩, hs⟩ := Table.mem_tabulate_iff.mp h
  rw [DimensionStats.foldl_add] at hs
  subst hs
  refine ⟨List.length_pos_of_mem (List.mem_filter.mpr ⟨ho, decide_eq_true hd⟩), ?_, ?_⟩
  · exact List.length_map _
  · exact List.length_map _

/-- The rates of the dimensions, weighted by their cases, add up to what all outcomes do. -/
theorem weighted_dimensions (os : List CaseOutcome) {k : String} {μ : DimensionStats → ℚ}
    {w : CaseOutcome → ℚ} (h0 : μ {} = 0) (hadd : ∀ s o, μ (DimensionStats.add s o) = μ s + w o)
    (hrate : ∀ d s, (d, s) ∈ (Tally.of os).dimensionStats →
      Dict.number s.breakdown "cases" * Dict.number s.breakdown k = μ s) :
    ((Tally.of os).dimensionStats.map fun e =>
      Dict.number e.2.breakdown "cases" * Dict.number e.2.breakdown k).sum = (os.map w).sum := by
  rw [← Table.sum_tabulate {} CaseOutcome.dimension DimensionStats.add h0 hadd os]
  exact congrArg List.sum (List.map_congr_left fun e he => hrate e.1 e.2 he)

theorem sum_dimensionCases :
    ((Tally.of os).dimensionStats.map fun e => Dict.number e.2.breakdown "cases").sum =
      os.length := by
  have hsum := Table.sum_tabulate {} CaseOutcome.dimension DimensionStats.add
    (μ := fun s => (s.cases : ℚ)) (w := fun _ => 1) Nat.cast_zero
    (fun s o => Nat.cast_succ s.cases) os
  have hcases : ∀ s : DimensionStats, Dict.number s.breakdown "cases" = s.cases := fun s =>
    Int.cast_natCast s.cases
  simp only [hcases]
  refine hsum.trans ?_
  rw [List.map_const', List.sum_replicate, nsmul_one]

theorem sum_oneIf (p : CaseOutcome → Bool) (os : List CaseOutcome) :
    (os.map fun o => (oneIf (p o) : ℚ)).sum = os.countP p := by
  induction os using List.reverseRecOn with
  | nil => rfl
  | append_singleton os o ih =>
      rw [List.map_append, List.sum_append, ih, List.map_singleton, List.sum_singleton,
        ← Nat.cast_add, countP_add_oneIf]

/-- The rates of a dimension are those of its cases. -/
theorem breakdown_rates {d : String} {s : DimensionStats}
    (h : (d, s) ∈ (Tally.of os).dimensionStats) :
    Dict.get s.breakdown "tool_selection_accuracy" = .num (s.toolScores.sum / s.cases) ∧
      Dict.get s.breakdown "arg_accuracy" = .num (s.argScores.sum / s.cases) ∧
      Dict.get s.breakdown "task_success_rate" = .num (s.taskSuccess / s.cases) ∧
      Dict.get s.breakdown "hallucination_rate" = .num (s.hallucinationFlags / s.cases) := by
  obtain ⟨hpos, htool, harg⟩ := mem_dimensionStats h
  have hmean : ∀ total n, n = s.cases → meanOrNone total n = .num (total / s.cases) := by
    rintro total n rfl
    exact if_neg hpos.ne'
  exact ⟨hmean _ _ htool, hmean _ _ harg, hmean _ _ rfl, hmean _ _ rfl⟩

end Relations

section Consistency

variable {self : ScoreEvaluator} {env : ScoreEnv} {batch : Dict} {cases : List Json}
  {r : EvaluationResult} {os : List CaseOutcome}

namespace Evaluated

theorem dimensions_eq (h : Evaluated self env batch cases os r) :
    r.dimensions = (Tally.of os).dimensionStats.map fun e => e.2.breakdown := by
  rw [EvaluationResult.dimensions, (metricsOf_report h.report).dimensions, dimensionBreakdown]
  exact List.map_map

theorem length_eq (h : Evaluated self env batch cases os r) : os.length = cases.length :=
  h.outcomes.length_eq.symm

theorem sum_cases (h : Evaluated self env batch cases os r) :
    (r.dimensions.map (Dict.number · "cases")).sum = cases.length := by
  rw [h.dimensions_eq, List.map_map, ← h.length_eq]
  exact sum_dimensionCases

/-- The overall rates are the weighted means of those of the dimensions. -/
theorem weighted (h : Evaluated self env batch cases os r) (hne : cases ≠ []) :
    ∀ k ∈ sharedRates, Dict.number r.metrics k =
      (r.dimensions.map fun d => Dict.number d "cases" * Dict.number d k).sum /
        (r.dimensions.map (Dict.number · "cases")).sum := by
  have hm := metricsOf_report h.report
  have hlength : cases.length ≠ 0 := mt List.length_eq_zero_iff.mp hne
  have htotal : (if cases.length = 0 then (1 : ℚ) else cases.length) = cases.length :=
    if_neg hlength
  -- each dimension gives back what its cases add up to
  have hrate : ∀ {d : String} {s : DimensionStats} {k : String} {x : ℚ},
      (d, s) ∈ (Tally.of os).dimensionStats → Dict.get s.breakdown k = .num (x / s.cases) →
        Dict.number s.breakdown "cases" * Dict.number s.breakdown k = x := by
    intro d s k x hs hget
    have hcases : Dict.number s.breakdown "cases" = s.cases := Int.cast_natCast s.cases
    rw [hcases, Dict.number, hget]
    exact mul_div_cancel₀ x (Nat.cast_ne_zero.mpr (mem_dimensionStats hs).1.ne')
  intro k hk
  rw [h.sum_cases, h.dimensions_eq, List.map_map]
  simp only [sharedRates, List.mem_cons, List.not_mem_nil, or_false] at hk
  rcases hk with rfl | rfl | rfl | rfl
  · have hsum := weighted_dimensions os (μ := fun s => s.toolScores.sum)
      (w := fun o => (o.reading.toolScore : ℚ)) rfl
      (fun s o => by simp [DimensionStats.add])
      fun d s hs => hrate hs (breakdown_rates hs).1
    rw [hm.toolSelection, htotal]
    exact congrArg (· / (cases.length : ℚ)) hsum.symm
  · have hsum := weighted_dimensions os (μ := fun s => s.argScores.sum)
      (w := fun o => o.reading.argScore) rfl
      (fun s o => by simp [DimensionStats.add])
      fun d s hs => hrate hs (breakdown_rates hs).2.1
    rw [hm.argAccuracy, htotal]
    exact congrArg (· / (cases.length : ℚ)) hsum.symm
  · have hsum := weighted_dimensions os (μ := fun s => (s.taskSuccess : ℚ))
      (w := fun o => (oneIf o.reading.rulePass : ℚ)) Nat.cast_zero
      (fun s o => Nat.cast_add _ _)
      fun d s hs => hrate hs (breakdown_rates hs).2.2.1
    rw [hm.taskSuccess, htotal]
    exact congrArg (· / (cases.length : ℚ)) ((sum_oneIf _ os).symm.trans hsum.symm)
  · have hsum := weighted_dimensions os (μ := fun s => (s.hallucinationFlags : ℚ))
      (w := fun o => (oneIf (!o.findings.isEmpty) : ℚ)) Nat.cast_zero
      (fun s o => Nat.cast_add _ _)
      fun d s hs => hrate hs (breakdown_rates hs).2.2.2
    rw [hm.hallucination, htotal]
    exact congrArg (· / (cases.length : ℚ)) ((sum_oneIf _ os).symm.trans hsum.symm)

theorem dimensionRates (h : Evaluated self env batch cases os r) :
    ∀ d ∈ r.dimensions, ∀ k ∈ sharedRates, ∃ q, Dict.get d k = .num q := by
  intro d hd k hk
  rw [h.dimensions_eq] at hd
  obtain ⟨e, he, rfl⟩ := List.mem_map.mp hd
  obtain ⟨htool, harg, htask, hflags⟩ := breakdown_rates (d := e.1) (s := e.2) he
  simp only [sharedRates, List.mem_cons, List.not_mem_nil, or_false] at hk
  rcases hk with rfl | rfl | rfl | rfl
  · exact ⟨_, htool⟩
  · exact ⟨_, harg⟩
  · exact ⟨_, htask⟩
  · exact ⟨_, hflags⟩

/-- A value that is counted over the cases is counted over their scores. -/
theorem countP_scores (h : Evaluated self env batch cases os r) (k : String)
    (p : CaseOutcome → Bool) {v : Json} (hv : ∀ o, Dict.get (CaseOutcome.scores o) k = v ↔ p o = true) :
    r.caseScores.countP (fun s => Dict.get s k = v) = os.countP p := by
  rw [h.caseScores, List.countP_map]
  refine List.countP_congr fun o _ => ?_
  rw [Function.comp_apply, decide_eq_true_iff]
  exact hv o

theorem ruleFails (h : Evaluated self env batch cases os r) :
    Dict.number r.metrics "rule_fail_count" +
      r.caseScores.countP (fun s => Dict.get s "task_success" = .bool true) = cases.length := by
  rw [h.countP_scores "task_success" (·.reading.rulePass) fun o => Json.bool.injEq .. ▸ Iff.rfl,
    (metricsOf_report h.report).ruleFails, ← h.length_eq]
  have hfails : (Tally.of os).tokensRuleFail.length = os.countP (!·.reading.rulePass) := by
    rw [List.countP_eq_length_filter]
    exact List.length_map _
  rw [hfails, add_comm, List.length_eq_countP_add_countP (fun o => o.reading.rulePass)]
  push_cast
  congr 3
  simp

theorem retried (h : Evaluated self env batch cases os r) :
    Dict.number r.metrics "retry_case_count" + Dict.number r.metrics "no_retry_case_count" =
      cases.length := by
  have hm := metricsOf_report h.report
  have hretried : (Tally.of os).tokensWithRetry.length =
      os.countP fun o => decide (0 < o.reading.retries) := by
    rw [List.countP_eq_length_filter]
    exact List.length_map _
  have hplain : (Tally.of os).tokensNoRetry.length =
      os.countP fun o => decide (o.reading.retries ≤ 0) := by
    rw [List.countP_eq_length_filter]
    exact List.length_map _
  rw [hm.retried, hm.notRetried, ← h.length_eq, hretried, hplain,
    List.length_eq_countP_add_countP fun o => decide (0 < o.reading.retries)]
  push_cast
  congr 3
  simp

theorem hallucinationCases (h : Evaluated self env batch cases os r) :
    Dict.number r.metrics "hallucination_case_count" =
      r.caseScores.countP fun s => Dict.get s "hallucination" = .bool true := by
  rw [h.countP_scores "hallucination" (!·.findings.isEmpty) fun o => Json.bool.injEq .. ▸ Iff.rfl]
  exact (metricsOf_report h.report).hallucinationCases

theorem hallucinationFindings (h : Evaluated self env batch cases os r) :
    Dict.number r.metrics "hallucination_finding_count" =
      ((Dict.get r.metrics "hallucination_breakdown").fields.map fun f =>
        f.2.number?.getD 0).sum := by
  have hm := metricsOf_report h.report
  have hsorted : ((Dict.get r.metrics "hallucination_breakdown").fields.map fun f =>
      f.2.number?.getD 0).sum =
      ((Tally.of os).hallucinationKinds.map fun c => (c.2 : ℚ)).sum := by
    rw [hm.kinds]
    refine ((List.perm_insertionSort _ _).map _).sum_eq.trans ?_
    rw [List.map_map]
    exact congrArg List.sum (List.map_congr_left fun c _ => Int.cast_natCast c.2)
  have hcounts := Table.sum_tabulate 0 FabricationFinding.kind
    (fun n (_ : FabricationFinding) => n + 1) (μ := fun n : ℕ => (n : ℚ))
    (w := fun _ => 1) Nat.cast_zero (fun n _ => Nat.cast_succ n) (os.flatMap (·.findings))
  rw [List.map_const', List.sum_replicate, nsmul_one, List.length_flatMap] at hcounts
  rw [hm.hallucinationFindings, hsorted]
  exact hcounts.symm

theorem scored (hskip : self.skipJudge = true) (h : Evaluated self env batch cases os r) :
    List.Forall₂ Scored cases os :=
  h.outcomes.imp fun _ _ ho => ScoreEvaluator.outcome_scored hskip ho

theorem scored_id {v : Json} {o : CaseOutcome} (h : Scored v o) :
    Dict.get v.fields "id" = o.id := by
  have hitem := h.id
  unfold Dict.item at hitem
  rw [h.case, Dict.get]
  change (o.reading.case.lookup "id").getD .null = o.id
  split at hitem
  · next hlookup => rw [hlookup]; exact Except.ok.inj hitem
  · cases hitem

theorem exists_scored (hskip : self.skipJudge = true) (h : Evaluated self env batch cases os r)
    {o : CaseOutcome} (ho : o ∈ os) : ∃ v, Scored v o := by
  obtain ⟨v, -, hv⟩ := exists_mem_of_forall₂ (h.scored hskip) ho
  exact ⟨v, hv⟩

theorem pyEq_self_of_hashable {v : Json} (h : v.hashable = true) : v.pyEq v = true := by
  cases v with
  | null => rw [Json.pyEq]
  | bool b => rw [Json.pyEq, beq_self_eq_true]
  | int i => rw [Json.pyEq, beq_self_eq_true]
  | num q => rw [Json.pyEq, beq_self_eq_true]
  | str s => rw [Json.pyEq, beq_self_eq_true]
  | arr items => cases h
  | obj fields => cases h

/-- A case with a review is in the returned pool. -/
theorem exists_entry (hskip : self.skipJudge = true) (h : Evaluated self env batch cases os r)
    {o : CaseOutcome} (ho : o ∈ os) (hne : o.review ≠ []) :
    ∃ entry ∈ r.reviewPool, (Dict.get entry "id").pyEq o.id = true := by
  obtain ⟨item, hitem⟩ := List.exists_mem_of_ne_nil _ hne
  obtain ⟨v, hv⟩ := h.exists_scored hskip ho
  obtain ⟨hid, reason, hreason⟩ := hv.mem_review hitem
  have hmem : item ∈ (Tally.of os).reviewPool := List.mem_flatMap.mpr ⟨o, ho, hitem⟩
  have hself : sameReview item item = true := by
    rw [sameReview, pyEq_self_of_hashable (h.hashable item hmem), hreason]
    exact pyEq_self_of_hashable rfl
  obtain ⟨entry, hentry, hsame⟩ := Table.exists_first hmem hself
  refine ⟨entry, h.reviewPool ▸ hentry, ?_⟩
  rw [sameReview, Bool.and_eq_true, hid] at hsame
  exact hsame.1

theorem get_scores_permission {o : CaseOutcome} : Dict.get o.scores "permission_ok" =
    match o.permissionOk with | some ok => .bool ok | none => .null := rfl

theorem reviewed (hskip : self.skipJudge = true) (h : Evaluated self env batch cases os r) :
    List.Forall₂ (fun v score =>
      Dict.get score "id" = Dict.get v.fields "id" ∧
        (NeedsReview v.fields score → ∃ entry ∈ r.reviewPool,
          (Dict.get entry "id").pyEq (Dict.get score "id") = true)) cases r.caseScores := by
  have hpool : ∀ o ∈ os, o.review ≠ [] →
      ∃ entry ∈ r.reviewPool, (Dict.get entry "id").pyEq o.id = true := fun o ho =>
    h.exists_entry hskip ho
  have hboth := ((List.forall₂_and_left os cases).mpr ⟨hpool, (h.scored hskip).flip⟩).flip
  rw [h.caseScores, List.forall₂_map_right_iff]
  refine hboth.imp fun v o ho => ⟨(scored_id ho.2).symm, fun hneeds => ho.1 ?_⟩
  obtain ⟨-, hscored⟩ := ho
  apply hscored.review_ne_nil
  rcases hneeds with hneeds | hneeds | hneeds | hneeds
  · exact .inl (Json.bool.inj hneeds)
  · have hsome := Json.bool.inj hneeds
    exact .inr (.inl (by simpa using hsome))
  · refine .inr (.inr (.inl ?_))
    rw [get_scores_permission] at hneeds
    cases hok : o.permissionOk with
    | none =>
        rw [hok] at hneeds
        cases hneeds
    | some ok =>
        rw [hok] at hneeds
        rw [Json.bool.inj hneeds]
  · rw [hscored.case] at hneeds
    exact .inr (.inr (.inr (hscored.planner.trans hneeds)))

theorem distinctReviews (h : Evaluated self env batch cases os r) :
    r.reviewPool.Pairwise fun a b => sameReview a b = false := by
  rw [h.reviewPool]
  exact Table.firsts_pairwise

theorem poolSize (hskip : self.skipJudge = true) (h : Evaluated self env batch cases os r)
    (hids : cases.Pairwise fun v w =>
      (Dict.get v.fields "id").pyEq (Dict.get w.fields "id") = false) :
    Dict.number r.metrics "manual_review_pool_size" = r.reviewPool.length := by
  have hos : os.Pairwise fun a b => a.id.pyEq b.id = false := by
    have hmap : cases.map (fun v => Dict.get v.fields "id") = os.map (·.id) := by
      have hscored := h.scored hskip
      clear hids h
      induction hscored with
      | nil => rfl
      | cons hv _ ih => rw [List.map_cons, List.map_cons, ih, scored_id hv]
    have hpairs : (cases.map fun v => Dict.get v.fields "id").Pairwise fun a b =>
        a.pyEq b = false := List.pairwise_map.mpr hids
    rw [hmap] at hpairs
    exact List.pairwise_map.mp hpairs
  have hpool : (Tally.of os).reviewPool.Pairwise fun a b => sameReview a b = false := by
    refine List.pairwise_flatMap.mpr ⟨fun o ho => ?_, ?_⟩
    · obtain ⟨v, hv⟩ := h.exists_scored hskip ho
      refine hv.review_reasons.imp fun hreasons => ?_
      rw [sameReview, hreasons, Bool.and_false]
    · refine hos.imp_of_mem fun {a b} ha hb hid x hx y hy => ?_
      obtain ⟨v, hv⟩ := h.exists_scored hskip ha
      obtain ⟨w, hw⟩ := h.exists_scored hskip hb
      rw [sameReview, (hv.mem_review hx).1, (hw.mem_review hy).1, hid, Bool.false_and]
  rw [(metricsOf_report h.report).poolSize, h.reviewPool, Table.firsts_of_pairwise hpool]

end Evaluated

/-- **A consistent report.**  What the evaluator returns without a judge for a list of cases
    is consistent, and for the cases in any other order it returns the same metrics. -/
theorem scoreReport_consistent (hskip : self.skipJudge = true)
    (hcases : batch.getD "cases" (.arr []) = .arr cases) (hne : cases ≠ [])
    (h : self.evaluate env batch = .ok r) :
    Consistent cases r ∧ ∀ cases', cases'.Perm cases →
      ∃ r', self.evaluate env (Dict.set batch "cases" (.arr cases')) = .ok r' ∧
        SameMetrics r'.metrics r.metrics := by
  obtain ⟨os, hr⟩ := evaluated_of_evaluate hskip hcases h
  have htotal := (metricsOf_report hr.report).totalCases
  constructor
  · exact
      { totalCases := htotal
        dimensionCases := hr.sum_cases.trans htotal.symm
        dimensionRates := hr.dimensionRates
        weighted := hr.weighted hne
        ruleFails := hr.ruleFails.trans htotal.symm
        retried := hr.retried.trans htotal.symm
        hallucinationCases := hr.hallucinationCases
        hallucinationFindings := hr.hallucinationFindings
        reviewed := hr.reviewed hskip
        distinctReviews := hr.distinctReviews
        poolSize := hr.poolSize hskip }
  · intro cases' hperm
    obtain ⟨os', hos', hosPerm⟩ := List.perm_comp_forall₂ hperm hr.outcomes
    have hosNe : os ≠ [] := by
      rintro rfl
      exact hne (List.length_eq_zero_iff.mp hr.length_eq.symm)
    have hget : ∀ k, k ≠ "cases" →
        Dict.get (Dict.set batch "cases" (.arr cases')) k = Dict.get batch k := fun k hk =>
      Dict.get_set_of_ne hk _
    have hgetD : ∀ k, k ≠ "cases" → ∀ v,
        Dict.getD (Dict.set batch "cases" (.arr cases')) k v = Dict.getD batch k v := by
      intro k hk v
      rw [Dict.getD, Dict.getD, hget k hk, Dict.has, Dict.has, Dict.lookup_set, if_neg hk]
    obtain ⟨m, hm, hsame⟩ := report_perm hosNe hosPerm.symm hget hgetD hr.report
    have hcases' : Dict.getD (Dict.set batch "cases" (.arr cases')) "cases" (.arr []) =
        .arr cases' := by
      rw [Dict.getD, Dict.has, Dict.lookup_set, if_pos rfl, Option.isSome_some, if_pos rfl]
      exact Dict.get_set_self _ _ _
    rw [← hperm.length_eq] at hm
    have hhash : ∀ item ∈ (Tally.of os').reviewPool, (Dict.get item "id").hashable = true :=
      fun item hitem => hr.hashable item ((hosPerm.flatMap_right _).subset hitem)
    obtain ⟨r', hr', rfl⟩ := evaluate_of_outcomes hskip hcases' hos' hm hhash
    exact ⟨r', hr', hsame⟩

end Consistency

/-- The characters of ASCII, and the usual limit. -/
def scoringEnv : ScoreEnv where
  unicode := { isAlnum := fun c => isAlnumAZ c, isDecimal := fun c => isDigit09 c }
  random := fun _ _ => 0
  retryTaxMax := "0.60"

/-- A case about one order. -/
def orderScoreCase (id category : String) (called : List Json) (retries : ℤ) : Json :=
  .obj
    [("id", .str id), ("category", .str category), ("input", .str "query order A1001"),
     ("expected_tools", .arr [.str "query_order"]), ("called_tools", .arr called),
     ("expected_args", .obj [("order_id", .str "A1001")]),
     ("called_args", .obj [("order_id", .str "A1001")]), ("retry_count", .int retries),
     ("tool_calls_count", .int called.length), ("token_usage", .int 120),
     ("final_response", .str "A1001")]

/-- One case that passes, and one of another dimension that calls no tool. -/
def twoCases : List Json :=
  [orderScoreCase "case-001" "normal" [.str "query_order"] 0,
   orderScoreCase "case-002" "attack" [] 1]

theorem scoreReport_twoCases : ∃ r,
    ScoreEvaluator.evaluate { skipJudge := true } scoringEnv [("cases", .arr twoCases)] = .ok r ∧
      Consistent twoCases r ∧ ∀ cases', cases'.Perm twoCases →
        ∃ r', ScoreEvaluator.evaluate { skipJudge := true } scoringEnv
            (Dict.set [("cases", .arr twoCases)] "cases" (.arr cases')) = .ok r' ∧
          SameMetrics r'.metrics r.metrics := by
  obtain ⟨r, hr⟩ := exists_ok_of_isOk (x := ScoreEvaluator.evaluate { skipJudge := true } scoringEnv
    [("cases", .arr twoCases)]) (by decide +kernel)
  exact ⟨r, hr, scoreReport_consistent rfl rfl (List.cons_ne_nil _ _) hr⟩

end ChaosDemo
