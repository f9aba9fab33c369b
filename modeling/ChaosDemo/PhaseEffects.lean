/-
ChaosDemo/PhaseEffects.lean

What the parts of the request hook do to the chaos data.  None of them writes an
experiment before `get_fault`, none writes a report that nobody has read, and a report
counts once more for each `record_injected`:

    Counts c s s'    the report of `id` counts at most `c id` faults more
    Effect c s s'    besides, the experiments are the same, and time has not gone back
    Quick c s s'     besides, no time passes and nothing is drawn

The parameters of a stored experiment were checked when it was created, so no injector
raises (`Formed`).
-/
import ChaosDemo.RequestPhase

set_option linter.unusedSectionVars false

namespace ChaosDemo

open CallTree Keyspace ChaosExperimentStore ChaosObserver

variable {K : Type} [Field K] [LinearOrder K] [IsStrictOrderedRing K]

/-! ### Parameters that were checked -/

theorem pyFloat_of_number {v : Json} {q : ℚ} (h : v.number? = some q) :
    (pyFloat v : Except Exc K) = .ok (q : K) := by
  cases v with
  | str text => cases h
  | null => cases h
  | bool b => simp only [pyFloat, h]
  | int i => simp only [pyFloat, h]
  | num r => simp only [pyFloat, h]
  | arr items => cases h
  | obj fields => cases h

namespace ChaosExperiment

theorem number_of_number? {e : ChaosExperiment K} {key : String} {q : ℚ}
    (h : (Dict.getD e.params key (.int 0)).number? = some q) : e.number key = q := by
  rw [number, h]

theorem pyFloat_number {e : ChaosExperiment K} {key : String} {q : ℚ}
    (h : (Dict.getD e.params key (.int 0)).number? = some q) :
    (pyFloat (Dict.getD e.params key (.int 0)) : Except Exc K) = .ok (e.number key) := by
  rw [pyFloat_of_number h, number_of_number? h]

/-- The injectors read their parameters with another default of the same value. -/
theorem pyFloat_number' {e : ChaosExperiment K} {key : String} {q : ℚ}
    (h : (Dict.getD e.params key (.int 0)).number? = some q) :
    (pyFloat (Dict.getD e.params key (.num 0)) : Except Exc K) = .ok (e.number key) := by
  rw [← pyFloat_number h, Dict.getD, Dict.getD]
  split
  · rfl
  · exact (pyFloat_of_number rfl).trans (by simp [pyFloat, Json.number?])

/-- The parameters are what the injector of the experiment reads. -/
inductive Formed (e : ChaosExperiment K) : FaultInjector → Prop
  | latency (htype : e.faultType = "latency") (hpos : 0 ≤ e.number "latency_ms")
      (hms : pyFloat (Dict.getD e.params "latency_ms" (.int 0)) = .ok (e.number "latency_ms")) :
      Formed e .latency
  | exception (htype : e.faultType = "exception") : Formed e .exception
  | drop (htype : e.faultType = "drop")
      (hrate : pyFloat (Dict.getD e.params "drop_rate" (.num 0)) = .ok (e.number "drop_rate")) :
      Formed e .drop
  | slowDb (htype : e.faultType = "slow_db")
      (hbase : pyFloat (Dict.getD e.params "base_ms" (.num 0)) = .ok (e.number "base_ms"))
      (hjitter : pyFloat (Dict.getD e.params "jitter_ms" (.num 0)) = .ok (e.number "jitter_ms"))
      (htimeout : pyFloat (Dict.getD e.params "timeout_rate" (.num 0)) =
        .ok (e.number "timeout_rate")) :
      Formed e .slowDb

end ChaosExperiment

theorem number_of_negative {v : Json} (h : negative v = false) :
    ∃ q, v.number? = some q ∧ 0 ≤ q := by
  rw [negative] at h
  split at h
  · rename_i q hq
    exact ⟨q, hq, not_lt.mp (by simpa using h)⟩
  · cases h

theorem number_of_outOfRange {v : Json} {bound : K} (h : outOfRange v bound = false) :
    ∃ q, v.number? = some q := by
  rw [outOfRange] at h
  split at h
  · rename_i q hq
    exact ⟨q, hq⟩
  · cases h

/-- A check that found nothing. -/
theorem of_check_eq_none {c : Bool} {message : String} {rest : Option String}
    (h : (if c = true then some message else rest) = none) : c = false ∧ rest = none := by
  cases c with
  | false => exact ⟨rfl, h⟩
  | true => cases h

theorem exists_formed {settings : FaultSettings K} {e : ChaosExperiment K}
    (h : validateFaultParams settings e.faultType e.params = none) :
    ∃ injector, e.Formed injector := by
  rw [validateFaultParams] at h
  by_cases hlatency : e.faultType = "latency"
  · rw [if_pos hlatency] at h
    refine ⟨.latency, ?_⟩
    have hneg := (of_check_eq_none h).1
    obtain ⟨q, hq, hpos⟩ := number_of_negative hneg
    refine .latency hlatency ?_ (ChaosExperiment.pyFloat_number hq)
    rw [ChaosExperiment.number_of_number? hq]
    exact_mod_cast hpos
  by_cases hexception : e.faultType = "exception"
  · exact ⟨.exception, .exception hexception⟩
  by_cases hdrop : e.faultType = "drop"
  · rw [if_neg hlatency, if_neg hexception, if_pos hdrop] at h
    have hrange := (of_check_eq_none h).1
    obtain ⟨q, hq⟩ := number_of_outOfRange hrange
    exact ⟨.drop, .drop hdrop (ChaosExperiment.pyFloat_number' hq)⟩
  by_cases hslow : e.faultType = "slow_db"
  · rw [if_neg hlatency, if_neg hexception, if_neg hdrop, if_pos hslow] at h
    obtain ⟨hbase, h⟩ := of_check_eq_none h
    obtain ⟨hjitter, h⟩ := of_check_eq_none h
    have hrange := (of_check_eq_none h).1
    obtain ⟨q₁, hq₁, -⟩ := number_of_negative hbase
    obtain ⟨q₂, hq₂, -⟩ := number_of_negative hjitter
    obtain ⟨q₃, hq₃⟩ := number_of_outOfRange hrange
    exact ⟨.slowDb, .slowDb hslow (ChaosExperiment.pyFloat_number' hq₁)
      (ChaosExperiment.pyFloat_number' hq₂) (ChaosExperiment.pyFloat_number' hq₃)⟩
  · rw [if_neg hlatency, if_neg hexception, if_neg hdrop, if_neg hslow] at h
    cases h

theorem ChaosExperiment.Formed.built {e : ChaosExperiment K} {injector : FaultInjector}
    (h : e.Formed injector) : buildInjector e.faultType = .ok injector := by
  cases h with
  | latency htype => rw [htype]; rfl
  | exception htype => rw [htype]; rfl
  | drop htype => rw [htype]; rfl
  | slowDb htype => rw [htype]; rfl

/-! ### Effects -/

/-- A report counts at most `c id` faults more. -/
def Counts (c : String → ℕ) (s s' : ChaosState K) : Prop :=
  ∀ id report', s'.data.lookup s'.now (.report id) = some report' →
    ∃ report, s.data.lookup s.now (.report id) = some report ∧
      report'.faultInjectedCount ≤ report.faultInjectedCount + c id

/-- What a part of the hook may do to the chaos data. -/
structure Effect (c : String → ℕ) (s s' : ChaosState K) : Prop where
  names : s'.data.names = s.data.names
  slots : ∀ id, s'.data.slots (.experiment id) = s.data.slots (.experiment id)
  now : s.now ≤ s'.now
  counts : Counts c s s'

/-- The same in no time, and with no draw. -/
structure Quick (c : String → ℕ) (s s' : ChaosState K) : Prop extends Effect c s s' where
  now_eq : s'.now = s.now
  drawn_eq : s'.drawn = s.drawn

section Effects

variable {s s' s'' : ChaosState K} {c c' : String → ℕ}

theorem Counts.mono (h : Counts c s s') (hc : ∀ id, c id ≤ c' id) : Counts c' s s' := by
  intro id report' hread'
  obtain ⟨report, hread, hle⟩ := h id report' hread'
  have hid : (c id : ℤ) ≤ c' id := by exact_mod_cast hc id
  exact ⟨report, hread, by omega⟩

theorem Counts.trans (h : Counts c s s') (h' : Counts c' s' s'') : Counts (c + c') s s'' := by
  intro id report'' hread''
  obtain ⟨report', hread', hle'⟩ := h' id report'' hread''
  obtain ⟨report, hread, hle⟩ := h id report' hread'
  refine ⟨report, hread, ?_⟩
  have hsum : ((c + c') id : ℤ) = c id + c' id := by simp
  omega

/-- The reports stay, and time may pass. -/
theorem Counts.of_slots
    (hslots : ∀ id, s'.data.slots (.report id) = s.data.slots (.report id))
    (hnow : s.now ≤ s'.now) : Counts 0 s s' := by
  intro id report' hread'
  refine ⟨report', live_mono hnow ?_, by simp⟩
  rw [← hslots id]
  exact hread'

/-- A report is written over the one that was read. -/
theorem Counts.save {id : String} {report report' : Report K}
    (hread : s.data.lookup s.now (.report id) = some report) {n : ℕ}
    (hcount : report'.faultInjectedCount ≤ report.faultInjectedCount + n) :
    Counts (Pi.single id n) s (s.save id report') := by
  intro other found hfound
  obtain ⟨e', he', halive', rfl⟩ := Listed.slot_of_lookup hfound
  by_cases hid : other = id
  · subst hid
    refine ⟨report, hread, ?_⟩
    have hput : (s.save other report').data.slots (.report other) =
        some ⟨report', some (s.now + reportTtl report'.duration)⟩ := Listed.put_slots_self
    obtain rfl := Option.some.inj (hput.symm.trans he')
    rw [Pi.single_eq_same]
    exact hcount
  · refine ⟨e'.val, ?_, by simp⟩
    have hsame : s.data.slots (.report other) = some e' :=
      (Listed.put_slots_of_ne (by simpa using hid)).symm.trans he'
    exact live_eq_some.mpr ⟨e', hsame, halive', rfl⟩

theorem Effect.mono (h : Effect c s s') (hc : ∀ id, c id ≤ c' id) : Effect c' s s' :=
  ⟨h.names, h.slots, h.now, h.counts.mono hc⟩

theorem Effect.trans (h : Effect c s s') (h' : Effect c' s' s'') : Effect (c + c') s s'' :=
  ⟨h'.names.trans h.names, fun id => (h'.slots id).trans (h.slots id), h.now.trans h'.now,
    h.counts.trans h'.counts⟩

/-- The data stay, and time may pass. -/
theorem Effect.of_data (hdata : s'.data = s.data) (hnow : s.now ≤ s'.now) : Effect 0 s s' :=
  ⟨by rw [hdata], fun id => by rw [hdata], hnow, Counts.of_slots (fun id => by rw [hdata]) hnow⟩

theorem Quick.refl (s : ChaosState K) : Quick 0 s s :=
  ⟨Effect.of_data rfl (le_refl _), rfl, rfl⟩

theorem Quick.trans (h : Quick c s s') (h' : Quick c' s' s'') : Quick (c + c') s s'' :=
  ⟨h.toEffect.trans h'.toEffect, h'.now_eq.trans h.now_eq, h'.drawn_eq.trans h.drawn_eq⟩

theorem Quick.save {id : String} {report report' : Report K}
    (hread : s.data.lookup s.now (.report id) = some report) {n : ℕ}
    (hcount : report'.faultInjectedCount ≤ report.faultInjectedCount + n) :
    Quick (Pi.single id n) s (s.save id report') := by
  obtain ⟨e, he, -⟩ := Listed.slot_of_lookup hread
  have hmem : ChaosKey.report id ∈ s.data.names := s.data.complete _ (by rw [he]; rfl)
  refine ⟨⟨if_pos hmem, fun other => ?_, le_refl _, Counts.save hread hcount⟩, rfl, rfl⟩
  exact Listed.put_slots_of_ne (by simp)

end Effects

/-! ### The functions -/

/-- A report is stored under the id of its experiment. -/
def ReportsNamed (s : ChaosState K) : Prop :=
  ∀ id r, s.data.slots (.report id) = some r → r.val.experimentId = id

section Functions

variable {env : ChaosEnv K}

variable (env) in
theorem recordInjected_quick (experiment : ChaosExperiment K) (phase : String)
    (s : ChaosState K) : ∃ s', (recordInjected experiment phase).eval (ChaosState.serve env) s =
      (.ok (), s') ∧ Quick (Pi.single experiment.id 1) s s' := by
  rw [recordInjected, Prog.eval_bind_ok (Chaos.run_metric ..),
    Prog.eval_bind_ok (run_getReport _)]
  let s₁ : ChaosState K := { s with
    ledger := ⟨experiment.id, experiment.labels, .faultInjected phase⟩ :: s.ledger }
  have hstart : Quick 0 s s₁ := ⟨Effect.of_data rfl (le_refl _), rfl, rfl⟩
  cases hread : s₁.data.lookup s₁.now (.report experiment.id) with
  | none =>
      refine ⟨s₁, rfl, hstart.toEffect.mono fun id => Nat.zero_le _, rfl, rfl⟩
  | some report =>
      refine ⟨s₁.save experiment.id (injected report), run_saveReport _ _, ?_⟩
      have hsave : Quick (Pi.single experiment.id 1) s₁
          (s₁.save experiment.id (injected report)) := Quick.save hread (le_refl _)
      rw [← zero_add (Pi.single experiment.id 1)]
      exact hstart.trans hsave

variable (env) in
theorem finalizeReport_quick (now : K) (id : String) {s : ChaosState K} (hs : ReportsNamed s) :
    ∃ s', (finalizeReport now id).eval (ChaosState.serve env) s = (.ok (), s') ∧
      Quick 0 s s' ∧ ReportsNamed s' := by
  rw [finalizeReport, Prog.eval_bind_ok (run_getReport _)]
  cases hread : s.data.lookup s.now (.report (lastSegment id)) with
  | none => exact ⟨s, rfl, Quick.refl s, hs⟩
  | some report =>
      obtain ⟨e, he, -, rfl⟩ := Listed.slot_of_lookup hread
      dsimp only
      by_cases hmark : e.val.recovered = true
      · rw [if_pos hmark]
        exact ⟨s, rfl, Quick.refl s, hs⟩
      rw [if_neg hmark]
      by_cases hover : e.val.createdAt + e.val.duration ≤ now
      · rw [if_pos hover, Prog.eval_bind_ok (run_recordReportRecoveredMetrics e.val),
          run_saveReport, hs _ e he]
        refine ⟨_, rfl, ?_, ?_⟩
        · have hcount : Quick 0 s (s.count e.val) :=
            ⟨Effect.of_data rfl (le_refl _), rfl, rfl⟩
          have hsave : Quick (Pi.single (lastSegment id) 0) (s.count e.val)
              ((s.count e.val).save (lastSegment id) (recovered chaosStatusStopped e.val)) :=
            Quick.save (s := s.count e.val) hread (le_of_eq (add_zero _).symm)
          have hboth := hcount.trans hsave
          rwa [Pi.single_zero, zero_add] at hboth
        · intro other r hr
          by_cases hother : other = lastSegment id
          · subst hother
            obtain rfl := Option.some.inj (Listed.put_slots_self.symm.trans hr)
            exact hs _ e he
          · have hkey : ChaosKey.report other ≠ .report (lastSegment id) := by simpa using hother
            exact hs other r ((Listed.put_slots_of_ne hkey).symm.trans hr)
      · rw [if_neg hover]
        exact ⟨s, rfl, Quick.refl s, hs⟩

theorem finalizeEach_quick (now : K) (ids : List String) {s : ChaosState K}
    (hs : ReportsNamed s) :
    ∃ s', (finalizeEach now ids).eval (ChaosState.serve env) s = (.ok (), s') ∧ Quick 0 s s' := by
  induction ids generalizing s with
  | nil => exact ⟨s, rfl, Quick.refl s⟩
  | cons id ids ih =>
      obtain ⟨s₁, hone, hquick, hnamed⟩ := finalizeReport_quick env now id hs
      obtain ⟨s₂, hrest, hquick'⟩ := ih hnamed
      refine ⟨s₂, ?_, ?_⟩
      · rw [finalizeEach, Prog.eval_bind_ok hone]
        exact hrest
      · have hboth := hquick.trans hquick'
        rwa [zero_add] at hboth

variable (env) in
theorem finalizeExpiredReports_quick {s : ChaosState K} (hs : ReportsNamed s) :
    ∃ s', finalizeExpiredReports.eval (ChaosState.serve env) s = (.ok (), s') ∧ Quick 0 s s' := by
  rw [finalizeExpiredReports, Prog.eval_bind_ok Chaos.run_time,
    Prog.eval_bind_ok (Chaos.run_keys .reports)]
  exact finalizeEach_quick s.now _ hs

variable (env) in
/-- A stop counts no fault. -/
theorem stopExperiment_counts (s : ChaosState K) (id : String) :
    Counts 0 s ((ChaosDemo.stopExperiment id).eval (ChaosState.serve env) s).2 := by
  rw [ChaosDemo.stopExperiment, Prog.eval_bind, run_storeStop]
  cases s.data.lookup s.now (.experiment id) with
  | none => exact (Quick.refl s).counts
  | some experiment =>
      dsimp only
      rw [Prog.eval_bind_ok (run_recordRecovered _)]
      let stopped := experiment.stoppedAt s.now
      let s₁ := s.stop experiment.id stopped
      have hstart : Counts 0 s s₁ :=
        Counts.of_slots (fun other => Listed.put_slots_of_ne (by simp)) (le_refl _)
      cases hread : s₁.data.lookup s₁.now (.report stopped.id) with
      | none =>
          exact hstart
      | some report =>
          have hsave : Counts (Pi.single stopped.id 0) (s₁.count report)
              ((s₁.count report).save stopped.id (recovered stopped.status report)) :=
            Counts.save (s := s₁.count report) hread (le_of_eq (add_zero _).symm)
          have hboth := hstart.trans ((Counts.of_slots (fun _ => rfl) (le_refl _) :
            Counts 0 s₁ (s₁.count report)).trans hsave)
          rwa [Pi.single_zero, zero_add, zero_add] at hboth

variable (env) in
theorem stopEach_counts (experiments : List (ChaosExperiment K)) (s : ChaosState K) :
    Counts 0 s ((stopEach experiments).eval (ChaosState.serve env) s).2 := by
  induction experiments generalizing s with
  | nil => exact (Quick.refl s).counts
  | cons experiment experiments ih =>
      obtain ⟨b, s', heval⟩ := stopExperiment_returns env s experiment.id
      have hone := stopExperiment_counts env s experiment.id
      rw [heval] at hone
      have hboth := hone.trans (ih s')
      rw [zero_add] at hboth
      rw [stopEach, Prog.eval_bind_ok heval, Prog.eval_bind]
      revert hboth
      generalize (stopEach experiments).eval (ChaosState.serve env) s' = out
      rcases out with ⟨e' | n, s''⟩ <;> exact id

variable (env) in
theorem stopLegacyFault_counts (faultType : String) (s : ChaosState K) :
    Counts 0 s ((stopLegacyFault faultType).eval (ChaosState.serve env) s).2 := by
  rw [stopLegacyFault, Prog.eval_bind_ok (run_listExperiments false)]
  dsimp only
  split
  · exact (Quick.refl s).counts
  · rename_i hne
    have hstops := stopEach_counts env ((s.listed false
      (pySorted ((s.data.keys s.now).filterMap ChaosPattern.experiments.match?))).filter
        fun experiment => decide (experiment.faultType = faultType)) s
    rw [Prog.eval_bind]
    revert hstops
    generalize (stopEach _).eval (ChaosState.serve env) s = out
    rcases out with ⟨e' | n, s''⟩ <;> exact id

end Functions

theorem getFault_counts (env : FaultEnv K) (faultType : String) (s : FaultState K) :
    Counts 0 s.chaos
      ((FaultInjection.getFault faultType).eval (FaultState.serve env) s).2.chaos := by
  have hget : (Faults.getFault faultType).eval (FaultState.serve env) s =
      (.ok (s.faults.lookup s.chaos.now faultType), s) := rfl
  rw [FaultInjection.getFault, Prog.eval_bind_ok hget]
  cases s.faults.lookup s.chaos.now faultType with
  | some record => exact (Quick.refl s.chaos).counts
  | none =>
      have hstop := stopLegacyFault_counts env.toChaosEnv faultType s.chaos
      dsimp only
      rw [Prog.eval_bind, eval_ofChaos]
      revert hstop
      generalize (stopLegacyFault faultType).eval (ChaosState.serve env.toChaosEnv) s.chaos = out
      rcases out with ⟨e' | b, s'⟩ <;> exact id

end ChaosDemo
