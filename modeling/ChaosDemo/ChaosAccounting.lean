/-
ChaosDemo/ChaosAccounting.lean

Whether the metrics keep count of the experiments.  Two ledgers (ChaosDemo/Ledger.lean)
are read off the updates:

    countBook     CHAOS_EXPERIMENT_TOTAL opens, CHAOS_FAULT_RECOVERED_TOTAL closes
    activeBook    the increments and decrements of CHAOS_ACTIVE_EXPERIMENT

They agree after every call.  What is not automatic is that the ledger is sound, and
that a report is marked as recovered exactly when its experiment was counted: an
explicit stop counts again what is marked already, and `build_report` marks what
nobody has counted.  `Accounted` is the invariant of the runs without such a step, and
`conserved_of_countsOnce` the result.

A running experiment is never marked before its key is gone: its key expires when its
duration is over, which is when `finalize_expired_reports` marks it.  That is why
`stop_all_experiments` and `stop_legacy_fault`, which only stop running experiments,
need no condition.
-/
import ChaosDemo.ChaosEngine
import ChaosDemo.Ledger
import ChaosDemo.Triple

set_option linter.unusedSectionVars false

namespace ChaosDemo

open CallTree Keyspace Ledger ChaosExperimentStore ChaosObserver

variable {K : Type} [Field K] [LinearOrder K] [IsStrictOrderedRing K]

/-! ### The ledgers -/

/-- The line of an update in the ledger of the active experiments. -/
def MetricUpdate.activeLine (u : MetricUpdate K) : Option (Line String Labels) :=
  match u.op with
  | .activeInc => some ⟨u.experimentId, u.labels, .opened⟩
  | .activeDec => some ⟨u.experimentId, u.labels, .closed⟩
  | _ => none

/-- The line of an update in the ledger of the totals. -/
def MetricUpdate.countLine (u : MetricUpdate K) : Option (Line String Labels) :=
  match u.op with
  | .experimentTotal => some ⟨u.experimentId, u.labels, .opened⟩
  | .faultRecovered => some ⟨u.experimentId, u.labels, .closed⟩
  | _ => none

namespace ChaosState

def activeBook (s : ChaosState K) : Book String Labels :=
  s.ledger.filterMap MetricUpdate.activeLine

def countBook (s : ChaosState K) : Book String Labels :=
  s.ledger.filterMap MetricUpdate.countLine

end ChaosState

/-- What the metrics promise: an experiment is counted as recovered at most once and
leaves the gauge at most once, a report that is marked was counted, and the gauge of
a label shows the experiments that were created under it and not counted yet. -/
structure Conserved (s : ChaosState K) : Prop where
  counted_once : ∀ id, times s.countBook id .closed ≤ 1
  decremented_once : ∀ id, times s.activeBook id .closed ≤ 1
  marked_counted : ∀ id report, s.data.lookup s.now (.report id) = some report →
    report.recovered = true → times s.countBook id .closed = 1 ∧ times s.activeBook id .closed = 1
  gauge_eq : ∀ labels, gauge s.activeBook labels = outstanding s.countBook labels

/-! ### The invariant -/

/-- A stored report belongs to an experiment that was created under its labels, and is
marked exactly when that experiment was counted. -/
structure ReportOk (b : Book String Labels) (id : String) (report : Report K) : Prop where
  id_eq : report.experimentId = id
  opened : ⟨id, report.labels, .opened⟩ ∈ b
  marked : report.recovered = true ↔ 0 < times b id .closed

/-- A running experiment has a report; its key expires when its duration is over, and
is gone where the report is marked. -/
def RunningOk (s : ChaosState K) (id : String) (e : Timed (ChaosExperiment K) K) : Prop :=
  e.val.status = chaosStatusRunning → ∃ r : Timed (Report K) K,
    s.data.slots (.report id) = some r ∧
    e.expireAt = some (r.val.createdAt + r.val.duration) ∧
    (r.val.recovered = true → e.alive s.now = false)

structure Accounted (s : ChaosState K) : Prop where
  same : s.countBook = s.activeBook
  sound : Sound s.activeBook
  report : ∀ id r, s.data.slots (.report id) = some r → ReportOk s.activeBook id r.val
  experiment_id : ∀ id e, s.data.slots (.experiment id) = some e → e.val.id = id
  running : ∀ id e, s.data.slots (.experiment id) = some e → RunningOk s id e

theorem Accounted.conserved {s : ChaosState K} (h : Accounted s) : Conserved s := by
  constructor
  · intro id
    rw [h.same]
    exact h.sound.closed_le_one id
  · exact h.sound.closed_le_one
  · intro id report hread hmark
    obtain ⟨r, hslot, -, rfl⟩ := Listed.slot_of_lookup hread
    have hpos := (h.report id r hslot).marked.mp hmark
    have hle := h.sound.closed_le_one id
    rw [h.same]
    omega
  · intro labels
    rw [h.same]
    exact h.sound.gauge_eq labels

/-! ### What the steps do to it -/

namespace ChaosState

/-- The state after `save_report`. -/
def save (s : ChaosState K) (id : String) (report : Report K) : ChaosState K :=
  { s with data := s.data.put (.report id) report (some (s.now + reportTtl report.duration)) }

/-- The updates of `record_report_recovered_metrics`, the latest first. -/
def recoveryUpdates (s : ChaosState K) (report : Report K) : List (MetricUpdate K) :=
  [⟨report.experimentId, report.labels, .recoveryDuration (max (s.now - report.createdAt) 0)⟩,
    ⟨report.experimentId, report.labels,
      if report.afterErrorCount = 0 then .experimentSuccess else .experimentFailed⟩,
    ⟨report.experimentId, report.labels, .activeDec⟩,
    ⟨report.experimentId, report.labels, .faultRecovered⟩]

/-- The state after `record_report_recovered_metrics`. -/
def count (s : ChaosState K) (report : Report K) : ChaosState K :=
  { s with ledger := s.recoveryUpdates report ++ s.ledger }

/-- The state after the store's `stop_experiment`. -/
def stop (s : ChaosState K) (id : String) (experiment : ChaosExperiment K) : ChaosState K :=
  { s with data := s.data.put (.experiment id) experiment (some (s.now + reportTtlBufferSec)) }

/-- The state after the store's `create_experiment`. -/
def store (s : ChaosState K) (experiment : ChaosExperiment K) : ChaosState K :=
  let data := s.data.put (.experiment experiment.id) experiment.stored
    (some (s.now + experiment.duration))
  { s with
    data := data.put (.report experiment.id) (initialReport experiment)
      (some (s.now + reportTtl experiment.duration)) }

/-- The updates of `record_created`, the latest first. -/
def creationUpdates (experiment : ChaosExperiment K) : List (MetricUpdate K) :=
  [⟨experiment.id, experiment.labels, .experimentDuration (max experiment.duration 0)⟩,
    ⟨experiment.id, experiment.labels, .activeInc⟩,
    ⟨experiment.id, experiment.labels, .experimentTotal⟩]

/-- The state after `record_created`. -/
def announce (s : ChaosState K) (experiment : ChaosExperiment K) : ChaosState K :=
  { s with ledger := creationUpdates experiment ++ s.ledger }

variable {s : ChaosState K} {id : String} {report : Report K} {experiment : ChaosExperiment K}

@[simp] theorem activeBook_count : (s.count report).activeBook =
    ⟨report.experimentId, report.labels, .closed⟩ :: s.activeBook := by
  rw [activeBook, count, recoveryUpdates]
  split <;> rfl

@[simp] theorem countBook_count : (s.count report).countBook =
    ⟨report.experimentId, report.labels, .closed⟩ :: s.countBook := by
  rw [countBook, count, recoveryUpdates]
  split <;> rfl

@[simp] theorem activeBook_announce : (s.announce experiment).activeBook =
    ⟨experiment.id, experiment.labels, .opened⟩ :: s.activeBook := rfl

@[simp] theorem countBook_announce : (s.announce experiment).countBook =
    ⟨experiment.id, experiment.labels, .opened⟩ :: s.countBook := rfl

end ChaosState

namespace Accounted

variable {s : ChaosState K} {id : String} {report : Report K} {experiment : ChaosExperiment K}

/-- Only the data, the time and the two ledgers matter. -/
theorem of_eq {s' : ChaosState K} (h : Accounted s) (hdata : s'.data = s.data)
    (hnow : s.now ≤ s'.now) (hactive : s'.activeBook = s.activeBook)
    (hcount : s'.countBook = s.countBook) : Accounted s' := by
  constructor
  · rw [hactive, hcount]
    exact h.same
  · rw [hactive]
    exact h.sound
  · intro id r hslot
    rw [hactive]
    exact h.report id r (by rwa [hdata] at hslot)
  · intro id e hslot
    exact h.experiment_id id e (by rwa [hdata] at hslot)
  · intro id e hslot hrun
    rw [hdata] at hslot ⊢
    obtain ⟨r, hr, hexpire, hgone⟩ := h.running id e hslot hrun
    refine ⟨r, hr, hexpire, fun hmark => ?_⟩
    -- what has expired stays expired
    cases halive : e.alive s'.now with
    | false => rfl
    | true => exact absurd (e.alive_mono hnow halive) (by simp [hgone hmark])

/-- A report may be written back when it keeps what the accounts look at. -/
theorem save (h : Accounted s) {r : Timed (Report K) K}
    (hslot : s.data.slots (.report id) = some r) (hid : report.experimentId = r.val.experimentId)
    (hlabels : report.labels = r.val.labels) (hcreated : report.createdAt = r.val.createdAt)
    (hduration : report.duration = r.val.duration) (hmark : report.recovered = r.val.recovered) :
    Accounted (s.save id report) := by
  have hold := h.report id r hslot
  refine ⟨h.same, h.sound, ?_, ?_, ?_⟩
  · intro id' r' hslot'
    by_cases hid' : id' = id
    · subst hid'
      obtain rfl : (⟨report, some (s.now + reportTtl report.duration)⟩ : Timed (Report K) K) = r' := by
        simpa [ChaosState.save] using hslot'
      refine ⟨hid.trans hold.id_eq, ?_, ?_⟩
      · show ⟨_, report.labels, _⟩ ∈ s.activeBook
        rw [hlabels]
        exact hold.opened
      · show report.recovered = true ↔ _
        rw [hmark]
        exact hold.marked
    · rw [ChaosState.save, Listed.put_slots_of_ne (by simpa using hid')] at hslot'
      exact h.report id' r' hslot'
  · intro id' e hslot'
    rw [ChaosState.save, Listed.put_slots_of_ne (by simp)] at hslot'
    exact h.experiment_id id' e hslot'
  · intro id' e hslot' hrun
    rw [ChaosState.save, Listed.put_slots_of_ne (by simp)] at hslot'
    obtain ⟨r', hr', hexpire, hgone⟩ := h.running id' e hslot' hrun
    by_cases hid' : id' = id
    · subst hid'
      obtain rfl : r = r' := by simpa [hslot] using hr'
      refine ⟨_, Listed.put_slots_self, ?_, ?_⟩
      · rw [hcreated, hduration]
        exact hexpire
      · rw [hmark]
        exact hgone
    · exact ⟨r', (Listed.put_slots_of_ne (by simpa using hid')).trans hr', hexpire, hgone⟩

/-- **Counting a recovery.**  A report that is not marked may be counted and marked,
once its experiment is not running any more. -/
theorem recover (h : Accounted s) {r : Timed (Report K) K}
    (hslot : s.data.slots (.report id) = some r) (hnot : r.val.recovered = false)
    (hgone : ∀ e, s.data.slots (.experiment id) = some e → e.val.status = chaosStatusRunning →
      e.alive s.now = false) (status : String) :
    Accounted ((s.count r.val).save id (recovered status r.val)) := by
  have hold := h.report id r hslot
  obtain hid : r.val.experimentId = id := hold.id_eq
  have hzero : times s.activeBook id .closed = 0 := by
    have hnpos := mt hold.marked.mpr (by simp [hnot])
    omega
  have hbook : ((s.count r.val).save id (recovered status r.val)).activeBook =
      ⟨id, r.val.labels, .closed⟩ :: s.activeBook := by
    rw [← hid]
    exact ChaosState.activeBook_count
  have hother : ∀ k, k ≠ .report id →
      ((s.count r.val).save id (recovered status r.val)).data.slots k = s.data.slots k :=
    fun k hk => Listed.put_slots_of_ne hk
  constructor
  · have hcount : ((s.count r.val).save id (recovered status r.val)).countBook =
        ⟨id, r.val.labels, .closed⟩ :: s.countBook := by
      rw [← hid]
      exact ChaosState.countBook_count
    rw [hcount, hbook, h.same]
  · rw [hbook]
    exact h.sound.closed id r.val.labels hold.opened hzero
  · intro id' r' hslot'
    rw [hbook]
    by_cases hid' : id' = id
    · subst hid'
      obtain rfl : (⟨recovered status r.val, some (s.now + reportTtl r.val.duration)⟩ :
          Timed (Report K) K) = r' := by
        simpa [ChaosState.save, ChaosState.count, recovered] using hslot'
      refine ⟨hid, List.mem_cons_of_mem _ hold.opened, ?_⟩
      rw [times_cons_self]
      show true = true ↔ _
      simp
    · rw [hother _ (by simpa using hid')] at hslot'
      have hrest := h.report id' r' hslot'
      refine ⟨hrest.id_eq, List.mem_cons_of_mem _ hrest.opened, ?_⟩
      rw [times_cons_of_ne (Ne.symm hid')]
      exact hrest.marked
  · intro id' e hslot'
    rw [hother _ (by simp)] at hslot'
    exact h.experiment_id id' e hslot'
  · intro id' e hslot' hrun
    rw [hother _ (by simp)] at hslot'
    obtain ⟨r', hr', hexpire, hmarked⟩ := h.running id' e hslot' hrun
    by_cases hid' : id' = id
    · subst hid'
      obtain rfl : r = r' := by simpa [hslot] using hr'
      exact ⟨_, Listed.put_slots_self, hexpire, fun _ => hgone e hslot' hrun⟩
    · exact ⟨r', (hother _ (by simpa using hid')).trans hr', hexpire, hmarked⟩

/-- An experiment may be stored again once it is not running any more. -/
theorem stop (h : Accounted s) {e : Timed (ChaosExperiment K) K}
    (hslot : s.data.slots (.experiment id) = some e) (hid : experiment.id = e.val.id)
    (hstatus : experiment.status ≠ chaosStatusRunning) : Accounted (s.stop id experiment) := by
  refine ⟨h.same, h.sound, ?_, ?_, ?_⟩
  · intro id' r hslot'
    rw [ChaosState.stop, Listed.put_slots_of_ne (by simp)] at hslot'
    exact h.report id' r hslot'
  · intro id' e' hslot'
    by_cases hid' : id' = id
    · subst hid'
      obtain rfl : (⟨experiment, some (s.now + reportTtlBufferSec)⟩ :
          Timed (ChaosExperiment K) K) = e' := by
        simpa [ChaosState.stop] using hslot'
      exact hid.trans (h.experiment_id id' e hslot)
    · rw [ChaosState.stop, Listed.put_slots_of_ne (by simpa using hid')] at hslot'
      exact h.experiment_id id' e' hslot'
  · intro id' e' hslot' hrun
    by_cases hid' : id' = id
    · subst hid'
      obtain rfl : (⟨experiment, some (s.now + reportTtlBufferSec)⟩ :
          Timed (ChaosExperiment K) K) = e' := by
        simpa [ChaosState.stop] using hslot'
      exact absurd hrun hstatus
    · rw [ChaosState.stop, Listed.put_slots_of_ne (by simpa using hid')] at hslot'
      obtain ⟨r, hr, hexpire, hgone⟩ := h.running id' e' hslot' hrun
      exact ⟨r, (Listed.put_slots_of_ne (by simp)).trans hr, hexpire, hgone⟩

/-- A new experiment may be stored and announced. -/
theorem create (h : Accounted s) (hfresh : times s.activeBook experiment.id .opened = 0)
    (hcreated : experiment.createdAt = s.now)
    (hlabels : (initialReport experiment).labels = experiment.labels) :
    Accounted ((s.store experiment).announce experiment) := by
  have hother : ∀ k, k ≠ .report experiment.id → k ≠ .experiment experiment.id →
      ((s.store experiment).announce experiment).data.slots k = s.data.slots k :=
    fun k hr he => (Listed.put_slots_of_ne hr).trans (Listed.put_slots_of_ne he)
  have hreport : ((s.store experiment).announce experiment).data.slots (.report experiment.id) =
      some ⟨initialReport experiment, some (s.now + reportTtl experiment.duration)⟩ :=
    Listed.put_slots_self
  have hexp : ((s.store experiment).announce experiment).data.slots (.experiment experiment.id) =
      some ⟨experiment.stored, some (s.now + experiment.duration)⟩ :=
    (Listed.put_slots_of_ne (by simp)).trans Listed.put_slots_self
  have hbook : ((s.store experiment).announce experiment).activeBook =
      ⟨experiment.id, experiment.labels, .opened⟩ :: s.activeBook := rfl
  constructor
  · show ⟨experiment.id, experiment.labels, .opened⟩ :: s.countBook = _
    rw [hbook, h.same]
  · exact h.sound.opened experiment.id experiment.labels hfresh
  · intro id r hslot
    rw [hbook]
    by_cases hid : id = experiment.id
    · subst hid
      obtain rfl := Option.some.inj (hreport.symm.trans hslot)
      refine ⟨rfl, ?_, ?_⟩
      · rw [hlabels]
        exact List.mem_cons_self
      · rw [times_cons_of_turn (by decide), h.sound.not_closed hfresh]
        show false = true ↔ _
        simp
    · rw [hother _ (by simpa using hid) (by simp)] at hslot
      have hrest := h.report id r hslot
      refine ⟨hrest.id_eq, List.mem_cons_of_mem _ hrest.opened, ?_⟩
      rw [times_cons_of_turn (by decide)]
      exact hrest.marked
  · intro id e hslot
    by_cases hid : id = experiment.id
    · subst hid
      obtain rfl := Option.some.inj (hexp.symm.trans hslot)
      rfl
    · rw [hother _ (by simp) (by simpa using hid)] at hslot
      exact h.experiment_id id e hslot
  · intro id e hslot hrun
    by_cases hid : id = experiment.id
    · subst hid
      obtain rfl := Option.some.inj (hexp.symm.trans hslot)
      refine ⟨_, hreport, ?_, fun hmark => ?_⟩
      · show some (s.now + (experiment.duration : K)) = some (experiment.createdAt + _)
        rw [hcreated]
        rfl
      · cases hmark
    · rw [hother _ (by simp) (by simpa using hid)] at hslot
      obtain ⟨r, hr, hexpire, hgone⟩ := h.running id e hslot hrun
      exact ⟨r, (hother _ (by simpa using hid) (by simp)).trans hr, hexpire, hgone⟩

end Accounted

/-! ### What the functions do -/

section Runs

variable {env : ChaosEnv K} {s : ChaosState K} {α β : Type}

theorem run_recordReportRecoveredMetrics (report : Report K) :
    (recordReportRecoveredMetrics report).eval (ChaosState.serve env) s = (.ok (), s.count report) := by
  rw [recordReportRecoveredMetrics, Prog.eval_bind_ok (Chaos.run_metric ..),
    Prog.eval_bind_ok (Chaos.run_metric ..), ChaosState.count, ChaosState.recoveryUpdates]
  split <;> rfl

theorem run_getReport (id : String) : (getReport id : Chaos K _).eval (ChaosState.serve env) s =
    (.ok (s.data.lookup s.now (.report id)), s) := rfl

theorem run_getExperiment (id : String) :
    (ChaosExperimentStore.getExperiment id : Chaos K _).eval (ChaosState.serve env) s =
      (.ok (s.data.lookup s.now (.experiment id)), s) := rfl

theorem run_saveReport (id : String) (report : Report K) :
    (saveReport id report).eval (ChaosState.serve env) s = (.ok (), s.save id report) :=
  Chaos.run_setex (k := .report id) report (reportTtl_pos report.duration)

theorem run_recordCreated (experiment : ChaosExperiment K) :
    (recordCreated experiment).eval (ChaosState.serve env) s = (.ok (), s.announce experiment) := rfl

theorem run_storeExperiment {experiment : ChaosExperiment K} (h : 0 < experiment.duration) :
    (ChaosExperimentStore.createExperiment experiment).eval (ChaosState.serve env) s =
      (.ok (), s.store experiment) := by
  rw [ChaosExperimentStore.createExperiment,
    Prog.eval_bind_ok (Chaos.run_setex _ h)]
  exact Chaos.run_setex _ (reportTtl_pos _)

theorem run_storeExperiment_refused {experiment : ChaosExperiment K}
    (h : ¬ 0 < experiment.duration) :
    (ChaosExperimentStore.createExperiment experiment).eval (ChaosState.serve env) s = (.error .redisOther, s) := by
  rw [ChaosExperimentStore.createExperiment, Prog.eval_bind]
  rw [Chaos.run_setex_refused (k := .experiment experiment.id) experiment.stored h]

/-- From an accounted state with `P`, `p` comes to an accounted state, with `Q` where it
returns. -/
abbrev Keeps (env : ChaosEnv K) (P : ChaosState K → Prop) (p : Chaos K α)
    (Q : α → ChaosState K → Prop) : Prop :=
  Triple (ChaosState.serve env) (fun s => Accounted s ∧ P s) p (fun a s => Accounted s ∧ Q a s)
    Accounted

theorem finalizeReport_keeps (now : K) (id : String) :
    Keeps env (fun s => now ≤ s.now) (finalizeReport now id) fun _ s => now ≤ s.now := by
  rintro s ⟨h, hnow⟩
  rw [finalizeReport, Prog.eval_bind_ok (run_getReport _)]
  cases hread : s.data.lookup s.now (.report (lastSegment id)) with
  | none => exact ⟨h, hnow⟩
  | some report =>
      obtain ⟨r, hslot, -, rfl⟩ := Listed.slot_of_lookup hread
      dsimp only
      by_cases hmark : r.val.recovered = true
      · rw [if_pos hmark]
        exact ⟨h, hnow⟩
      by_cases hover : r.val.createdAt + r.val.duration ≤ now
      · rw [if_neg hmark, if_pos hover,
          Prog.eval_bind_ok (run_recordReportRecoveredMetrics r.val)]
        rw [run_saveReport, (h.report _ r hslot).id_eq]
        refine ⟨h.recover hslot (by simpa using hmark) ?_ _, hnow⟩
        -- its duration is over, so its key has expired
        intro e he hrun
        obtain ⟨r', hr', hexpire, -⟩ := h.running _ e he hrun
        obtain rfl : r = r' := by simpa [hslot] using hr'
        have hle : r.val.createdAt + r.val.duration ≤ s.now := hover.trans hnow
        simp [Timed.alive, hexpire, hle]
      · rw [if_neg hmark, if_neg hover]
        exact ⟨h, hnow⟩

theorem finalizeEach_keeps (now : K) (ids : List String) :
    Keeps env (fun s => now ≤ s.now) (finalizeEach now ids) fun _ s => now ≤ s.now := by
  induction ids with
  | nil => exact Triple.ret fun s hs => hs
  | cons id ids ih => exact (finalizeReport_keeps now id).bind fun _ => ih

theorem finalizeExpiredReports_keeps :
    Keeps env (fun _ => True) finalizeExpiredReports fun _ _ => True := by
  rintro s ⟨h, -⟩
  rw [finalizeExpiredReports, Prog.eval_bind_ok Chaos.run_time,
    Prog.eval_bind_ok (Chaos.run_keys .reports)]
  exact (finalizeEach_keeps s.now _).conseq (fun _ hs => hs) (fun _ _ hs => ⟨hs.1, trivial⟩) s
    ⟨h, le_refl s.now⟩

/-- The experiments of a listing. -/
def ChaosState.listed (s : ChaosState K) (includeStopped : Bool) (ids : List String) :
    List (ChaosExperiment K) :=
  ids.filterMap fun id => (s.data.lookup s.now (.experiment id)).filter fun experiment =>
    includeStopped || experiment.status == chaosStatusRunning

theorem run_listEach (includeStopped : Bool) (ids : List String) :
    (listEach includeStopped ids).eval (ChaosState.serve env) s =
      (.ok (s.listed includeStopped ids), s) := by
  induction ids with
  | nil => rfl
  | cons id ids ih =>
      rw [listEach, Prog.eval_bind_ok (Chaos.run_get _), Prog.eval_bind_ok ih]
      simp only [ChaosState.listed, List.filterMap_cons]
      cases s.data.lookup s.now (.experiment id) with
      | none => rfl
      | some experiment =>
          by_cases hkeep : (includeStopped || experiment.status == chaosStatusRunning) = true
          · simp [hkeep, Option.filter]
          · simp [hkeep, Option.filter]

theorem run_listExperiments (includeStopped : Bool) :
    (ChaosExperimentStore.listExperiments includeStopped).eval (ChaosState.serve env) s =
      (.ok (s.listed includeStopped
        (pySorted ((s.data.keys s.now).filterMap ChaosPattern.experiments.match?))), s) := by
  rw [ChaosExperimentStore.listExperiments, Prog.eval_bind_ok (Chaos.run_keys .experiments)]
  exact run_listEach includeStopped _

theorem percentageMatch_keeps (target : Dict) :
    Keeps env (fun _ => True) (percentageMatch target) fun _ _ => True := by
  rw [percentageMatch]
  split
  · exact Triple.ret fun s hs => hs
  · apply Triple.bind (R := fun _ s => Accounted s ∧ True)
    · exact Triple.ofExcept (fun _ _ _ hs => hs) fun _ hs => hs.1
    · intro value
      apply Triple.bind (R := fun _ s => Accounted s ∧ True)
      · -- a draw leaves the accounts alone
        exact Triple.of_eval (fun s => Chaos.run_random) fun s hs =>
          ⟨hs.1.of_eq rfl (le_refl _) rfl rfl, trivial⟩
      · exact fun sample => Triple.ret fun s hs => hs

theorem matchRequest_keeps (experiment : ChaosExperiment K) (request : ChaosRequest) :
    Keeps env (fun _ => True) (matchRequest experiment request) fun _ _ => True := by
  apply Triple.ite
  · exact fun _ => Triple.ret fun s hs => hs
  · intro _
    apply Triple.ite
    · exact fun _ => Triple.ret fun s hs => hs
    · exact fun _ => percentageMatch_keeps experiment.target

theorem recordInjected_keeps (experiment : ChaosExperiment K) (phase : String) :
    Keeps env (fun _ => True) (recordInjected experiment phase) fun _ _ => True := by
  rintro s ⟨h, -⟩
  rw [recordInjected, Prog.eval_bind_ok (Chaos.run_metric ..),
    Prog.eval_bind_ok (run_getReport _)]
  have hnoted : Accounted { s with
      ledger := ⟨experiment.id, experiment.labels, .faultInjected phase⟩ :: s.ledger } :=
    h.of_eq rfl (le_refl _) rfl rfl
  cases hread : s.data.lookup s.now (.report experiment.id) with
  | none => exact ⟨hnoted, trivial⟩
  | some report =>
      obtain ⟨r, hslot, -, rfl⟩ := Listed.slot_of_lookup hread
      dsimp only
      rw [run_saveReport]
      exact ⟨hnoted.save hslot rfl rfl rfl rfl rfl, trivial⟩

theorem beforeRequest_keeps (injector : FaultInjector) (experiment : ChaosExperiment K) :
    Keeps env (fun _ => True) (injector.beforeRequest experiment) fun _ _ => True := by
  cases injector with
  | latency =>
      apply Triple.bind (R := fun _ s => Accounted s ∧ True)
      · exact Triple.ofExcept (fun _ _ _ hs => hs) fun _ hs => hs.1
      · intro ms
        apply Triple.ite
        · exact fun _ => Triple.ret fun s hs => hs
        · intro hms
          apply (recordInjected_keeps experiment "before_request").bind
          intro _
          refine Triple.of_eval (fun s => Chaos.run_sleep _) fun s hs => ?_
          have hpos : 0 ≤ ms / 1000 := by
            have hms' : 0 < ms := not_le.mp hms
            positivity
          exact ⟨hs.1.of_eq rfl (le_add_of_nonneg_right hpos) rfl rfl, trivial⟩
  | exception => exact Triple.ret fun s hs => hs
  | drop => exact Triple.ret fun s hs => hs
  | slowDb => exact Triple.ret fun s hs => hs

theorem prepareEach_keeps (request : ChaosRequest) (experiments : List (ChaosExperiment K)) :
    Keeps env (fun _ => True) (prepareEach request experiments) fun _ _ => True := by
  induction experiments with
  | nil => exact Triple.ret fun s hs => hs
  | cons experiment experiments ih =>
      apply (matchRequest_keeps experiment request).bind
      intro matched
      apply Triple.ite
      · intro _
        apply Triple.bind (R := fun _ s => Accounted s ∧ True)
        · exact Triple.ofExcept (fun _ _ _ hs => hs) fun _ hs => hs.1
        · intro injector
          apply (beforeRequest_keeps injector experiment).bind
          intro _
          exact ih.bind fun _ => Triple.ret fun s hs => hs
      · exact fun _ => ih

theorem listExperiments_keeps (includeStopped : Bool) :
    Keeps env (fun _ => True) (ChaosExperimentStore.listExperiments includeStopped)
      fun _ _ => True := by
  intro s hs
  rw [run_listExperiments]
  exact hs

/-! ### Explicit stops -/

/-- Stopping the experiment counts a recovery at most once: it is gone, or its report is,
or the report is not marked yet. -/
def ChaosState.Stoppable (s : ChaosState K) (id : String) : Prop :=
  (s.data.lookup s.now (.experiment id)).isSome = true →
    ∀ report ∈ s.data.lookup s.now (.report id), report.recovered = false

instance (s : ChaosState K) (id : String) : Decidable (s.Stoppable id) := by
  unfold ChaosState.Stoppable
  infer_instance

/-- The same keys of every other experiment. -/
def ChaosState.SameBut (id : String) (s s' : ChaosState K) : Prop :=
  s'.now = s.now ∧ ∀ j, j ≠ id →
    s'.data.slots (.experiment j) = s.data.slots (.experiment j) ∧
    s'.data.slots (.report j) = s.data.slots (.report j)

theorem ChaosState.Stoppable.of_same {s' : ChaosState K} {id j : String} (h : s.Stoppable j)
    (hsame : s.SameBut id s') (hj : j ≠ id) : s'.Stoppable j := by
  obtain ⟨hnow, hslots⟩ := hsame
  obtain ⟨hexperiment, hreport⟩ := hslots j hj
  rw [ChaosState.Stoppable, Listed.lookup, Listed.lookup, Store.lookup, Store.lookup,
    hexperiment, hreport, hnow]
  exact h

theorem run_recordRecovered (experiment : ChaosExperiment K) :
    (recordRecovered experiment).eval (ChaosState.serve env) s =
      (.ok (), match s.data.lookup s.now (.report experiment.id) with
        | none => s
        | some report => (s.count report).save experiment.id
            (recovered experiment.status report)) := by
  rw [recordRecovered, Prog.eval_bind_ok (run_getReport _)]
  cases s.data.lookup s.now (.report experiment.id) with
  | none => rfl
  | some report =>
      dsimp only
      rw [Prog.eval_bind_ok (run_recordReportRecoveredMetrics _), run_saveReport]

/-- The experiment as the store's `stop_experiment` writes it. -/
def ChaosExperiment.stoppedAt (experiment : ChaosExperiment K) (now : K) : ChaosExperiment K :=
  { experiment with
    status := chaosStatusStopped
    updatedAt := now }

theorem run_storeStop (id : String) :
    (ChaosExperimentStore.stopExperiment id).eval (ChaosState.serve env) s =
      match s.data.lookup s.now (.experiment id) with
      | none => (.ok none, s)
      | some experiment => (.ok (some (experiment.stoppedAt s.now)),
          s.stop experiment.id (experiment.stoppedAt s.now)) := by
  rw [ChaosExperimentStore.stopExperiment, Prog.eval_bind_ok (run_getExperiment id)]
  cases s.data.lookup s.now (.experiment id) with
  | none => rfl
  | some experiment =>
      dsimp only
      rw [Prog.eval_bind_ok Chaos.run_time,
        Prog.eval_bind_ok (Chaos.run_setex (k := .experiment experiment.id) _ (by decide))]
      rfl

/-- One stop keeps the accounts where the experiment may be stopped, and the keys of
the others. -/
theorem stopExperiment_accounted (env : ChaosEnv K) (h : Accounted s) {id : String} (hstop : s.Stoppable id) :
    ∃ b s', (stopExperiment id).eval (ChaosState.serve env) s = (.ok b, s') ∧ Accounted s' ∧
      s.SameBut id s' := by
  rw [stopExperiment, Prog.eval_bind, run_storeStop]
  cases hread : s.data.lookup s.now (.experiment id) with
  | none => exact ⟨false, s, rfl, h, rfl, fun j _ => ⟨rfl, rfl⟩⟩
  | some experiment =>
      obtain ⟨e, hslot, -, rfl⟩ := Listed.slot_of_lookup hread
      have hid : e.val.id = id := h.experiment_id id e hslot
      dsimp only
      rw [Prog.eval_bind_ok (run_recordRecovered _), hid]
      refine ⟨true, _, rfl, ?_⟩
      have hstatus : (e.val.stoppedAt s.now).status ≠ chaosStatusRunning := by
        show chaosStatusStopped ≠ chaosStatusRunning
        decide
      have hstored : Accounted (s.stop id (e.val.stoppedAt s.now)) := h.stop hslot rfl hstatus
      have hsame : s.SameBut id (s.stop id (e.val.stoppedAt s.now)) := by
        refine ⟨rfl, fun j hj => ⟨?_, ?_⟩⟩
        · exact Listed.put_slots_of_ne (by simpa using hj)
        · exact Listed.put_slots_of_ne (by simp)
      have hreport : (s.stop id (e.val.stoppedAt s.now)).data.slots (.report id) =
          s.data.slots (.report id) := Listed.put_slots_of_ne (by simp)
      rw [show (e.val.stoppedAt s.now).id = id from hid]
      cases hread' : (s.stop id (e.val.stoppedAt s.now)).data.lookup
          (s.stop id (e.val.stoppedAt s.now)).now (.report id) with
      | none => exact ⟨hstored, hsame⟩
      | some report =>
          obtain ⟨r, hslot', -, rfl⟩ := Listed.slot_of_lookup hread'
          have hnot : r.val.recovered = false := by
            refine hstop (by rw [hread]; rfl) r.val ?_
            rw [Listed.lookup, Store.lookup, hreport] at hread'
            exact hread'
          constructor
          · refine hstored.recover hslot' hnot ?_ _
            intro e' he' hrun
            -- what is stored under its key is not running
            obtain rfl := Option.some.inj (Listed.put_slots_self.symm.trans he')
            exact absurd hrun hstatus
          · refine ⟨rfl, fun j hj => ⟨?_, ?_⟩⟩
            · exact (Listed.put_slots_of_ne (by simp)).trans (hsame.2 j hj).1
            · exact (Listed.put_slots_of_ne (by simpa using hj)).trans (hsame.2 j hj).2

theorem stopEach_accounted {experiments : List (ChaosExperiment K)} (h : Accounted s)
    (hnodup : (experiments.map (·.id)).Nodup)
    (hstop : ∀ experiment ∈ experiments, s.Stoppable experiment.id) :
    ∃ n s', (stopEach experiments).eval (ChaosState.serve env) s = (.ok n, s') ∧
      Accounted s' := by
  induction experiments generalizing s with
  | nil => exact ⟨0, s, rfl, h⟩
  | cons experiment experiments ih =>
      obtain ⟨hnew, hnodup⟩ := List.nodup_cons.mp hnodup
      obtain ⟨b, s₁, heval, h₁, hsame⟩ :=
        stopExperiment_accounted env h (hstop experiment List.mem_cons_self)
      have hstop₁ : ∀ other ∈ experiments, s₁.Stoppable other.id := by
        intro other hother
        refine (hstop other (List.mem_cons_of_mem _ hother)).of_same hsame ?_
        intro heq
        exact hnew (List.mem_map.mpr ⟨other, hother, heq⟩)
      obtain ⟨n, s₂, heval₂, h₂⟩ := ih h₁ hnodup hstop₁
      refine ⟨if b then n + 1 else n, s₂, ?_, h₂⟩
      rw [stopEach, Prog.eval_bind_ok heval, Prog.eval_bind_ok heval₂]
      rfl

/-! ### Stops of what is running -/

omit [Field K] [LinearOrder K] [IsStrictOrderedRing K] in
theorem pySorted_perm (names : List String) : (pySorted names).Perm names :=
  List.perm_insertionSort _ names

omit [Field K] [IsStrictOrderedRing K] in
theorem nodup_listedIds (data : ChaosData K) (now : K) :
    (pySorted ((data.keys now).filterMap ChaosPattern.experiments.match?)).Nodup := by
  rw [(pySorted_perm _).nodup_iff]
  refine Listed.nodup_keys.filterMap ?_
  intro k k' id hk hk'
  cases k <;> cases k' <;> simp_all [ChaosPattern.match?]

theorem mem_listed {includeStopped : Bool} {ids : List String} {experiment : ChaosExperiment K}
    (h : Accounted s) (hmem : experiment ∈ s.listed includeStopped ids) :
    experiment.id ∈ ids ∧ s.data.lookup s.now (.experiment experiment.id) = some experiment ∧
      (includeStopped = true ∨ experiment.status = chaosStatusRunning) := by
  obtain ⟨id, hid, hfilter⟩ := List.mem_filterMap.mp hmem
  obtain ⟨hread, hkeep⟩ := Option.filter_eq_some_iff.mp hfilter
  obtain ⟨e, hslot, -, hval⟩ := Listed.slot_of_lookup hread
  obtain rfl : experiment.id = id := by
    rw [← hval]
    exact h.experiment_id id e hslot
  exact ⟨hid, hread, by simpa using hkeep⟩

theorem nodup_listed (h : Accounted s) (includeStopped : Bool) {ids : List String}
    (hnodup : ids.Nodup) : ((s.listed includeStopped ids).map (·.id)).Nodup := by
  induction ids with
  | nil => exact List.nodup_nil
  | cons id ids ih =>
      obtain ⟨hnew, hrest⟩ := List.nodup_cons.mp hnodup
      rw [ChaosState.listed, List.filterMap_cons]
      split
      · exact ih hrest
      · rename_i experiment hfilter
        have hmem : experiment ∈ s.listed includeStopped [id] := by
          simp [ChaosState.listed, hfilter]
        obtain rfl : experiment.id = id := List.mem_singleton.mp (mem_listed h hmem).1
        refine List.nodup_cons.mpr ⟨fun hin => ?_, ih hrest⟩
        obtain ⟨other, hother, heq⟩ := List.mem_map.mp hin
        have hid : other.id = experiment.id := heq
        exact hnew (hid ▸ (mem_listed h hother).1)

/-- A running experiment may be stopped: its report is not marked before its key is gone. -/
theorem stoppable_of_running (h : Accounted s) {experiment : ChaosExperiment K}
    (hread : s.data.lookup s.now (.experiment experiment.id) = some experiment)
    (hrun : experiment.status = chaosStatusRunning) : s.Stoppable experiment.id := by
  intro _ report hreport
  obtain ⟨e, hslot, halive, hval⟩ := Listed.slot_of_lookup hread
  obtain ⟨r, hr, -, hgone⟩ := h.running _ e hslot (by rwa [hval])
  obtain ⟨r', hr', -, rfl⟩ := Listed.slot_of_lookup hreport
  obtain rfl : r = r' := by simpa [hr] using hr'
  cases hmark : r.val.recovered with
  | false => rfl
  | true => exact absurd halive (by simp [hgone hmark])

/-- The running experiments may be stopped, any part of them. -/
theorem stopRunning_accounted (env : ChaosEnv K) (h : Accounted s)
    (keep : ChaosExperiment K → Bool) :
    ∃ n s', (stopEach ((s.listed false (pySorted ((s.data.keys s.now).filterMap
        ChaosPattern.experiments.match?))).filter keep)).eval (ChaosState.serve env) s =
      (.ok n, s') ∧ Accounted s' := by
  apply stopEach_accounted h
  · exact (nodup_listed h false (nodup_listedIds s.data s.now)).sublist
      (List.filter_sublist.map _)
  · intro experiment hmem
    obtain ⟨-, hread, hrun⟩ := mem_listed h (List.mem_filter.mp hmem).1
    exact stoppable_of_running h hread (by simpa using hrun)

theorem stopAllExperiments_keeps :
    Keeps env (fun _ => True) stopAllExperiments fun _ _ => True := by
  rintro s ⟨h, -⟩
  rw [stopAllExperiments, Prog.eval_bind_ok (run_listExperiments false)]
  obtain ⟨n, s', heval, h'⟩ := stopRunning_accounted env h fun _ => true
  rw [List.filter_true] at heval
  rw [heval]
  exact ⟨h', trivial⟩

theorem stopLegacyFault_keeps (faultType : String) :
    Keeps env (fun _ => True) (stopLegacyFault faultType) fun _ _ => True := by
  rintro s ⟨h, -⟩
  rw [stopLegacyFault, Prog.eval_bind_ok (run_listExperiments false)]
  obtain ⟨n, s', heval, h'⟩ :=
    stopRunning_accounted env h fun experiment => decide (experiment.faultType = faultType)
  refine Triple.ite (P := fun s₀ => s₀ = s) (fun _ => ?_) (fun _ => ?_) s rfl
  · rintro _ rfl
    exact ⟨h, trivial⟩
  · rintro _ rfl
    rw [Prog.eval_bind_ok heval]
    exact ⟨h', trivial⟩

/-! ### Creation, and the answer to a report -/

/-- What creation does once the experiment is built. -/
theorem create_accounted (h : Accounted s) {experiment : ChaosExperiment K}
    (hfresh : times s.activeBook experiment.id .opened = 0)
    (hcreated : experiment.createdAt = s.now)
    (hlabel : targetLabel experiment.target.stored = targetLabel experiment.target) :
    Accounted ((do
      ChaosExperimentStore.createExperiment experiment
      recordCreated experiment
      pure experiment : Chaos K (ChaosExperiment K)).eval (ChaosState.serve env) s).2 := by
  by_cases hduration : 0 < experiment.duration
  · rw [Prog.eval_bind_ok (run_storeExperiment hduration),
      Prog.eval_bind_ok (run_recordCreated experiment)]
    refine h.create hfresh hcreated ?_
    show (⟨_, targetLabel experiment.target.stored⟩ : Labels) = ⟨_, _⟩
    rw [hlabel]
    rfl
  · -- the deadline is refused before anything is counted
    rw [Prog.eval_bind, run_storeExperiment_refused hduration]
    exact h

/-- The id `create_experiment` gives. -/
def newId (env : ChaosEnv K) (s : ChaosState K) (experimentId : Option String) : String :=
  match experimentId with
  | some id => if id = "" then env.hex s.issued else id
  | none => env.hex s.issued

theorem createExperiment_accounted (h : Accounted s) (name hypothesis : String) (target : Dict)
    (faultType : String) (params : Dict) (duration : ℤ) (experimentId : Option String)
    (status : String) (legacyApi : Bool)
    (hfresh : times s.countBook (newId env s experimentId) .opened = 0)
    (hlabel : targetLabel target.stored = targetLabel target) :
    Accounted ((createExperiment name hypothesis target faultType params duration experimentId
      status legacyApi).eval (ChaosState.serve env) s).2 := by
  rw [h.same] at hfresh
  have hissued : Accounted { s with issued := s.issued + 1 } := h.of_eq rfl (le_refl _) rfl rfl
  rw [createExperiment, Prog.eval_bind_ok Chaos.run_time]
  rcases experimentId with - | id
  · rw [Prog.eval_bind_ok Chaos.run_uuid4]
    exact create_accounted hissued hfresh rfl hlabel
  · dsimp only
    rw [newId] at hfresh
    by_cases hid : id = ""
    · rw [if_pos hid] at hfresh ⊢
      rw [Prog.eval_bind_ok Chaos.run_uuid4]
      exact create_accounted hissued hfresh rfl hlabel
    · rw [if_neg hid] at hfresh ⊢
      exact create_accounted h hfresh rfl hlabel

theorem createLegacyExperiment_accounted (h : Accounted s) (faultDefaultTtlSec : ℤ)
    (faultType : String) (params : Dict) (ttlSec : Option ℤ)
    (hfresh : times s.countBook (env.hex s.issued) .opened = 0) :
    Accounted ((createLegacyExperiment faultDefaultTtlSec faultType params ttlSec).eval
      (ChaosState.serve env) s).2 := by
  rw [h.same] at hfresh
  have hissued : Accounted { s with issued := s.issued + 1 } := h.of_eq rfl (le_refl _) rfl rfl
  have hbuild : ∃ experiment : ChaosExperiment K,
      (buildLegacyExperiment faultType params (ttlSec.getD faultDefaultTtlSec)).eval
        (ChaosState.serve env) s = (.ok experiment, { s with issued := s.issued + 1 }) ∧
      experiment.id = env.hex s.issued ∧ experiment.createdAt = s.now ∧
      experiment.target = [("endpoint", .str "*"), ("phase", .str "pre_request")] :=
    ⟨_, rfl, rfl, rfl, rfl⟩
  obtain ⟨experiment, heval, hid, hcreated, htarget⟩ := hbuild
  rw [createLegacyExperiment, Prog.eval_bind_ok heval]
  refine create_accounted hissued (by rwa [hid]) hcreated ?_
  rw [htarget]
  exact targetLabel_stored (by simp [Dict.Wf, Dict.has]) rfl rfl rfl

/-- `build_report` does not mark a report that was not counted. -/
def ChaosState.Reportable (s : ChaosState K) (id : String) : Prop :=
  (s.data.lookup s.now (.experiment id)).isSome = true ∨
    ∀ report ∈ s.data.lookup s.now (.report id), report.recovered = true

instance (s : ChaosState K) (id : String) : Decidable (s.Reportable id) := by
  unfold ChaosState.Reportable
  infer_instance

theorem buildReport_accounted (h : Accounted s) {id : String} (hreport : s.Reportable id) :
    Accounted ((buildReport id).eval (ChaosState.serve env) s).2 := by
  rw [buildReport, Prog.eval_bind_ok (run_getReport id), Prog.eval_bind_ok (run_getExperiment id)]
  cases hread : s.data.lookup s.now (.report id) with
  | none => exact h
  | some report =>
      have hkeep : ¬ ((s.data.lookup s.now (.experiment id)).isNone && !report.recovered) = true := by
        rcases hreport with hsome | hmarked
        · obtain ⟨experiment, he⟩ := Option.isSome_iff_exists.mp hsome
          simp [he]
        · simp [hmarked report hread]
      dsimp only
      rw [if_neg hkeep]
      exact h

end Runs

/-! ### Runs of calls -/

/-- What can happen: a call of one of the entry points, or time that passes. -/
inductive ChaosAct (K : Type)
  | createExperiment (name hypothesis : String) (target : Dict) (faultType : String)
      (params : Dict) (duration : ℤ) (experimentId : Option String) (status : String)
      (legacyApi : Bool)
  | createLegacyExperiment (faultDefaultTtlSec : ℤ) (faultType : String) (params : Dict)
      (ttlSec : Option ℤ)
  | stopExperiment (experimentId : String)
  | stopAllExperiments
  | stopLegacyFault (faultType : String)
  | listExperiments (includeStopped : Bool)
  | getExperiment (experimentId : String)
  | prepareRequestExperiments (request : ChaosRequest)
  | buildReport (experimentId : String)
  | advance (t : K)

namespace ChaosAct

/-- The state after an act; a clock does not go back. -/
def perform (env : ChaosEnv K) (s : ChaosState K) : ChaosAct K → ChaosState K
  | createExperiment name hypothesis target faultType params duration experimentId status legacyApi =>
      ((ChaosDemo.createExperiment name hypothesis target faultType params duration experimentId
        status legacyApi).run env s).2
  | createLegacyExperiment faultDefaultTtlSec faultType params ttlSec =>
      ((ChaosDemo.createLegacyExperiment faultDefaultTtlSec faultType params ttlSec).run env s).2
  | stopExperiment experimentId => ((ChaosDemo.stopExperiment experimentId).run env s).2
  | stopAllExperiments => (ChaosDemo.stopAllExperiments.run env s).2
  | stopLegacyFault faultType => ((ChaosDemo.stopLegacyFault faultType).run env s).2
  | listExperiments includeStopped => ((ChaosDemo.listExperiments includeStopped).run env s).2
  | getExperiment experimentId => ((ChaosDemo.getExperiment experimentId).run env s).2
  | prepareRequestExperiments request =>
      ((ChaosDemo.prepareRequestExperiments request).run env s).2
  | buildReport experimentId => ((ChaosDemo.buildReport experimentId).run env s).2
  | advance t => { s with now := max s.now t }

/-- No experiment was created under the id of a new one. -/
def Fresh (env : ChaosEnv K) (s : ChaosState K) : ChaosAct K → Prop
  | createExperiment _ _ _ _ _ _ experimentId _ _ =>
      times s.countBook (newId env s experimentId) .opened = 0
  | createLegacyExperiment _ _ _ _ => times s.countBook (env.hex s.issued) .opened = 0
  | _ => True

/-- The act counts a recovery where it marks a report, and only there; and a new
experiment has the labels that its report will have. -/
def CountsOnce (s : ChaosState K) : ChaosAct K → Prop
  | createExperiment _ _ target _ _ _ _ _ _ => targetLabel target.stored = targetLabel target
  | stopExperiment experimentId => s.Stoppable experimentId
  | buildReport experimentId => s.Reportable experimentId
  | _ => True

instance (env : ChaosEnv K) (s : ChaosState K) (a : ChaosAct K) : Decidable (a.Fresh env s) := by
  cases a <;> unfold Fresh <;> infer_instance

instance (s : ChaosState K) (a : ChaosAct K) : Decidable (a.CountsOnce s) := by
  cases a <;> unfold CountsOnce <;> infer_instance

/-- **Step.** -/
theorem perform_accounted {env : ChaosEnv K} {s : ChaosState K} (h : Accounted s)
    (a : ChaosAct K) (hfresh : a.Fresh env s) (hcount : a.CountsOnce s) :
    Accounted (a.perform env s) := by
  cases a with
  | createExperiment name hypothesis target faultType params duration experimentId status legacy =>
      exact createExperiment_accounted h name hypothesis target faultType params duration
        experimentId status legacy hfresh hcount
  | createLegacyExperiment faultDefaultTtlSec faultType params ttlSec =>
      exact createLegacyExperiment_accounted h faultDefaultTtlSec faultType params ttlSec hfresh
  | stopExperiment experimentId =>
      obtain ⟨b, s', heval, h', -⟩ := stopExperiment_accounted env h hcount
      rw [perform, Chaos.run, heval]
      exact h'
  | stopAllExperiments =>
      exact stopAllExperiments_keeps.run (fun _ _ hs => hs.1) (fun _ hs => hs) ⟨h, trivial⟩
  | stopLegacyFault faultType =>
      exact (stopLegacyFault_keeps faultType).run (fun _ _ hs => hs.1) (fun _ hs => hs) ⟨h, trivial⟩
  | listExperiments includeStopped =>
      exact (finalizeExpiredReports_keeps.bind fun _ => listExperiments_keeps includeStopped).run
        (fun _ _ hs => hs.1) (fun _ hs => hs) ⟨h, trivial⟩
  | getExperiment experimentId =>
      refine (finalizeExpiredReports_keeps.bind fun _ => ?_).run
        (Q := fun (_ : Option (ChaosExperiment K)) s => Accounted s ∧ True)
        (fun _ _ hs => hs.1) (fun _ hs => hs) ⟨h, trivial⟩
      exact Triple.of_eval (fun s => run_getExperiment experimentId) fun s hs => hs
  | prepareRequestExperiments request =>
      refine (finalizeExpiredReports_keeps.bind fun _ =>
        (listExperiments_keeps false).bind fun experiments => ?_).run
        (Q := fun (_ : List (ChaosExperiment K)) s => Accounted s ∧ True)
        (fun _ _ hs => hs.1) (fun _ hs => hs) ⟨h, trivial⟩
      exact prepareEach_keeps request experiments
  | buildReport experimentId => exact buildReport_accounted h hcount
  | advance t => exact h.of_eq rfl (le_max_left _ _) rfl rfl

end ChaosAct

/-- The states that acts can lead to, each act allowed in the state before it. -/
inductive ChaosRun (env : ChaosEnv K) (may : ChaosState K → ChaosAct K → Prop)
    (s₀ : ChaosState K) : ChaosState K → Prop
  | start : ChaosRun env may s₀ s₀
  | act {s : ChaosState K} (a : ChaosAct K) :
      ChaosRun env may s₀ s → may s a → ChaosRun env may s₀ (a.perform env s)

/-- An empty server, and metrics that nobody has touched. -/
def ChaosState.initial (now : K) : ChaosState K := ⟨Listed.empty, now, 0, 0, []⟩

omit [IsStrictOrderedRing K] in
theorem accounted_initial (now : K) : Accounted (ChaosState.initial now) := by
  refine ⟨rfl, Sound.nil, ?_, ?_, ?_⟩
  · intro id r hslot
    cases hslot
  · intro id e hslot
    cases hslot
  · intro id e hslot
    cases hslot

/-- **Conservation.**  In every run of fresh experiments in which no call counts a marked
report again or marks an uncounted one, the accounts balance in every state. -/
theorem conserved_of_countsOnce (env : ChaosEnv K) (now : K) {s : ChaosState K}
    (hrun : ChaosRun env (fun s a => a.Fresh env s ∧ a.CountsOnce s) (.initial now) s) :
    Conserved s := by
  have haccounted : Accounted s := by
    induction hrun with
    | start => exact accounted_initial now
    | act a _ hmay ih => exact a.perform_accounted ih hmay.1 hmay.2
  exact haccounted.conserved

/-! ### The two steps that break it -/

/-- A stop of an experiment whose report is marked counts it a second time. -/
theorem not_conserved_of_not_stoppable {env : ChaosEnv K} {s : ChaosState K} (h : Accounted s)
    {id : String} (hstop : ¬ s.Stoppable id) :
    ¬ Conserved ((ChaosAct.stopExperiment id).perform env s) := by
  rw [ChaosState.Stoppable] at hstop
  push Not at hstop
  obtain ⟨hsome, report, hreport, hmark⟩ := hstop
  obtain ⟨experiment, hread⟩ := Option.isSome_iff_exists.mp hsome
  obtain ⟨e, hslot, -, rfl⟩ := Listed.slot_of_lookup hread
  obtain ⟨r, hr, -, rfl⟩ := Listed.slot_of_lookup hreport
  have hid : e.val.id = id := h.experiment_id id e hslot
  have hreport' : (s.stop id (e.val.stoppedAt s.now)).data.lookup s.now (.report id) =
      some r.val :=
    (congrArg (live s.now) (Listed.put_slots_of_ne (by simp))).trans hreport
  have heval : ∃ s', (stopExperiment id).eval (ChaosState.serve env) s = (.ok true, s') ∧
      s'.countBook = ⟨id, r.val.labels, .closed⟩ :: s.countBook := by
    rw [stopExperiment, Prog.eval_bind, run_storeStop, hread]
    dsimp only
    rw [Prog.eval_bind_ok (run_recordRecovered _), hid, show (e.val.stoppedAt s.now).id = id from hid]
    refine ⟨_, rfl, ?_⟩
    rw [show (s.stop id (e.val.stoppedAt s.now)).now = s.now from rfl, hreport',
      ← (h.report id r hr).id_eq]
    exact ChaosState.countBook_count
  obtain ⟨s', heval, hbook⟩ := heval
  intro hconserved
  have hle := hconserved.counted_once id
  rw [ChaosAct.perform, Chaos.run, heval, hbook, times_cons_self, h.same] at hle
  have hpos := (h.report id r hr).marked.mp (by simpa using hmark)
  omega

/-- A report that `build_report` marks was not counted. -/
theorem not_conserved_of_not_reportable {env : ChaosEnv K} {s : ChaosState K} (h : Accounted s)
    {id : String} (hreport : ¬ s.Reportable id) :
    ¬ Conserved ((ChaosAct.buildReport id).perform env s) := by
  rw [ChaosState.Reportable] at hreport
  push Not at hreport
  obtain ⟨hgone, report, hread, hmark⟩ := hreport
  obtain ⟨r, hr, -, rfl⟩ := Listed.slot_of_lookup hread
  have hnone : s.data.lookup s.now (.experiment id) = none := by simpa using hgone
  have hperform : (ChaosAct.buildReport id).perform env s =
      s.save id (recovered chaosStatusStopped r.val) := by
    rw [ChaosAct.perform, Chaos.run, buildReport, Prog.eval_bind_ok (run_getReport id),
      Prog.eval_bind_ok (run_getExperiment id), hread, hnone]
    dsimp only
    rw [if_pos (by simpa using hmark), Prog.eval_bind_ok (run_saveReport id _)]
    rfl
  have halive : (0 : K) < (reportTtl r.val.duration : K) :=
    Int.cast_pos.mpr (reportTtl_pos r.val.duration)
  have hmarked : (s.save id (recovered chaosStatusStopped r.val)).data.lookup s.now (.report id) =
      some (recovered chaosStatusStopped r.val) := by
    refine live_eq_some.mpr ⟨_, Listed.put_slots_self, ?_, rfl⟩
    exact alive_some.mpr (lt_add_of_pos_right _ halive)
  intro hconserved
  rw [hperform] at hconserved
  have hone := (hconserved.marked_counted id _ hmarked rfl).2
  have hzero := mt (h.report id r hr).marked.mpr (by simpa using hmark)
  have hsame : times s.activeBook id .closed = 1 := hone
  omega

/-! ### Runs that are computed -/

namespace ChaosAct

def performAll (env : ChaosEnv K) (s : ChaosState K) (acts : List (ChaosAct K)) : ChaosState K :=
  acts.foldl (perform env) s

/-- Every act of the list is allowed where it comes. -/
def AllMay (env : ChaosEnv K) (may : ChaosState K → ChaosAct K → Prop) :
    ChaosState K → List (ChaosAct K) → Prop
  | _, [] => True
  | s, a :: acts => may s a ∧ AllMay env may (a.perform env s) acts

instance AllMay.decidable (env : ChaosEnv K) (may : ChaosState K → ChaosAct K → Prop)
    [∀ s a, Decidable (may s a)] : ∀ s acts, Decidable (AllMay env may s acts)
  | _, [] => .isTrue trivial
  | s, a :: acts =>
      have := AllMay.decidable env may (a.perform env s) acts
      inferInstanceAs (Decidable (_ ∧ _))

end ChaosAct

theorem ChaosRun.performAll {env : ChaosEnv K} {may : ChaosState K → ChaosAct K → Prop}
    {s₀ s : ChaosState K} (h : ChaosRun env may s₀ s) {acts : List (ChaosAct K)}
    (hall : ChaosAct.AllMay env may s acts) :
    ChaosRun env may s₀ (ChaosAct.performAll env s acts) := by
  induction acts generalizing s with
  | nil => exact h
  | cons a acts ih => exact ih (h.act a hall.1) hall.2

/-- An environment that answers `0` and the texts `a`, `aa`, ... -/
def quietEnv : ChaosEnv ℚ := ⟨fun _ => 0, fun n => String.ofList (List.replicate (n + 1) 'a')⟩

/-- An experiment that drops requests, with the given id and duration. -/
def dropAct (experimentId : String) (duration : ℤ) : ChaosAct ℚ :=
  .createExperiment "n" "h" [("endpoint", .str "*")] "drop" [("drop_rate", .num (1 / 2))] duration
    (some experimentId) chaosStatusRunning false

/-- One experiment that comes to its end, one that is stopped, a legacy fault, and a
request that is slowed down. -/
def mixedActs : List (ChaosAct ℚ) :=
  [dropAct "e1" 10, dropAct "e2" 60,
    .createLegacyExperiment 60 "latency" [("latency_ms", .int 500)] none,
    .prepareRequestExperiments ⟨"/orders", "POST"⟩, .advance (11 : ℚ), .listExperiments true,
    .buildReport "e1", .stopExperiment "e2", .stopLegacyFault "latency", .stopAllExperiments,
    .advance (400 : ℚ), .getExperiment "e2"]

theorem conserved_mixedActs :
    Conserved (ChaosAct.performAll quietEnv (.initial 0) mixedActs) ∧
    (ChaosAct.performAll quietEnv (.initial 0) mixedActs).ledger.length = 22 := by
  have hall : ChaosAct.AllMay quietEnv (fun s a => a.Fresh quietEnv s ∧ a.CountsOnce s)
      (.initial 0) mixedActs := by decide +kernel
  exact ⟨conserved_of_countsOnce quietEnv 0 (ChaosRun.start.performAll hall), by decide +kernel⟩

/-- **Counted twice.**  An experiment is created and stopped two times. -/
theorem stopped_twice : ∃ s, ChaosRun quietEnv (fun s a => a.Fresh quietEnv s) (.initial 0) s ∧
    ¬ Conserved s := by
  have hall : ChaosAct.AllMay quietEnv (fun s a => a.Fresh quietEnv s) (.initial 0)
      [dropAct "e1" 60, .stopExperiment "e1", .stopExperiment "e1"] := by decide +kernel
  refine ⟨_, ChaosRun.start.performAll hall, fun h => ?_⟩
  have hle := h.counted_once "e1"
  exact absurd hle (by decide +kernel)

end ChaosDemo
