/-
ChaosDemo/ReportUpdates.lean

Updates of one report by calls that overlap.  `record_injected`, `record_response`,
`record_fallback` and `record_recovered` read the whole report, change a field and
write the whole report back, in two commands between which any other call may write.

    UpToDate id    at every write the stored report is the one the call has read

is what an update relies on.  Then the stored report is the first one with the updates
of the writers applied in the order of their writes (`Sequential`), and a field that
every update adds to holds the sum over the calls, in whatever order they came
(`sum_visits`).  Two calls that overlap lose an update (`overlapping_calls_lose`).
-/
import Mathlib.Algebra.BigOperators.Group.Finset.Basic
import Mathlib.Data.Fintype.Basic
import ChaosDemo.ChaosEngine
import ChaosDemo.Interleave

set_option linter.unusedSectionVars false

namespace ChaosDemo

open CallTree Keyspace ChaosExperimentStore ChaosObserver

variable {K : Type} [Field K] [LinearOrder K] [IsStrictOrderedRing K] {ι : Type}

/-! ### The world -/

/-- The world: calls are served by `ChaosState.serve`, and time goes on between them. -/
def chaosWorld (env : ChaosEnv K) : World (ChaosSig K) Exc (ChaosState K) where
  Choice := Unit
  Drift := K
  serve s o _ := some (s.serve env o)
  drift s t := if s.now ≤ t then some { s with now := t } else none

abbrev ChaosHistory (K : Type) := History (ChaosSig K) Exc

abbrev ChaosEntry (K ι : Type) := Entry (ChaosSig K) Exc (ChaosState K) ι

abbrev ChaosLog (K ι : Type) := Log (ChaosSig K) Exc (ChaosState K) ι

/-! ### The calls -/

/-- A call that updates reports. -/
inductive ReportCall (K : Type)
  | injected (experiment : ChaosExperiment K) (phase : String)
  | responded (experiments : List (ChaosExperiment K)) (response : ChaosResponse K)
  | fellBack (experiments : List (ChaosExperiment K))
  | recovered (experiment : ChaosExperiment K)

namespace ReportCall

def program : ReportCall K → Chaos K Unit
  | injected experiment phase => recordInjected experiment phase
  | responded experiments response => recordResponse response experiments
  | fellBack experiments => recordFallback experiments
  | recovered experiment => recordRecovered experiment

/-- The experiments whose reports the call updates. -/
def experiments : ReportCall K → List (ChaosExperiment K)
  | injected experiment _ => [experiment]
  | responded experiments _ => experiments
  | fellBack experiments => experiments
  | recovered experiment => [experiment]

/-- What it does to each of them. -/
def update : ReportCall K → Report K → Report K
  | injected _ _ => ChaosObserver.injected
  | responded _ response => ChaosObserver.responded response
  | fellBack _ => ChaosObserver.fellBack
  | recovered experiment => ChaosObserver.recovered experiment.status

/-- How often it updates the report of an experiment. -/
def visits (call : ReportCall K) (id : String) : ℕ := (call.experiments.map (·.id)).count id

/-- Faults it records for an experiment. -/
def injections (id : String) : ReportCall K → ℤ
  | call@(injected _ _) => call.visits id
  | _ => 0

/-- Responses it records for an experiment. -/
def responses (id : String) : ReportCall K → ℤ
  | call@(responded _ _) => call.visits id
  | _ => 0

/-- Responses with a status from 500 on. -/
def errors (id : String) : ReportCall K → ℤ
  | call@(responded _ response) => if 500 ≤ response.statusCode then call.visits id else 0
  | _ => 0

/-- The durations of the responses. -/
def latency (id : String) : ReportCall K → K
  | call@(responded _ response) => call.visits id * response.durationMs
  | _ => 0

/-- Fallbacks it records for an experiment. -/
def fallbacks (id : String) : ReportCall K → ℤ
  | call@(fellBack _) => call.visits id
  | _ => 0

/-- Whether it records the recovery of an experiment. -/
def recovers (id : String) : ReportCall K → Prop
  | recovered experiment => experiment.id = id
  | _ => False

end ReportCall

/-- Threads that make one call each. -/
def reportCallsAt (calls : ι → ReportCall K) (s : ChaosState K) :
    Config (ChaosSig K) Exc Unit (ChaosState K) ι :=
  ⟨s, fun i => (calls i).program, []⟩

/-- Nothing is lost: every count of the report has grown by what the calls recorded. -/
structure UpdatesKept [Fintype ι] (calls : ι → ReportCall K) (id : String) (r₀ r : Report K) :
    Prop where
  faultInjectedCount :
    r.faultInjectedCount = r₀.faultInjectedCount + ∑ i, (calls i).injections id
  afterRequestCount : r.afterRequestCount = r₀.afterRequestCount + ∑ i, (calls i).responses id
  afterErrorCount : r.afterErrorCount = r₀.afterErrorCount + ∑ i, (calls i).errors id
  fallbackCount : r.fallbackCount = r₀.fallbackCount + ∑ i, (calls i).fallbacks id
  afterLatencyMs : r.afterLatencyMs = r₀.afterLatencyMs + ∑ i, (calls i).latency id
  recovered : r.recovered = true ↔ r₀.recovered = true ∨ ∃ i, (calls i).recovers id

/-! ### One call -/

/-- The report a program has read last. -/
def lastRead (id : String) : ChaosHistory K → Option (Report K)
  | [] => none
  | ⟨.get (.report j), .ok r⟩ :: h => if j = id then r else lastRead id h
  | _ :: h => lastRead id h

/-- Whether an event writes the report. -/
def writesReport (id : String) (ev : Event (ChaosSig K) Exc) : Bool :=
  match ev.op with
  | .setex (.report j) _ _ => j == id
  | _ => false

/-- A call writes what it has read last, with its update, and meets no report that has
expired. -/
def updateClient (id : String) (call : ReportCall K) : Protocol (ChaosSig K) Exc where
  mayCall h o := match o with
    | .setex (.report j) ttl v => 0 < ttl ∧ ∃ r, lastRead j h = some r ∧ v = call.update r
    | .setex (.experiment _) _ _ => False
    | _ => True
  mayReply _ o r := match o with
    | .get (.report j) => ∃ v : Option (Report K), r = .ok v ∧ (j = id → v ≠ none)
    | .setex _ ttl _ => 0 < ttl → ∃ v, r = .ok v
    | _ => ∃ v, r = .ok v

/-- The call has returned, and has written the report `n` times since `h`. -/
def Wrote (id : String) (n : ℕ) (h : ChaosHistory K) : Post (ChaosSig K) Exc Unit := fun res h' =>
  res = .ok () ∧ h'.countP (writesReport id) = h.countP (writesReport id) + n

section Calls

variable {id : String} {call : ReportCall K} {experiment : ChaosExperiment K} {h : ChaosHistory K}

theorem Wrote.quiet {ev : Event (ChaosSig K) Exc} (hev : writesReport id ev = false) {n : ℕ}
    {res : Except Exc Unit} {h' : ChaosHistory K} (hw : Wrote id n (ev :: h) res h') :
    Wrote id n h res h' := by
  obtain ⟨hres, hcount⟩ := hw
  rw [List.countP_cons_of_neg (by simp [hev])] at hcount
  exact ⟨hres, hcount⟩

/-- One after the other. -/
theorem Wrote.bind {p q : Chaos K Unit} {m n : ℕ}
    (hp : Obeys (updateClient id call) p (Wrote id m h) h)
    (hq : ∀ h', Obeys (updateClient id call) q (Wrote id n h') h') :
    Obeys (updateClient id call) (p >>= fun _ => q) (Wrote id (m + n) h) h := by
  apply Obeys.bind hp
  · intro u h' hw
    refine (hq h').mono fun res h'' hw' => ⟨hw'.1, ?_⟩
    rw [hw'.2, hw.2, Nat.add_assoc]
  · intro e h' hw
    cases hw.1

/-- A report that may be missing is not the one that is watched. -/
theorem count_of_missing {v : Option (Report K)} (hlive : experiment.id = id → v ≠ none)
    (hv : v = none) : [experiment.id].count id = 0 := by
  rw [List.count_singleton, if_neg]
  intro heq
  exact hlive (by simpa using heq) hv

/-- The write of a report that was read. -/
theorem saveReport_obeys {r : Report K} (hread : lastRead experiment.id h = some r) :
    Obeys (updateClient id call) (saveReport experiment.id (call.update r))
      (Wrote id ([experiment.id].count id) h) h := by
  refine ⟨⟨reportTtl_pos _, r, hread, rfl⟩, fun reply hreply => ?_⟩
  obtain ⟨u, rfl⟩ := hreply (reportTtl_pos _)
  refine ⟨rfl, ?_⟩
  rw [List.countP_cons, List.count_singleton]
  rfl

/-- A loop over experiments that reads and writes the report of each. -/
theorem visits_obeys {loop : List (ChaosExperiment K) → Chaos K Unit}
    {f : List (ChaosExperiment K) → ChaosExperiment K → Option (Report K) → Chaos K Unit}
    (hnil : loop [] = pure ())
    (hcons : ∀ experiment experiments, loop (experiment :: experiments) =
      getReport experiment.id >>= f experiments experiment)
    (hnone : ∀ experiment experiments, f experiments experiment none = loop experiments)
    (hsome : ∀ experiment experiments r, f experiments experiment (some r) =
      saveReport experiment.id (call.update r) >>= fun _ => loop experiments)
    (experiments : List (ChaosExperiment K)) (h : ChaosHistory K) :
    Obeys (updateClient id call) (loop experiments)
      (Wrote id ((experiments.map (·.id)).count id) h) h := by
  induction experiments generalizing h with
  | nil =>
      rw [hnil]
      exact ⟨rfl, rfl⟩
  | cons experiment experiments ih =>
      have hcount : ((experiment :: experiments).map (·.id)).count id =
          [experiment.id].count id + (experiments.map (·.id)).count id := by
        rw [← List.count_append]
        rfl
      rw [hcons, hcount]
      refine ⟨trivial, fun reply hreply => ?_⟩
      obtain ⟨v, rfl, hlive⟩ := hreply
      cases v with
      | none =>
          show Obeys _ (f experiments experiment none) _ _
          rw [hnone, count_of_missing hlive rfl, Nat.zero_add]
          exact (ih _).mono fun res h' hw => hw.quiet rfl
      | some r =>
          show Obeys _ (f experiments experiment (some r)) _ _
          rw [hsome]
          refine (Wrote.bind (saveReport_obeys ?_) ih).mono fun res h' hw => hw.quiet rfl
          simp [lastRead]

theorem recordReportRecoveredMetrics_obeys (report : Report K) (j : String) :
    Obeys (updateClient id call) (recordReportRecoveredMetrics report)
      (fun res h' => Wrote id 0 h res h' ∧ lastRead j h' = lastRead j h) h := by
  refine ⟨trivial, fun reply hreply => ?_⟩
  obtain ⟨_, rfl⟩ := hreply
  refine ⟨trivial, fun reply hreply => ?_⟩
  obtain ⟨_, rfl⟩ := hreply
  dsimp only [Prog.ofExcept]
  by_cases herror : report.afterErrorCount = 0
  · rw [if_pos herror]
    refine ⟨trivial, fun reply hreply => ?_⟩
    obtain ⟨_, rfl⟩ := hreply
    refine ⟨trivial, fun reply hreply => ?_⟩
    obtain ⟨_, rfl⟩ := hreply
    refine ⟨trivial, fun reply hreply => ?_⟩
    obtain ⟨_, rfl⟩ := hreply
    exact ⟨⟨rfl, rfl⟩, rfl⟩
  · rw [if_neg herror]
    refine ⟨trivial, fun reply hreply => ?_⟩
    obtain ⟨_, rfl⟩ := hreply
    refine ⟨trivial, fun reply hreply => ?_⟩
    obtain ⟨_, rfl⟩ := hreply
    refine ⟨trivial, fun reply hreply => ?_⟩
    obtain ⟨_, rfl⟩ := hreply
    exact ⟨⟨rfl, rfl⟩, rfl⟩

/-- Every call keeps to its protocol, and writes a report as often as it visits it. -/
theorem ReportCall.obeys (id : String) (call : ReportCall K) :
    Obeys (updateClient id call) call.program (Wrote id (call.visits id) []) [] := by
  cases call with
  | injected experiment phase =>
      refine ⟨trivial, fun reply hreply => ?_⟩
      obtain ⟨u, rfl⟩ := hreply
      refine ⟨trivial, fun reply hreply => ?_⟩
      obtain ⟨v, rfl, hlive⟩ := hreply
      cases v with
      | none =>
          refine ⟨rfl, ?_⟩
          show 0 = 0 + [experiment.id].count id
          rw [count_of_missing hlive rfl]
      | some r =>
          refine (saveReport_obeys ?_).mono fun res h' hw => (hw.quiet rfl).quiet rfl
          simp [lastRead]
  | responded experiments response =>
      exact visits_obeys rfl (fun _ _ => rfl) (fun _ _ => rfl) (fun _ _ _ => rfl) experiments []
  | fellBack experiments =>
      exact visits_obeys rfl (fun _ _ => rfl) (fun _ _ => rfl) (fun _ _ _ => rfl) experiments []
  | recovered experiment =>
      refine ⟨trivial, fun reply hreply => ?_⟩
      obtain ⟨v, rfl, hlive⟩ := hreply
      cases v with
      | none =>
          refine ⟨rfl, ?_⟩
          show 0 = 0 + [experiment.id].count id
          rw [count_of_missing hlive rfl]
      | some r =>
          apply (recordReportRecoveredMetrics_obeys r experiment.id).bind
          · rintro u h' ⟨⟨-, hcount⟩, hread⟩
            refine (saveReport_obeys (hread.trans (by simp [lastRead]))).mono
              fun res h'' hw => ⟨hw.1, ?_⟩
            rw [hw.2, hcount]
            rfl
          · rintro e h' ⟨⟨hres, -⟩, -⟩
            cases hres

end Calls

/-! ### Any number of calls -/

variable [DecidableEq ι]

/-- The writers of the report, the latest first. -/
def writers (id : String) (l : ChaosLog K ι) : List ι :=
  l.filterMap fun e => if writesReport id e.event then some e.who else none

/-- At a write of the report, what is stored is what the writer has read. -/
def UpToDateAt (id : String) (e : ChaosEntry K ι) (old : ChaosLog K ι) : Prop :=
  writesReport id e.event = true →
    e.before.data.lookup e.before.now (.report id) = lastRead id (own e.who old)

/-- So it is at every write of the report. -/
def UpToDate (id : String) : ChaosLog K ι → Prop
  | [] => True
  | e :: old => UpToDateAt id e old ∧ UpToDate id old

instance decidableUpToDate (id : String) : (l : ChaosLog K ι) → Decidable (UpToDate id l)
  | [] => isTrue trivial
  | e :: old =>
      have := decidableUpToDate id old
      have : Decidable (UpToDateAt id e old) := by
        unfold UpToDateAt
        infer_instance
      inferInstanceAs (Decidable (UpToDateAt id e old ∧ UpToDate id old))

theorem count_writers (id : String) (i : ι) (l : ChaosLog K ι) :
    (own i l).countP (writesReport id) = (writers id l).count i := by
  induction l with
  | nil => rfl
  | cons e l ih =>
      by_cases hwho : e.who = i
      · subst hwho
        rw [own_cons_self, List.countP_cons, ih, writers, writers, List.filterMap_cons]
        by_cases hw : writesReport id e.event = true
        · simp [hw]
        · simp [hw]
      · rw [own_cons_of_ne hwho, ih, writers, writers, List.filterMap_cons]
        by_cases hw : writesReport id e.event = true
        · simp [hw, hwho]
        · simp [hw]

theorem chaosWorld_serves (env : ChaosEnv K) (id : String) (calls : ι → ReportCall K) :
    Serves (chaosWorld env)
      (fun s l => (s.data.lookup s.now (.report id)).isSome = true ∧ UpToDate id l)
      fun i => updateClient id (calls i) := by
  intro i s l o x r s' hs hP
  obtain ⟨hlive, -⟩ := hP
  simp only [chaosWorld, Option.some.injEq, Prod.ext_iff] at hs
  obtain ⟨rfl, rfl⟩ := hs
  cases o with
  | get k =>
      cases k with
      | experiment j => exact ⟨_, rfl⟩
      | report j =>
          refine ⟨_, rfl, ?_⟩
          rintro rfl hnone
          rw [show (s.serve env (.get (.report j))).2 = s from rfl, hnone] at hlive
          cases hlive
  | setex k ttl v =>
      intro httl
      exact ⟨(), by rw [ChaosState.serve, if_pos httl]⟩
  | keys pattern => exact ⟨_, rfl⟩
  | time => exact ⟨_, rfl⟩
  | uuid4 => exact ⟨_, rfl⟩
  | random => exact ⟨_, rfl⟩
  | sleep seconds => exact ⟨_, rfl⟩
  | metric update => exact ⟨_, rfl⟩

/-- The stored report is the first one with the writers' updates, in the order of their
writes. -/
def Sequential (calls : ι → ReportCall K) (id : String) (r₀ : Report K) (s : ChaosState K)
    (l : ChaosLog K ι) : Prop :=
  ∃ e : Timed (Report K) K, s.data.slots (.report id) = some e ∧
    e.val = (writers id l).foldr (fun i r => (calls i).update r) r₀

theorem Sequential.quiet {calls : ι → ReportCall K} {id : String} {r₀ : Report K}
    {s s' : ChaosState K} {l : ChaosLog K ι} {i : ι} {ev : Event (ChaosSig K) Exc}
    (h : Sequential calls id r₀ s l) (hev : writesReport id ev = false)
    (hslot : s'.data.slots (.report id) = s.data.slots (.report id)) :
    Sequential calls id r₀ s' (⟨i, ev, s, s'⟩ :: l) := by
  obtain ⟨e, he, hval⟩ := h
  refine ⟨e, hslot.trans he, ?_⟩
  rw [writers, List.filterMap_cons_none (by simp [hev])]
  exact hval

/-- **Step and run.**  UpToDate updates are applied one after the other. -/
theorem sequential_of_upToDate (env : ChaosEnv K) (calls : ι → ReportCall K) (id : String)
    {s₀ : ChaosState K} {r₀ : Report K}
    (hread : s₀.data.lookup s₀.now (.report id) = some r₀)
    {c : Config (ChaosSig K) Exc Unit (ChaosState K) ι}
    (hreach : Reach (chaosWorld env)
      (fun s l => (s.data.lookup s.now (.report id)).isSome = true ∧ UpToDate id l)
      (reportCallsAt calls s₀) c) : Sequential calls id r₀ c.state c.log := by
  let Inv : ChaosState K → ChaosLog K ι → Prop := Sequential calls id r₀
  show Inv c.state c.log
  refine hreach.invariant (chaosWorld_serves env id calls) rfl
    (fun i => (calls i).obeys id) ?_ ?_ ?_
  · intro _
    obtain ⟨e, he, -, hval⟩ := Listed.slot_of_lookup hread
    exact ⟨e, he, hval⟩
  · intro s l t s' hinv _ _ hd
    obtain ⟨-, rfl⟩ : s.now ≤ t ∧ { s with now := t } = s' := by simpa [chaosWorld] using hd
    exact hinv
  · intro s l i o x r s' hinv _ hP hcall hs
    simp only [chaosWorld, Option.some.injEq, Prod.ext_iff] at hs
    obtain ⟨rfl, rfl⟩ := hs
    cases o with
    | setex k ttl v =>
        cases k with
        | experiment j => exact hcall.elim
        | report j =>
            obtain ⟨httl, r', hlast, rfl⟩ := hcall
            have hserve : (s.serve env (.setex (.report j) ttl ((calls i).update r'))).2.data =
                s.data.put (.report j) ((calls i).update r') (some (s.now + ttl)) := by
              rw [ChaosState.serve, if_pos httl]
            by_cases hj : j = id
            · subst hj
              -- what is stored is what the writer has read
              have hsame : s.data.lookup s.now (.report j) = lastRead j (own i l) :=
                hP.2.1 (by simp [writesReport])
              rw [hlast] at hsame
              obtain ⟨e, he, -, hval⟩ := Listed.slot_of_lookup hsame
              obtain ⟨e', he', hfold⟩ := hinv
              obtain rfl : e = e' := by simpa [he] using he'
              refine ⟨_, (congrArg (fun d => d.slots (.report j)) hserve).trans
                Listed.put_slots_self, ?_⟩
              rw [writers, List.filterMap_cons_some (by simp [writesReport]; rfl),
                List.foldr_cons, ← writers, ← hfold, hval]
            · refine hinv.quiet (by simp [writesReport, hj]) ?_
              rw [hserve]
              exact Listed.put_slots_of_ne (by simpa using Ne.symm hj)
    | get k => exact hinv.quiet rfl rfl
    | keys pattern => exact hinv.quiet rfl rfl
    | time => exact hinv.quiet rfl rfl
    | uuid4 => exact hinv.quiet rfl rfl
    | random => exact hinv.quiet rfl rfl
    | sleep seconds => exact hinv.quiet rfl rfl
    | metric update => exact hinv.quiet rfl rfl

/-! ### What the updates add up to -/

section Sums

variable [Fintype ι] {calls : ι → ReportCall K} {id : String}

/-- A field that every update adds to holds the sum over the writers. -/
theorem sum_updates {A : Type} [AddCommMonoid A] {f : Report K → A} {w : ReportCall K → A}
    (hadd : ∀ call r, f (call.update r) = f r + w call) (is : List ι) (r₀ : Report K) :
    f (is.foldr (fun i r => (calls i).update r) r₀) = f r₀ + ∑ i, is.count i • w (calls i) := by
  induction is with
  | nil => simp
  | cons i is ih =>
      have hsum : ∑ j, (i :: is).count j • w (calls j) =
          (∑ j, is.count j • w (calls j)) + w (calls i) := by
        simp only [List.count_cons, add_nsmul, Finset.sum_add_distrib]
        congr 1
        rw [Finset.sum_eq_single i]
        · simp [one_nsmul]
        · intro j _ hj
          simp [Ne.symm hj]
        · simp
      rw [List.foldr_cons, hadd, ih, hsum, add_assoc]

/-- So it holds the sum over the calls, when each has written as often as it should. -/
theorem sum_visits {A : Type} [AddCommMonoid A] {f : Report K → A} {w g : ReportCall K → A}
    {is : List ι} (hcount : ∀ i, is.count i = (calls i).visits id)
    (hadd : ∀ call r, f (call.update r) = f r + w call)
    (hg : ∀ call, call.visits id • w call = g call) (r₀ : Report K) :
    f (is.foldr (fun i r => (calls i).update r) r₀) = f r₀ + ∑ i, g (calls i) := by
  rw [sum_updates hadd]
  congr 1
  refine Finset.sum_congr rfl fun i _ => ?_
  rw [hcount, hg]

/-- A report is marked when one of the updates marks it. -/
theorem recovered_updates (is : List ι) (r₀ : Report K) :
    (is.foldr (fun i r => (calls i).update r) r₀).recovered = true ↔
      r₀.recovered = true ∨ ∃ i ∈ is, ∃ experiment, calls i = .recovered experiment := by
  induction is with
  | nil => simp
  | cons i is ih =>
      rw [List.foldr_cons]
      have hstep : ∀ r : Report K, ((calls i).update r).recovered = true ↔
          r.recovered = true ∨ ∃ experiment, calls i = .recovered experiment := by
        intro r
        cases hcall : calls i with
        | recovered experiment =>
            exact ⟨fun _ => .inr ⟨experiment, rfl⟩, fun _ => rfl⟩
        | injected experiment phase =>
            exact ⟨.inl, fun h => h.elim (fun hr => hr) fun ⟨_, heq⟩ => nomatch heq⟩
        | responded experiments response =>
            exact ⟨.inl, fun h => h.elim (fun hr => hr) fun ⟨_, heq⟩ => nomatch heq⟩
        | fellBack experiments =>
            exact ⟨.inl, fun h => h.elim (fun hr => hr) fun ⟨_, heq⟩ => nomatch heq⟩
      rw [hstep, ih]
      simp only [List.mem_cons]
      constructor
      · rintro ((hr | ⟨j, hj, hcall⟩) | hcall)
        · exact .inl hr
        · exact .inr ⟨j, .inr hj, hcall⟩
        · exact .inr ⟨i, .inl rfl, hcall⟩
      · rintro (hr | ⟨j, rfl | hj, hcall⟩)
        · exact .inl (.inl hr)
        · exact .inr hcall
        · exact .inl (.inr ⟨j, hj, hcall⟩)

/-- The updates of writers who wrote as often as they should are all there. -/
theorem updatesKept_of_count {is : List ι} (hcount : ∀ i, is.count i = (calls i).visits id)
    (r₀ : Report K) :
    UpdatesKept calls id r₀ (is.foldr (fun i r => (calls i).update r) r₀) := by
  constructor
  · apply sum_visits (w := fun call => match call with | .injected _ _ => 1 | _ => 0) hcount
    · intro call r
      cases call <;> simp [ReportCall.update, injected, responded, fellBack, recovered]
    · intro call
      cases call <;> simp [ReportCall.injections]
  · apply sum_visits (w := fun call => match call with | .responded _ _ => 1 | _ => 0) hcount
    · intro call r
      cases call <;> simp [ReportCall.update, injected, responded, fellBack, recovered]
    · intro call
      cases call <;> simp [ReportCall.responses]
  · apply sum_visits (w := fun call => match call with
      | .responded _ response => if 500 ≤ response.statusCode then 1 else 0
      | _ => 0) hcount
    · intro call r
      cases call with
      | responded experiments response =>
          simp only [ReportCall.update, responded]
          split <;> simp
      | _ => simp [ReportCall.update, injected, fellBack, recovered]
    · intro call
      cases call with
      | responded experiments response =>
          simp only [ReportCall.errors]
          split <;> simp
      | _ => simp [ReportCall.errors]
  · apply sum_visits (w := fun call => match call with | .fellBack _ => 1 | _ => 0) hcount
    · intro call r
      cases call <;> simp [ReportCall.update, injected, responded, fellBack, recovered]
    · intro call
      cases call <;> simp [ReportCall.fallbacks]
  · apply sum_visits (w := fun call => match call with
      | .responded _ response => response.durationMs
      | _ => 0) hcount
    · intro call r
      cases call <;> simp [ReportCall.update, injected, responded, fellBack, recovered]
    · intro call
      cases call <;> simp [ReportCall.latency]
  · rw [recovered_updates]
    constructor
    · rintro (hr | ⟨i, hi, experiment, hcall⟩)
      · exact .inl hr
      · refine .inr ⟨i, ?_⟩
        have hpos : 0 < (calls i).visits id := hcount i ▸ List.count_pos_iff.mpr hi
        rw [hcall] at hpos ⊢
        have hmem := List.count_pos_iff.mp hpos
        exact (List.mem_singleton.mp hmem).symm
    · rintro (hr | ⟨i, hi⟩)
      · exact .inl hr
      · refine .inr ⟨i, ?_⟩
        cases hcall : calls i with
        | recovered experiment =>
            rw [hcall] at hi
            obtain rfl : experiment.id = id := hi
            refine ⟨List.count_pos_iff.mp ?_, experiment, rfl⟩
            rw [hcount, hcall]
            simp [ReportCall.visits, ReportCall.experiments]
        | _ =>
            rw [hcall] at hi
            exact hi.elim

end Sums

/-- **No update is lost.**  In every run of any number of calls in which each writes over
the report it has read, and the report does not expire, it has all the updates once the
calls are over. -/
theorem updatesKept_of_upToDate [Fintype ι] (env : ChaosEnv K) (calls : ι → ReportCall K)
    (id : String) {s₀ : ChaosState K} {r₀ : Report K}
    (hread : s₀.data.lookup s₀.now (.report id) = some r₀)
    {c : Config (ChaosSig K) Exc Unit (ChaosState K) ι}
    (hreach : Reach (chaosWorld env)
      (fun s l => (s.data.lookup s.now (.report id)).isSome = true ∧ UpToDate id l)
      (reportCallsAt calls s₀) c)
    (hdone : ∀ i, (c.thread i).finished = true) :
    ∃ r, c.state.data.lookup c.state.now (.report id) = some r ∧ UpdatesKept calls id r₀ r := by
  obtain ⟨e, he, hfold⟩ := sequential_of_upToDate env calls id hread hreach
  obtain ⟨r, hr⟩ := Option.isSome_iff_exists.mp hreach.holds.1
  obtain ⟨e', he', -, rfl⟩ := Listed.slot_of_lookup hr
  obtain rfl : e = e' := by simpa [he] using he'
  refine ⟨e.val, hr, ?_⟩
  rw [hfold]
  apply updatesKept_of_count
  intro i
  -- a call that is over has written as often as it should
  obtain ⟨res, hres⟩ := Prog.finished_iff.mp (hdone i)
  have hpost := hreach.post (chaosWorld_serves env id calls) rfl (fun i => (calls i).obeys id) hres
  rw [← count_writers]
  simpa using hpost.2

/-! ### Calls that overlap -/

/-- An experiment that drops requests. -/
def dropExperiment : ChaosExperiment ℚ where
  id := "e1"
  name := "n"
  hypothesis := "h"
  target := []
  faultType := "drop"
  params := [("drop_rate", .num (1 / 2))]
  duration := 60
  status := chaosStatusRunning
  createdAt := 0
  updatedAt := 0

/-- Its report, stored at its creation. -/
def oneReport : ChaosState ℚ where
  data := Listed.empty.put (.report "e1") (initialReport dropExperiment) (some 360)
  now := 0
  drawn := 0
  issued := 0
  ledger := []

/-- A fault that is injected, a response, and the recovery. -/
def threeCalls : Fin 3 → ReportCall ℚ
  | 0 => .injected dropExperiment "service"
  | 1 => .responded [dropExperiment] ⟨503, 15⟩
  | 2 => .recovered dropExperiment

/-- The environment answers nothing that these calls ask for. -/
def noEnv : ChaosEnv ℚ := ⟨fun _ => 0, fun _ => ""⟩

/-- A step of one of the calls. -/
def stepOf (i : Fin 3) : Move (chaosWorld noEnv) (Fin 3) := .call i ()

/-- The fault is counted while the response is written, then the report is read again. -/
def upToDateRun : Option (Config (ChaosSig ℚ) Exc Unit (ChaosState ℚ) (Fin 3)) :=
  (reportCallsAt threeCalls oneReport).runWhile (chaosWorld noEnv)
    (fun s l => (s.data.lookup s.now (.report "e1")).isSome = true ∧ UpToDate "e1" l)
    ([1, 0, 1, 0, 0, 2, 2, 2, 2, 2, 2, 2].map stepOf)

theorem upToDateRun_isSome : upToDateRun.isSome = true := by decide +kernel

theorem updatesKept_upToDateRun :
    (∃ r, (upToDateRun.get upToDateRun_isSome).state.data.lookup
        (upToDateRun.get upToDateRun_isSome).state.now (.report "e1") = some r ∧
      UpdatesKept threeCalls "e1" (initialReport dropExperiment) r) ∧
    ((upToDateRun.get upToDateRun_isSome).state.data.lookup 0 (.report "e1")).map
      (fun r : Report ℚ => (r.faultInjectedCount, r.afterErrorCount, r.recovered)) =
        some (1, 1, true) := by
  have hstart : Reach (chaosWorld noEnv)
      (fun s l => (s.data.lookup s.now (.report "e1")).isSome = true ∧ UpToDate "e1" l)
      (reportCallsAt threeCalls oneReport) (reportCallsAt threeCalls oneReport) :=
    .start ⟨by decide +kernel, trivial⟩
  have hreach := hstart.of_runWhile (Option.some_get upToDateRun_isSome).symm
  refine ⟨updatesKept_of_upToDate noEnv threeCalls "e1" (by decide +kernel) hreach ?_, ?_⟩
  · decide +kernel
  · decide +kernel

/-- The response is read before the fault is written, and written after it. -/
def overlappingRun : Option (Config (ChaosSig ℚ) Exc Unit (ChaosState ℚ) (Fin 3)) :=
  (reportCallsAt threeCalls oneReport).runWhile (chaosWorld noEnv)
    (fun s _ => (s.data.lookup s.now (.report "e1")).isSome = true)
    ([0, 0, 1, 0, 1, 2, 2, 2, 2, 2, 2, 2].map stepOf)

theorem overlappingRun_isSome : overlappingRun.isSome = true := by decide +kernel

/-- **A lost update**: the calls are over, and no fault is in the report. -/
theorem overlapping_calls_lose :
    ∃ c : Config (ChaosSig ℚ) Exc Unit (ChaosState ℚ) (Fin 3),
      Reach (chaosWorld noEnv)
        (fun s _ => (s.data.lookup s.now (.report "e1")).isSome = true)
        (reportCallsAt threeCalls oneReport) c ∧
      (∀ i, (c.thread i).finished = true) ∧
      ¬ ∃ r, c.state.data.lookup c.state.now (.report "e1") = some r ∧
        UpdatesKept threeCalls "e1" (initialReport dropExperiment) r := by
  have hstart : Reach (chaosWorld noEnv)
      (fun s _ => (s.data.lookup s.now (.report "e1")).isSome = true)
      (reportCallsAt threeCalls oneReport) (reportCallsAt threeCalls oneReport) :=
    .start (by decide +kernel)
  refine ⟨overlappingRun.get overlappingRun_isSome,
    hstart.of_runWhile (Option.some_get overlappingRun_isSome).symm, by decide +kernel, ?_⟩
  rintro ⟨r, hread, hkept⟩
  have hzero : ((overlappingRun.get overlappingRun_isSome).state.data.lookup
      (overlappingRun.get overlappingRun_isSome).state.now (.report "e1")).map
        (fun r : Report ℚ => r.faultInjectedCount) = some 0 := by decide +kernel
  rw [hread] at hzero
  have hnone : r.faultInjectedCount = 0 := Option.some.inj hzero
  have hone := hkept.faultInjectedCount
  rw [hnone] at hone
  exact absurd hone (by decide +kernel)

end ChaosDemo
