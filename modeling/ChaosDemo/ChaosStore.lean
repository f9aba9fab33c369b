/-
ChaosDemo/ChaosStore.lean

chaos_service/chaos/experiment.py and store.py: experiments and their reports, each
under a key of its own with a deadline of its own.

    chaos:experiment:<id>   lives as long as the experiment, 300 s once it is stopped
    chaos:report:<id>       lives 300 s longer than the experiment, from its last write

A stored text is kept as what `json.loads` reads from it, so an experiment that is
stored comes back with the fields of its dictionaries in the order of their keys
(`Dict.stored`), and a text that was read before is in that order already.

A metric is kept as the list of its updates, the latest first.  Every counter and
gauge is a function of that list, and an update says for which experiment it was
made, which the metric itself cannot tell: its labels are a fault type and a target.
-/
import ChaosDemo.Builtins
import ChaosDemo.Host

namespace ChaosDemo

open CallTree Keyspace

variable {K : Type}

/-! ### Experiments and reports -/

/-- `CHAOS_STATUS_RUNNING`. -/
def chaosStatusRunning : String := "running"

/-- `CHAOS_STATUS_STOPPED`. -/
def chaosStatusStopped : String := "stopped"

structure ChaosExperiment (K : Type) where
  id : String
  name : String
  hypothesis : String
  target : Dict
  faultType : String
  params : Dict
  duration : ℤ
  status : String
  createdAt : K
  updatedAt : K
  legacyApi : Bool := false
deriving DecidableEq

/-- `from_dict(json.loads(json.dumps(to_dict())))`. -/
def ChaosExperiment.stored (experiment : ChaosExperiment K) : ChaosExperiment K :=
  { experiment with
    target := experiment.target.stored
    params := experiment.params.stored }

/-- The report of an experiment.  `create_experiment` writes all of its fields and
nothing removes one, so the defaults of `report.get` are never used. -/
structure Report (K : Type) where
  experimentId : String
  experiment : String
  faultType : String
  target : Dict
  hypothesis : String
  createdAt : K
  duration : ℤ
  status : String
  beforeRequestCount : ℤ
  beforeErrorCount : ℤ
  beforeLatencyMs : K
  afterRequestCount : ℤ
  afterErrorCount : ℤ
  afterLatencyMs : K
  fallbackCount : ℤ
  faultInjectedCount : ℤ
  recovered : Bool
deriving DecidableEq

/-- `_REPORT_TTL_BUFFER_SEC`. -/
def reportTtlBufferSec : ℤ := 300

/-! ### Keys and values -/

inductive ChaosKey
  | experiment (experimentId : String)
  | report (experimentId : String)
deriving DecidableEq

abbrev ChaosVal (K : Type) : ChaosKey → Type
  | .experiment _ => ChaosExperiment K
  | .report _ => Report K

abbrev ChaosData (K : Type) := Listed ChaosKey (ChaosVal K) K

/-- The two patterns that are listed. -/
inductive ChaosPattern
  | experiments
  | reports
deriving DecidableEq

/-- The id in a key that matches the pattern. -/
def ChaosPattern.match? : ChaosPattern → ChaosKey → Option String
  | .experiments, .experiment id => some id
  | .reports, .report id => some id
  | _, _ => none

/-! ### Metrics -/

/-- The labels of a chaos metric. -/
structure Labels where
  faultType : String
  target : String
deriving DecidableEq

/-- One update of one metric. -/
inductive MetricOp (K : Type)
  | experimentTotal
  | activeInc
  | activeDec
  | experimentDuration (seconds : K)
  | faultInjected (phase : String)
  | faultRecovered
  | experimentSuccess
  | experimentFailed
  | recoveryDuration (seconds : K)
deriving DecidableEq

/-- An update, and the experiment it was made for. -/
structure MetricUpdate (K : Type) where
  experimentId : String
  labels : Labels
  op : MetricOp K
deriving DecidableEq

/-! ### Calls -/

inductive ChaosOp (K : Type)
  | get (k : ChaosKey)
  | setex (k : ChaosKey) (ttl : ℤ) (v : ChaosVal K k)
  | keys (pattern : ChaosPattern)
  | time
  | uuid4
  | random
  | sleep (seconds : K)
  | metric (update : MetricUpdate K)

abbrev ChaosOp.Ret {K : Type} : ChaosOp K → Type
  | get k => Option (ChaosVal K k)
  | setex _ _ _ => Unit
  | keys _ => List String
  | time => K
  | uuid4 => String
  | random => K
  | sleep _ => Unit
  | metric _ => Unit

abbrev ChaosSig (K : Type) : Sig := ⟨ChaosOp K, ChaosOp.Ret⟩

/-- A program of the chaos package. -/
abbrev Chaos (K α : Type) := Prog (ChaosSig K) Exc α

namespace Chaos

def get (k : ChaosKey) : Chaos K (Option (ChaosVal K k)) := .perform (S := ChaosSig K) (.get k)
def setex (k : ChaosKey) (ttl : ℤ) (v : ChaosVal K k) : Chaos K Unit :=
  .perform (S := ChaosSig K) (.setex k ttl v)
def keys (pattern : ChaosPattern) : Chaos K (List String) :=
  .perform (S := ChaosSig K) (.keys pattern)
def time : Chaos K K := .perform (S := ChaosSig K) .time
def uuid4 : Chaos K String := .perform (S := ChaosSig K) .uuid4
def random : Chaos K K := .perform (S := ChaosSig K) .random
def sleep (seconds : K) : Chaos K Unit := .perform (S := ChaosSig K) (.sleep seconds)
def metric (experimentId : String) (labels : Labels) (op : MetricOp K) : Chaos K Unit :=
  .perform (S := ChaosSig K) (.metric ⟨experimentId, labels, op⟩)

end Chaos

/-! ### Calls that are answered at once -/

/-- What the random source and `uuid4` answer, one call after the other. -/
structure ChaosEnv (K : Type) where
  draw : ℕ → K
  hex : ℕ → String

/-- The server's data, the true time, how many answers were taken from the
environment, and the updates of the metrics. -/
structure ChaosState (K : Type) where
  data : ChaosData K
  now : K
  drawn : ℕ
  issued : ℕ
  ledger : List (MetricUpdate K)

variable [Field K] [LinearOrder K]

/-- One call.  A deadline that is not in the future is refused, and time passes only
in `sleep`. -/
def ChaosState.serve (env : ChaosEnv K) (s : ChaosState K) :
    (o : ChaosOp K) → Except Exc o.Ret × ChaosState K
  | .get k => (.ok (s.data.lookup s.now k), s)
  | .setex k ttl v =>
      if 0 < ttl then (.ok (), { s with data := s.data.put k v (some (s.now + ttl)) })
      else (.error .redisOther, s)
  | .keys pattern => (.ok ((s.data.keys s.now).filterMap pattern.match?), s)
  | .time => (.ok s.now, s)
  | .uuid4 => (.ok (env.hex s.issued), { s with issued := s.issued + 1 })
  | .random => (.ok (env.draw s.drawn), { s with drawn := s.drawn + 1 })
  | .sleep seconds => (.ok (), { s with now := s.now + seconds })
  | .metric update => (.ok (), { s with ledger := update :: s.ledger })

/-- Run a program of the chaos package. -/
abbrev Chaos.run {α : Type} (env : ChaosEnv K) (p : Chaos K α) (s : ChaosState K) :
    Except Exc α × ChaosState K :=
  p.eval (ChaosState.serve env) s

namespace Chaos

variable {env : ChaosEnv K} {s : ChaosState K}

@[simp] theorem run_get (k : ChaosKey) :
    (get k : Chaos K _).eval (ChaosState.serve env) s = (.ok (s.data.lookup s.now k), s) := rfl

theorem run_setex {k : ChaosKey} {ttl : ℤ} (v : ChaosVal K k) (h : 0 < ttl) :
    (setex k ttl v).eval (ChaosState.serve env) s =
      (.ok (), { s with data := s.data.put k v (some (s.now + ttl)) }) := by
  rw [setex, Prog.eval_perform, ChaosState.serve, if_pos h]

theorem run_setex_refused {k : ChaosKey} {ttl : ℤ} (v : ChaosVal K k) (h : ¬ 0 < ttl) :
    (setex k ttl v).eval (ChaosState.serve env) s = (.error .redisOther, s) := by
  rw [setex, Prog.eval_perform, ChaosState.serve, if_neg h]

@[simp] theorem run_keys (pattern : ChaosPattern) :
    (keys pattern : Chaos K _).eval (ChaosState.serve env) s =
      (.ok ((s.data.keys s.now).filterMap pattern.match?), s) := rfl

@[simp] theorem run_time : (time : Chaos K K).eval (ChaosState.serve env) s = (.ok s.now, s) := rfl

@[simp] theorem run_uuid4 : (uuid4 : Chaos K String).eval (ChaosState.serve env) s =
    (.ok (env.hex s.issued), { s with issued := s.issued + 1 }) := rfl

@[simp] theorem run_random : (random : Chaos K K).eval (ChaosState.serve env) s =
    (.ok (env.draw s.drawn), { s with drawn := s.drawn + 1 }) := rfl

@[simp] theorem run_sleep (seconds : K) :
    (sleep seconds : Chaos K Unit).eval (ChaosState.serve env) s = (.ok (), { s with now := s.now + seconds }) := rfl

@[simp] theorem run_metric (experimentId : String) (labels : Labels) (op : MetricOp K) :
    (metric experimentId labels op : Chaos K Unit).eval (ChaosState.serve env) s =
      (.ok (), { s with ledger := ⟨experimentId, labels, op⟩ :: s.ledger }) := rfl

end Chaos

/-! ### The store -/

namespace ChaosExperimentStore

/-- The report `create_experiment` writes. -/
def initialReport (experiment : ChaosExperiment K) : Report K where
  experimentId := experiment.id
  experiment := experiment.name
  faultType := experiment.faultType
  target := experiment.target.stored
  hypothesis := experiment.hypothesis
  createdAt := experiment.createdAt
  duration := experiment.duration
  status := experiment.status
  beforeRequestCount := 0
  beforeErrorCount := 0
  beforeLatencyMs := 0
  afterRequestCount := 0
  afterErrorCount := 0
  afterLatencyMs := 0
  fallbackCount := 0
  faultInjectedCount := 0
  recovered := false

/-- How long a report lives from a write. -/
def reportTtl (duration : ℤ) : ℤ := max (duration + reportTtlBufferSec) reportTtlBufferSec

theorem reportTtl_pos (duration : ℤ) : 0 < reportTtl duration :=
  lt_of_lt_of_le (by decide) (le_max_right _ _)

/-- `create_experiment`. -/
def createExperiment (experiment : ChaosExperiment K) : Chaos K Unit := do
  Chaos.setex (.experiment experiment.id) experiment.duration experiment.stored
  Chaos.setex (.report experiment.id) (reportTtl experiment.duration) (initialReport experiment)

/-- `get_experiment`. -/
def getExperiment (experimentId : String) : Chaos K (Option (ChaosExperiment K)) :=
  Chaos.get (.experiment experimentId)

/-- The loop of `list_experiments`. -/
def listEach (includeStopped : Bool) : List String → Chaos K (List (ChaosExperiment K))
  | [] => pure []
  | id :: ids => do
      let raw ← Chaos.get (.experiment id)
      let rest ← listEach includeStopped ids
      match raw with
      | none => pure rest
      | some experiment =>
          if includeStopped || experiment.status == chaosStatusRunning then
            pure (experiment :: rest)
          else pure rest

/-- `list_experiments`. -/
def listExperiments (includeStopped : Bool) : Chaos K (List (ChaosExperiment K)) := do
  let ids ← Chaos.keys .experiments
  listEach includeStopped (pySorted ids)

/-- `stop_experiment`. -/
def stopExperiment (experimentId : String) : Chaos K (Option (ChaosExperiment K)) := do
  let experiment ← getExperiment experimentId
  match experiment with
  | none => pure none
  | some experiment => do
      let now ← Chaos.time
      let stopped := { experiment with
        status := chaosStatusStopped
        updatedAt := now }
      Chaos.setex (.experiment experiment.id) reportTtlBufferSec stopped
      pure (some stopped)

/-- `get_report`. -/
def getReport (experimentId : String) : Chaos K (Option (Report K)) :=
  Chaos.get (.report experimentId)

/-- `save_report`. -/
def saveReport (experimentId : String) (report : Report K) : Chaos K Unit :=
  Chaos.setex (.report experimentId) (reportTtl report.duration) report

end ChaosExperimentStore

end ChaosDemo
