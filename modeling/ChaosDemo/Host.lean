/-
ChaosDemo/Host.lean

What the service calls outside itself: the Redis server, the clock, the random
source, `uuid.uuid4`, `time.sleep`, and the two entry points of the chaos
engine that run before a service or a store operation.  Every function of the
service is a program over this signature, so a run can be cut between any two
of its calls.

`hostWorld` answers the calls in every way they can be answered.  A Redis
command may succeed, fail before the server sees it (`dropped`), or take effect
and lose its reply (`lost`); a clock may show anything; a chaos hook may raise
anything.  What a statement assumes of a run it says about the log of the run,
with the predicates at the end of this file.
-/
import Mathlib.Algebra.Order.BigOperators.Group.List
import ChaosDemo.Interleave
import ChaosDemo.Redis

namespace ChaosDemo

open CallTree Keyspace

/-- The source counts in milliseconds and in per cent. -/
instance atLeastTwo_thousand : Nat.AtLeastTwo 1000 := ⟨by decide⟩

instance atLeastTwo_hundred : Nat.AtLeastTwo 100 := ⟨by decide⟩

/-! ### Exceptions -/

/-- The data of a `ChaosFaultTriggered` or `ChaosDropTriggered`. -/
structure ChaosFault where
  experimentId : String
  faultType : String
  statusCode : ℤ
  message : String

/-- The exceptions the service tells apart. -/
inductive Exc
  | redisTimeout
  | redisConnection
  | redisOther
  | socketTimeout
  | storage (message : String)
  | validation (message : String)
  | chaosDrop (fault : ChaosFault)
  | chaosFault (fault : ChaosFault)
  | valueError
  | typeError
  | other (name : String)

namespace Exc

/-- `isinstance(exc, redis.RedisError)`. -/
def isRedisError : Exc → Bool
  | redisTimeout => true
  | redisConnection => true
  | redisOther => true
  | _ => false

/-- `DEFAULT_RETRYABLE_EXCEPTIONS`. -/
def isRetryable : Exc → Bool
  | redisTimeout => true
  | redisConnection => true
  | socketTimeout => true
  | _ => false

/-- `isinstance(exc, StorageException)`. -/
def isStorage : Exc → Bool
  | storage _ => true
  | _ => false

/-- `isinstance(exc, ChaosFaultTriggered)`, which includes the drops. -/
def isChaos : Exc → Bool
  | chaosDrop _ => true
  | chaosFault _ => true
  | _ => false

end Exc

/-- `ChaosFaultTriggered.to_response`. -/
def ChaosFault.toResponse (f : ChaosFault) : Dict :=
  [("error", .str f.message), ("fault", .bool true),
    ("experiment_id", .str f.experimentId), ("fault_type", .str f.faultType)]

/-! ### Calls -/

inductive HostOp (K : Type)
  | redis (c : Cmd K)
  | time
  | uniform (lo hi : K)
  | random
  | uuid4
  | sleep (seconds : K)
  | beforeServiceOperation (stage : String)
  | beforeStoreOperation (operation : String)

/-- `uuid4` answers the hex text of the new uuid. -/
abbrev HostOp.Ret {K : Type} : HostOp K → Type
  | redis c => c.Ret
  | time => K
  | uniform _ _ => K
  | random => K
  | uuid4 => String
  | sleep _ => Unit
  | beforeServiceOperation _ => Unit
  | beforeStoreOperation _ => Unit

abbrev HostSig (K : Type) : Sig := ⟨HostOp K, HostOp.Ret⟩

/-- A program of the service. -/
abbrev Host (K α : Type) := Prog (HostSig K) Exc α

namespace Host

variable {K : Type}

def redis (c : Cmd K) : Host K c.Ret := .perform (S := HostSig K) (.redis c)
def time : Host K K := .perform (S := HostSig K) .time
def uniform (lo hi : K) : Host K K := .perform (S := HostSig K) (.uniform lo hi)
def random : Host K K := .perform (S := HostSig K) .random
def uuid4 : Host K String := .perform (S := HostSig K) .uuid4
def sleep (seconds : K) : Host K Unit := .perform (S := HostSig K) (.sleep seconds)
def beforeServiceOperation (stage : String) : Host K Unit :=
  .perform (S := HostSig K) (.beforeServiceOperation stage)
def beforeStoreOperation (operation : String) : Host K Unit :=
  .perform (S := HostSig K) (.beforeStoreOperation operation)

end Host

/-- `str(uuid)`: the hex text in groups of 8, 4, 4, 4 and 12. -/
def uuidStr (hex : String) : String :=
  let cs := hex.toList
  "-".intercalate ([cs.take 8, (cs.drop 8).take 4, (cs.drop 12).take 4,
    (cs.drop 16).take 4, cs.drop 20].map String.ofList)

/-! ### The world -/

/-- The server's data, the true time, and the uuids that were handed out. -/
structure HostState (K : Type) where
  data : Data K
  now : K
  used : List String

/-- The ways a call can be answered. -/
inductive HostChoice (K : Type)
  | done
  | dropped (e : Exc)
  | lost (e : Exc)
  | reading (x : K)
  | fresh (hex : String)
  | raises (e : Exc)

/-- Whether a Redis call can raise `e`. -/
def Exc.fromServer (e : Exc) : Bool := e.isRedisError || e.isRetryable

variable {K : Type} [Field K] [LinearOrder K] [IsStrictOrderedRing K] [FloorRing K]

/-- One call, answered as the choice says; `none` where it cannot be. -/
def HostState.serve (s : HostState K) : (o : HostOp K) → HostChoice K →
    Option (Except Exc o.Ret × HostState K)
  | .redis c, .done =>
      some (.ok (exec s.now s.data c).1, { s with data := (exec s.now s.data c).2 })
  | .redis _, .dropped e => if e.fromServer then some (.error e, s) else none
  | .redis c, .lost e =>
      if e.fromServer then some (.error e, { s with data := (exec s.now s.data c).2 })
      else none
  | .time, .reading x => some (.ok x, s)
  | .uniform _ _, .reading x => some (.ok x, s)
  | .random, .reading x => some (.ok x, s)
  | .uuid4, .fresh hex =>
      if hex ∈ s.used then none else some (.ok hex, { s with used := hex :: s.used })
  | .sleep _, .done => some (.ok (), s)
  | .beforeServiceOperation _, .done => some (.ok (), s)
  | .beforeServiceOperation _, .raises e => some (.error e, s)
  | .beforeStoreOperation _, .done => some (.ok (), s)
  | .beforeStoreOperation _, .raises e => some (.error e, s)
  | _, _ => none

/-- The world: calls are served by `HostState.serve`, and time goes on. -/
def hostWorld (K : Type) [Field K] [LinearOrder K] [IsStrictOrderedRing K] [FloorRing K] :
    World (HostSig K) Exc (HostState K) where
  Choice := HostChoice K
  Drift := K
  serve s o x := s.serve o x
  drift s t := if s.now ≤ t then some { s with now := t } else none

theorem steady_data : Steady (hostWorld K) HostState.data := by
  intro s t s' h
  simp only [hostWorld, Option.ite_none_right_eq_some, Option.some.injEq] at h
  obtain ⟨-, rfl⟩ := h
  rfl

theorem drift_cases {s s' : HostState K} {t : K} (h : (hostWorld K).drift s t = some s') :
    s.now ≤ t ∧ s' = { s with now := t } := by
  simpa [hostWorld, eq_comm] using h

/-- A call takes no time. -/
theorem serve_now {s s' : HostState K} {o : HostOp K} {x : HostChoice K}
    {r : Except Exc o.Ret} (h : (hostWorld K).serve s o x = some (r, s')) : s'.now = s.now := by
  cases o <;> cases x <;> simp [hostWorld, HostState.serve] at h <;> grind

theorem rising_now : Rising (hostWorld K) HostState.now := by
  constructor
  · intro s o x r s' h
    exact (serve_now h).ge
  · intro s t s' h
    obtain ⟨hle, rfl⟩ := drift_cases h
    exact hle

/-- What can become of a Redis command. -/
theorem serve_redis {s s' : HostState K} {c : Cmd K} {x : HostChoice K}
    {r : Except Exc c.Ret} (h : (hostWorld K).serve s (.redis c) x = some (r, s')) :
    (r = .ok (exec s.now s.data c).1 ∧
        s' = { s with data := (exec s.now s.data c).2 }) ∨
      (∃ e, r = .error e ∧ e.fromServer = true ∧
        (s' = s ∨ s' = { s with data := (exec s.now s.data c).2 })) := by
  cases x with
  | done =>
      simp only [hostWorld, HostState.serve, Option.some.injEq, Prod.mk.injEq] at h
      exact .inl ⟨h.1.symm, h.2.symm⟩
  | dropped e =>
      simp only [hostWorld, HostState.serve, Option.ite_none_right_eq_some,
        Option.some.injEq, Prod.mk.injEq] at h
      exact .inr ⟨e, h.2.1.symm, h.1, .inl h.2.2.symm⟩
  | lost e =>
      simp only [hostWorld, HostState.serve, Option.ite_none_right_eq_some,
        Option.some.injEq, Prod.mk.injEq] at h
      exact .inr ⟨e, h.2.1.symm, h.1, .inr h.2.2.symm⟩
  | reading x => simp [hostWorld, HostState.serve] at h
  | fresh hex => simp [hostWorld, HostState.serve] at h
  | raises e => simp [hostWorld, HostState.serve] at h

/-! ### Calls that are answered at once -/

/-- A source of uuids that never repeats one. -/
structure UuidSource where
  next : List String → String
  fresh : ∀ used, next used ∉ used

/-- A source whose next answer is longer than all answers so far. -/
def UuidSource.unary : UuidSource where
  next used := String.ofList (List.replicate ((used.map String.length).sum + 1) '0')
  fresh used hmem := by
    have hle := List.single_le_sum (by simp) _ (List.mem_map_of_mem (f := String.length) hmem)
    simp at hle

/-- Every call succeeds at its first attempt, and no time passes. -/
def HostState.nominal (uuids : UuidSource) (s : HostState K) :
    (o : HostOp K) → Except Exc o.Ret × HostState K
  | .redis c => (.ok (exec s.now s.data c).1, { s with data := (exec s.now s.data c).2 })
  | .time => (.ok s.now, s)
  | .uniform lo _ => (.ok lo, s)
  | .random => (.ok 0, s)
  | .uuid4 => (.ok (uuids.next s.used), { s with used := uuids.next s.used :: s.used })
  | .sleep _ => (.ok (), s)
  | .beforeServiceOperation _ => (.ok (), s)
  | .beforeStoreOperation _ => (.ok (), s)

namespace Host

variable {uuids : UuidSource} {s : HostState K}

@[simp] theorem eval_time : Prog.eval (HostState.nominal uuids) (Host.time : Host K K) s =
    (.ok s.now, s) := rfl

@[simp] theorem eval_redis (c : Cmd K) :
    Prog.eval (HostState.nominal uuids) (Host.redis c) s =
      (.ok (exec s.now s.data c).1, { s with data := (exec s.now s.data c).2 }) := rfl

@[simp] theorem eval_uuid4 : Prog.eval (HostState.nominal uuids) (Host.uuid4 : Host K String) s =
    (.ok (uuids.next s.used), { s with used := uuids.next s.used :: s.used }) := rfl

@[simp] theorem eval_beforeStoreOperation (operation : String) :
    Prog.eval (HostState.nominal uuids)
      (Host.beforeStoreOperation operation : Host K Unit) s = (.ok (), s) := rfl

end Host

end ChaosDemo
