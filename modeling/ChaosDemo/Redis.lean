/-
ChaosDemo/Redis.lean

The Redis server as the service uses it: the keys, the value each one holds,
and the commands, each of them atomic.  The constructor of a `Key` stands for
the constant prefix of its name (`idem:`, `order:`, `cb:open_until`, ...), so
two keys with different prefixes are different keys.

A stored text is kept in parsed form.  `Raw.object` is the text of a JSON
object as `_serialize_record` writes it (keys sorted, so the fields decide the
text), `Raw.text` any text that is not a JSON object, such as the bare order
id of the old record format.  `open_until` is kept as the number its text
shows.

The two scripts of the program, compare-and-delete and circuit_breaker.lua,
are commands of their own: Redis runs a script without interleaving.
-/
import Mathlib.Data.Rat.Floor
import ChaosDemo.Json
import ChaosDemo.SlidingLog

namespace ChaosDemo

open Keyspace SlidingLog

/-! ### Keys and values -/

/-- A text under an `idem:` key. -/
inductive Raw
  | text (s : String)
  | object (fields : Dict)
deriving DecidableEq

/-- `bool(raw)`: the empty text is falsy. -/
def Raw.truthy : Raw → Bool
  | .text s => s != ""
  | .object _ => true

/-- `CircuitBreakerKeys`: the fixed names of the legacy resource, or the names
made from a normalised resource. -/
inductive BreakerKeys
  | legacy
  | named (resource : String)
deriving DecidableEq

/-- The two sorted sets of a breaker. -/
inductive Window
  | failures
  | totals
deriving DecidableEq

inductive Key
  | idem (idemKey : String)
  | order (orderId : String)
  | openUntil (keys : BreakerKeys)
  | probe (keys : BreakerKeys)
  | window (w : Window) (keys : BreakerKeys)
deriving DecidableEq

/-- The `action` argument of circuit_breaker.lua. -/
inductive Action
  | success
  | failure
deriving DecidableEq

/-- A member of a window: the prefix and the hex text of its uuid.  The time in
the member's text is not kept, the uuid alone tells members apart. -/
structure Member where
  window : Window
  hex : String
deriving DecidableEq

/-- The value a key holds. -/
abbrev Val (K : Type) : Key → Type
  | .idem _ => Raw
  | .order _ => Dict
  | .openUntil _ => K
  | .probe _ => Unit
  | .window _ _ => ZSet Member K

/-- The data of the server. -/
abbrev Data (K : Type) := Store Key (Val K) K

/-! ### Commands -/

/-- The `ARGV` of circuit_breaker.lua; `failureMember` is `""` for a success. -/
structure ScriptArgs (K : Type) where
  action : Action
  now : K
  window : ℤ
  ttl : ℤ
  minRequestCount : ℤ
  failureRateThreshold : K
  openTimeout : ℤ
  totalMember : Member
  failureMember : Option Member

/-- The reply of circuit_breaker.lua.  Redis turns every number of a script's
reply into an integer and drops its fractional part. -/
structure ScriptReply where
  opened : ℤ
  failureCount : ℤ
  totalCount : ℤ
  failureRate : ℤ
  openUntil : ℤ

inductive Cmd (K : Type)
  | get (k : Key)
  | set (k : Key) (v : Val K k)
  | setNxEx (k : Key) (v : Val K k) (ex : ℤ)
  | setex (k : Key) (ttl : ℤ) (v : Val K k)
  | delete (ks : List Key)
  | compareAndDelete (idemKey : String) (expected : Raw)
  | zremrangebyscore (w : Window) (keys : BreakerKeys) (max : K)
  | zcard (w : Window) (keys : BreakerKeys)
  | circuitBreaker (keys : BreakerKeys) (args : ScriptArgs K)

/-- What a command replies. -/
abbrev Cmd.Ret {K : Type} : Cmd K → Type
  | .get k => Option (Val K k)
  | .set _ _ => Unit
  | .setNxEx _ _ _ => Bool
  | .setex _ _ _ => Unit
  | .delete _ => ℕ
  | .compareAndDelete _ _ => Bool
  | .zremrangebyscore _ _ _ => Unit
  | .zcard _ _ => ℕ
  | .circuitBreaker _ _ => ScriptReply

variable {K : Type} [Field K] [LinearOrder K] [IsStrictOrderedRing K] [FloorRing K]

/-- The first half of circuit_breaker.lua: both windows are trimmed and the
outcome is added. -/
def addOutcome (server : K) (data : Data K) (keys : BreakerKeys) (a : ScriptArgs K) :
    Data K :=
  let failures := trimSlot server (a.now - a.window) (data (.window .failures keys))
  let totals := trimSlot server (a.now - a.window) (data (.window .totals keys))
  let totals := addSlot server (server + a.ttl) a.now a.totalMember totals
  let failures := match a.action, a.failureMember with
    | .failure, some m => addSlot server (server + a.ttl) a.now m failures
    | _, _ => failures
  (data.write (.window .failures keys) failures).write (.window .totals keys) totals

/-- `failure_count / total_count`, and 0 of nothing. -/
def failureRate (failureCount totalCount : ℕ) : K :=
  if 0 < totalCount then (failureCount : K) / totalCount else 0

/-- circuit_breaker.lua, run by a server whose clock shows `server`. -/
def circuitBreakerLua (server : K) (data : Data K) (keys : BreakerKeys)
    (a : ScriptArgs K) : ScriptReply × Data K :=
  let data := addOutcome server data keys a
  let failureCount := (members server (data (.window .failures keys))).length
  let totalCount := (members server (data (.window .totals keys))).length
  let rate : K := failureRate failureCount totalCount
  let currentOpenUntil := (data.lookup server (.openUntil keys)).getD 0
  if a.minRequestCount ≤ totalCount ∧ a.failureRateThreshold ≤ rate ∧
      currentOpenUntil ≤ a.now then
    let nextOpenUntil := a.now + a.openTimeout
    (⟨1, failureCount, totalCount, pyInt rate, pyInt nextOpenUntil⟩,
      data.put (.openUntil keys) nextOpenUntil none)
  else
    (⟨0, failureCount, totalCount, pyInt rate, pyInt currentOpenUntil⟩, data)

/-- One command at server time `now`. -/
def exec (now : K) (data : Data K) : (c : Cmd K) → c.Ret × Data K
  | .get k => (data.lookup now k, data)
  | .set k v => ((), data.put k v none)
  | .setNxEx k v ex =>
      if (data.lookup now k).isSome then (false, data)
      else (true, data.put k v (some (now + ex)))
  | .setex k ttl v => ((), data.put k v (some (now + ttl)))
  | .delete ks =>
      ((ks.filter fun k => (data.lookup now k).isSome).length, ks.foldl Store.erase data)
  | .compareAndDelete k expected =>
      if data.lookup now (.idem k) = some expected then (true, data.erase (.idem k))
      else (false, data)
  | .zremrangebyscore w keys max =>
      ((), data.write (.window w keys) (trimSlot now max (data (.window w keys))))
  | .zcard w keys => ((members now (data (.window w keys))).length, data)
  | .circuitBreaker keys args => circuitBreakerLua now data keys args

/-! ### What a command can touch -/

/-- The keys a command may change. -/
def Cmd.writes : Cmd K → List Key
  | .get _ => []
  | .set k _ => [k]
  | .setNxEx k _ _ => [k]
  | .setex k _ _ => [k]
  | .delete ks => ks
  | .compareAndDelete k _ => [.idem k]
  | .zremrangebyscore w keys _ => [.window w keys]
  | .zcard _ _ => []
  | .circuitBreaker keys _ =>
      [.window .failures keys, .window .totals keys, .openUntil keys]

omit [IsStrictOrderedRing K] [FloorRing K] in
theorem addOutcome_frame (now : K) (data : Data K) (keys : BreakerKeys) (a : ScriptArgs K)
    {k : Key} (h : ∀ w, k ≠ .window w keys) : addOutcome now data keys a k = data k :=
  (Store.write_of_ne (h .totals)).trans (Store.write_of_ne (h .failures))

/-- **Frame.**  A command leaves every key alone that it does not write. -/
theorem exec_frame (now : K) (data : Data K) (c : Cmd K) {k : Key} (h : k ∉ c.writes) :
    (exec now data c).2 k = data k := by
  cases c with
  | get k' => rfl
  | set k' v => exact Store.put_of_ne (by simpa [Cmd.writes] using h)
  | setNxEx k' v ex =>
      rw [exec]
      split
      · rfl
      · exact Store.put_of_ne (by simpa [Cmd.writes] using h)
  | setex k' ttl v => exact Store.put_of_ne (by simpa [Cmd.writes] using h)
  | delete ks => exact (Store.foldl_erase ks data k).trans (if_neg h)
  | compareAndDelete k' expected =>
      rw [exec]
      split
      · exact Store.erase_of_ne (by simpa [Cmd.writes] using h)
      · rfl
  | zremrangebyscore w keys max =>
      exact Store.write_of_ne (by simpa [Cmd.writes] using h)
  | zcard w keys => rfl
  | circuitBreaker keys a =>
      simp only [Cmd.writes, List.mem_cons, List.not_mem_nil, or_false, not_or] at h
      obtain ⟨hf, ht, ho⟩ := h
      have hdata : addOutcome now data keys a k = data k := by
        apply addOutcome_frame
        intro w
        cases w with
        | failures => exact hf
        | totals => exact ht
      rw [exec, circuitBreakerLua]
      dsimp only
      split
      · exact (Store.put_of_ne ho).trans hdata
      · exact hdata

end ChaosDemo
