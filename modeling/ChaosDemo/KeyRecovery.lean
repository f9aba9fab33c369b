/-
ChaosDemo/KeyRecovery.lean

An idempotency key never stays taken.  A request that has reserved its key may never come back:
its process is gone, or its calls fail and so does the clean-up.  The requests after it are then
told `processing`, but not for long:

    every record has a deadline,
    a record that is not terminal one of at most IDEM_PENDING_TTL_SEC,
    a terminal record one of at most IDEM_TTL_SEC,

in every run of requests, whatever fails in it (`perishable_of_reach`).  So when nobody has
called for IDEM_PENDING_TTL_SEC, a reservation is granted, or it is answered from a terminal
record, and never `processing` (`reserve_after_pending`).
-/
import ChaosDemo.Breaker
import ChaosDemo.ReplayRoundTrip
import ChaosDemo.SingleOrder

set_option linter.unusedSectionVars false

namespace ChaosDemo

open CallTree Keyspace

variable {K : Type} [Field K] [LinearOrder K] [IsStrictOrderedRing K] [FloorRing K]

/-! ### Records perish -/

/-- The text of a terminal record. -/
def ClosedText (v : Raw) : Prop :=
  v.truthy = true ∧ (v.state = idemStateSuccess ∨ v.state = idemStateFailed)

/-- Every idempotency record has a deadline, and one that is not terminal an early one. -/
def Perishable (pending ttl : ℤ) (s : HostState K) : Prop :=
  ∀ k e, s.data (.idem k) = some e → ∃ t, e.expireAt = some t ∧
    (t ≤ s.now + pending ∨ t ≤ s.now + ttl ∧ ClosedText e.val)

theorem Closing.closedText {h : HostHistory K} {v : Raw} (hc : Closing h v) : ClosedText v := by
  refine ⟨?_, hc.terminal⟩
  cases hc with
  | success => rfl
  | failed => rfl

namespace Perishable

variable {pending ttl : ℤ} {s s' : HostState K}

/-- Time passes. -/
theorem drift (h : Perishable pending ttl s) (hdata : s'.data = s.data) (hnow : s.now ≤ s'.now) :
    Perishable pending ttl s' := by
  intro k e he
  rw [hdata] at he
  obtain ⟨t, hexpire, hearly | ⟨hlate, hclosed⟩⟩ := h k e he
  · exact ⟨t, hexpire, .inl (hearly.trans (by gcongr))⟩
  · exact ⟨t, hexpire, .inr ⟨hlate.trans (by gcongr), hclosed⟩⟩

/-- A new record with a deadline takes the place of the old one. -/
theorem put (h : Perishable pending ttl s) (k : String) {v : Raw} {t : K}
    (ht : t ≤ s.now + pending ∨ t ≤ s.now + ttl ∧ ClosedText v) :
    Perishable pending ttl { s with data := s.data.put (.idem k) v (some t) } := by
  intro k' e he
  by_cases hk : k' = k
  · subst hk
    obtain rfl : _ = e := Option.some.inj (Store.put_self.symm.trans he)
    exact ⟨t, rfl, ht⟩
  · have hframe : (s.data.put (.idem k) v (some t)) (.idem k') = s.data (.idem k') :=
      Store.put_of_ne (by simpa using hk)
    exact h k' e (hframe.symm.trans he)

/-- A record is removed. -/
theorem erase (h : Perishable pending ttl s) (k : String) :
    Perishable pending ttl { s with data := s.data.erase (.idem k) } := by
  intro k' e he
  by_cases hk : k' = k
  · subst hk
    cases Store.erase_self.symm.trans he
  · have hframe : (s.data.erase (.idem k)) (.idem k') = s.data (.idem k') :=
      Store.erase_of_ne (by simpa using hk)
    exact h k' e (hframe.symm.trans he)

/-- A command that leaves the records alone. -/
theorem frame (h : Perishable pending ttl s) {c : Cmd K} (hc : ∀ k, Key.idem k ∉ c.writes) :
    Perishable pending ttl { s with data := (ChaosDemo.exec s.now s.data c).2 } := by
  intro k e he
  exact h k e ((exec_frame s.now s.data c (hc k)).symm.trans he)

/-- A command of a request. -/
theorem exec (h : Perishable pending ttl s) {ctx : Ctx K} {key : Option String}
    {ht : HostHistory K} {c : Cmd K} (hpending : ctx.idemPendingTtlSec = pending)
    (httl : ctx.idemTtlSec = ttl) (hcall : (orderClient ctx key).mayCall ht (.redis c)) :
    Perishable pending ttl { s with data := (ChaosDemo.exec s.now s.data c).2 } := by
  cases c with
  | setNxEx key' v ex =>
      cases key' with
      | idem k =>
          obtain ⟨-, rfl, -⟩ := hcall
          cases hlookup : s.data.lookup s.now (.idem k) with
          | none =>
              have hexec : ChaosDemo.exec s.now s.data (.setNxEx (.idem k) v
                  ctx.idemPendingTtlSec) =
                  (true, s.data.put (.idem k) v (some (s.now + ctx.idemPendingTtlSec))) := by
                simp [ChaosDemo.exec, hlookup]
              rw [hexec, hpending]
              exact h.put k (.inl le_rfl)
          | some w =>
              have hexec : ChaosDemo.exec s.now s.data (.setNxEx (.idem k) v
                  ctx.idemPendingTtlSec) = (false, s.data) := by
                simp [ChaosDemo.exec, hlookup]
              rw [hexec]
              exact h
      | _ => exact h.frame hcall
  | setex key' ex v =>
      cases key' with
      | idem k =>
          obtain ⟨-, rfl, -, -, hclosing⟩ := hcall
          subst httl
          exact h.put k (.inr ⟨le_rfl, hclosing.closedText⟩)
      | order orderId => exact h.frame fun k hk => by rcases List.mem_singleton.mp hk
      | _ => exact h.frame hcall
  | compareAndDelete k raw =>
      by_cases hsame : s.data.lookup s.now (.idem k) = some raw
      · have hexec : ChaosDemo.exec s.now s.data (.compareAndDelete k raw) =
            (true, s.data.erase (.idem k)) := if_pos hsame
        rw [hexec]
        exact h.erase k
      · have hexec : ChaosDemo.exec s.now s.data (.compareAndDelete k raw) = (false, s.data) :=
          if_neg hsame
        rw [hexec]
        exact h
  | _ => exact h.frame hcall

/-- After the pending time only terminal records are left. -/
theorem closedText_of_lookup (h : Perishable pending ttl s) {t : K} (ht : s.now + pending ≤ t)
    {k : String} {v : Raw} (hv : s.data.lookup t (.idem k) = some v) : ClosedText v := by
  obtain ⟨⟨v, expireAt⟩, hslot, halive, rfl⟩ := live_eq_some.mp hv
  obtain ⟨t', hexpire, hearly | ⟨-, hclosed⟩⟩ := h k _ hslot
  · -- the deadline of a PROCESSING record is over
    dsimp only at hexpire
    subst hexpire
    exact absurd (alive_some.mp halive) (not_lt.mpr (hearly.trans ht))
  · exact hclosed

/-- After both times no record is left. -/
theorem lookup_eq_none (h : Perishable pending ttl s) {t : K} (ht : s.now + pending ≤ t)
    (ht' : s.now + ttl ≤ t) (k : String) : s.data.lookup t (.idem k) = none := by
  cases hv : s.data.lookup t (.idem k) with
  | none => rfl
  | some v =>
      obtain ⟨⟨v, expireAt⟩, hslot, halive, -⟩ := live_eq_some.mp hv
      obtain ⟨t', hexpire, hle⟩ := h k _ hslot
      dsimp only at hexpire
      subst hexpire
      have hlt : t < t' := alive_some.mp halive
      rcases hle with hearly | ⟨hlate, -⟩
      · exact absurd hlt (not_lt.mpr (hearly.trans ht))
      · exact absurd hlt (not_lt.mpr (hlate.trans ht'))

end Perishable

section Runs

variable {ι : Type} [DecidableEq ι] {pending ttl : ℤ} {ctx : ι → Ctx K} {startedAt : ι → K}
  {command : ι → CreateOrderCommand} {s₀ : HostState K}
  {c : Config (HostSig K) Exc ServiceResult (HostState K) ι}

/-- **Records perish** in every run of requests, whatever fails. -/
theorem perishable_of_reach (hpending : ∀ i, (ctx i).idemPendingTtlSec = pending)
    (httl : ∀ i, (ctx i).idemTtlSec = ttl) (hempty : ∀ k, s₀.data (.idem k) = none)
    (hreach : Reach (hostWorld K) (fun _ _ => True) (ordersAt ctx startedAt command s₀) c) :
    Perishable pending ttl c.state := by
  let Inv : HostState K → HostLog K ι → Prop := fun s _ => Perishable pending ttl s
  refine (hreach.invariant (hostWorld_serves_orders _ ctx fun i => (command i).key?) rfl
    (fun i => orderRequest_obeys (ctx i) (startedAt i) (command i)) (fun _ => ?_) ?_ ?_ :
      Inv c.state c.log)
  · intro k e he
    cases (hempty k).symm.trans he
  · intro s l t s' hinv _ _ hd
    obtain ⟨hle, rfl⟩ := drift_cases hd
    exact hinv.drift rfl hle
  · intro s l i o x r s' hinv _ _ hcall hs
    by_cases ho : ∃ cmd, o = .redis cmd
    · obtain ⟨cmd, rfl⟩ := ho
      have hexec := hinv.exec (hpending i) (httl i) hcall
      -- a call that fails may have taken effect all the same
      rcases serve_redis hs with ⟨-, rfl⟩ | ⟨e, -, -, rfl | rfl⟩
      · exact hexec
      · exact hinv
      · exact hexec
    · have hdata := serve_data (fun cmd hcmd => ho ⟨cmd, hcmd⟩) hs
      exact hinv.drift hdata (serve_now hs).ge

end Runs

/-! ### One more reservation -/

section Reserve

variable (ctx : Ctx K) (uuids : UuidSource) {s : HostState K} {k : String} (fp : String)

theorem eval_executeRedis (operation : String) (c : Cmd K) :
    (executeRedis ctx operation c).eval (HostState.nominal uuids) s =
      (.ok (exec s.now s.data c).1, { s with data := (exec s.now s.data c).2 }) :=
  eval_execute_ok rfl

/-- A free key is reserved. -/
theorem eval_reserve_free (hfree : s.data.lookup s.now (.idem k) = none) : ∃ rec s',
    (reserveIdempotencyKey ctx k fp).eval (HostState.nominal uuids) s = (.ok (.owner, rec), s') := by
  have hexec : ∀ v, exec s.now s.data (.setNxEx (.idem k) v ctx.idemPendingTtlSec) =
      (true, s.data.put (.idem k) v (some (s.now + ctx.idemPendingTtlSec))) := by
    intro v
    simp [exec, hfree]
  rw [reserveIdempotencyKey, reserveNewProcessing, buildProcessingRecord]
  simp only [bind_assoc, pure_bind]
  rw [Prog.eval_bind_ok Host.eval_time, Prog.eval_bind_ok Host.eval_uuid4,
    Prog.eval_bind_ok (eval_executeRedis ctx uuids _ _)]
  dsimp only
  rw [hexec]
  exact ⟨_, _, rfl⟩

theorem eval_recordTimestamp (record : Dict) : ∃ ts,
    (recordTimestamp (K := K) record).eval (HostState.nominal uuids) s = (.ok ts, s) := by
  rw [recordTimestamp]
  split
  · exact ⟨_, rfl⟩
  · exact ⟨_, rfl⟩

/-- A terminal text is read as it is. -/
theorem eval_loadOrEmpty_closed {v : Raw} (hv : s.data.lookup s.now (.idem k) = some v)
    (hclosed : ClosedText v) : ∃ ts,
      (loadOrEmpty ctx k).eval (HostState.nominal uuids) s = (.ok (readAs v ts), s) := by
  have hexec : exec s.now s.data (.get (.idem k)) = (some v, s.data) := by
    rw [← hv]
    rfl
  have hstate : normalizeState (v.data.get "state") ≠ idemStateProcessing := by
    rcases hclosed.2 with h | h
    · rw [Raw.state] at h
      rw [h]
      decide
    · rw [Raw.state] at h
      rw [h]
      decide
  obtain ⟨ts, hts⟩ := eval_recordTimestamp (s := s) uuids
    (v.data.set "state" (.str (normalizeState (v.data.get "state"))))
  refine ⟨ts, ?_⟩
  rw [loadOrEmpty, loadIdempotencyRecord]
  simp only [bind_assoc]
  rw [Prog.eval_bind_ok (eval_executeRedis ctx uuids _ _), hexec]
  dsimp only
  rw [if_pos hclosed.1, normalizeRecord]
  simp only [bind_assoc, pure_bind]
  rw [Prog.eval_bind_ok hts, foundStale, if_neg hstate]
  rfl

theorem isTerminal_readAs {v : Raw} (hclosed : ClosedText v) (ts : ℤ) :
    (readAs v ts).isTerminal = true := by
  rw [Record.isTerminal, readAs_state]
  rcases hclosed.2 with h | h
  · rw [h]
    rfl
  · rw [h]
    rfl

/-- A key with a terminal record is answered from it. -/
theorem eval_reserve_closed {v : Raw} (hv : s.data.lookup s.now (.idem k) = some v)
    (hclosed : ClosedText v) : ∃ st rec s',
      (reserveIdempotencyKey ctx k fp).eval (HostState.nominal uuids) s = (.ok (st, rec), s') ∧
        (st = .replay ∨ st = .conflict) := by
  have hexec : ∀ w, exec s.now s.data (.setNxEx (.idem k) w ctx.idemPendingTtlSec) =
      (false, s.data) := by
    intro w
    simp [exec, hv]
  let s₁ : HostState K := { s with used := uuids.next s.used :: s.used }
  obtain ⟨ts, hload⟩ := eval_loadOrEmpty_closed ctx uuids (s := s₁) hv hclosed
  rw [reserveIdempotencyKey, reserveNewProcessing, buildProcessingRecord]
  simp only [bind_assoc, pure_bind]
  rw [Prog.eval_bind_ok Host.eval_time, Prog.eval_bind_ok Host.eval_uuid4,
    Prog.eval_bind_ok (eval_executeRedis ctx uuids _ _)]
  dsimp only
  rw [hexec]
  show ∃ st rec s', Prog.eval _ (loadOrEmpty ctx k >>= _) s₁ = _ ∧ _
  rw [Prog.eval_bind_ok hload]
  by_cases hconflict : (readAs v ts).conflicts fp = true
  · rw [if_pos hconflict]
    exact ⟨_, _, _, rfl, .inr rfl⟩
  · rw [if_neg hconflict, if_pos (isTerminal_readAs hclosed ts)]
    exact ⟨_, _, _, rfl, .inl rfl⟩

end Reserve

section Recovery

variable {ι : Type} [DecidableEq ι] {pending ttl : ℤ} {ctx : ι → Ctx K} {startedAt : ι → K}
  {command : ι → CreateOrderCommand} {s₀ : HostState K}
  {c : Config (HostSig K) Exc ServiceResult (HostState K) ι}

/-- **A key comes free again**, whatever has become of the requests that had it. -/
theorem reserve_after_pending (hpending : ∀ i, (ctx i).idemPendingTtlSec = pending)
    (httl : ∀ i, (ctx i).idemTtlSec = ttl) (hempty : ∀ k, s₀.data (.idem k) = none)
    (hreach : Reach (hostWorld K) (fun _ _ => True) (ordersAt ctx startedAt command s₀) c)
    {t : K} (ht : c.state.now + pending ≤ t) (client : Ctx K) (uuids : UuidSource)
    (k fp : String) : ∃ st rec s',
      (reserveIdempotencyKey client k fp).eval (HostState.nominal uuids)
        { c.state with now := t } = (.ok (st, rec), s') ∧
      st ≠ .processing ∧ (st = .owner ↔ c.state.data.lookup t (.idem k) = none) ∧
      (c.state.now + ttl ≤ t → st = .owner) := by
  have hinv := perishable_of_reach hpending httl hempty hreach
  cases hv : c.state.data.lookup t (.idem k) with
  | none =>
      obtain ⟨rec, s', heval⟩ := eval_reserve_free client uuids fp
        (s := { c.state with now := t }) hv
      exact ⟨.owner, rec, s', heval, by decide, ⟨fun _ => rfl, fun _ => rfl⟩, fun _ => rfl⟩
  | some v =>
      obtain ⟨st, rec, s', heval, hst⟩ := eval_reserve_closed client uuids fp
        (s := { c.state with now := t }) hv (hinv.closedText_of_lookup ht hv)
      have hne : st ≠ .owner := by
        rcases hst with rfl | rfl <;> decide
      refine ⟨st, rec, s', heval, ?_, ⟨fun h => absurd h hne, fun h => by cases h⟩, fun ht' => ?_⟩
      · rcases hst with rfl | rfl <;> decide
      · cases hv.symm.trans (hinv.lookup_eq_none ht ht' k)

end Recovery

/-- A request reserves its key and does not come back. -/
def reservedOnly : Option (Config (HostSig ℚ) Exc ServiceResult (HostState ℚ) Bool) :=
  sameOrder.run (hostWorld ℚ)
    [.call false (.reading 0), .call false (.fresh "a"), .call false .done, .call false .done]

theorem reservedOnly_checks : (reservedOnly.any fun c =>
    (c.state.data.lookup c.state.now (.idem "k")).isSome) = true := by
  decide +kernel

theorem reserve_after_pending_reservedOnly : ∃ c, reservedOnly = some c ∧
    (c.state.data.lookup c.state.now (.idem "k")).isSome = true ∧ ∃ st rec s',
      (reserveIdempotencyKey plainCtx "k" "fp").eval (HostState.nominal .unary)
        { c.state with now := c.state.now + 15 } = (.ok (st, rec), s') ∧
      st ≠ .processing ∧
      (st = .owner ↔ c.state.data.lookup (c.state.now + 15) (.idem "k") = none) ∧
      (c.state.now + 300 ≤ c.state.now + 15 → st = .owner) := by
  obtain ⟨c, hrun, htaken⟩ := (Option.any_eq_true _ _).mp reservedOnly_checks
  have hstart : Reach (hostWorld ℚ) (fun _ _ => True) sameOrder sameOrder := .start trivial
  have hreach := Reach.of_run (Q := fun _ => True) (fun _ _ _ => trivial) hstart hrun trivial
  exact ⟨c, hrun, htaken, reserve_after_pending (fun _ => rfl) (fun _ => rfl) (fun _ => rfl) hreach
    le_rfl plainCtx .unary "k" "fp"⟩

end ChaosDemo
