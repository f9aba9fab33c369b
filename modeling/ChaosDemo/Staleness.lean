/-
ChaosDemo/Staleness.lean

When a PROCESSING record counts as stale.  The record shows the second in which
it was built, truncated; the reader subtracts that from a clock that is not
truncated.  So a record built at `t` is given up at `⌊t⌋ + ttl`, up to a second
before the reservation's own Redis deadline `t + ttl`.

The setting is one client that meets the unchanged record of another: every
`GET` of the key answers the same text, every `SET NX` is refused, and the
client's clock readings come from a set `R`.
-/
import ChaosDemo.StoreProtocol

set_option linter.unusedSectionVars false

namespace ChaosDemo

open CallTree

variable {K : Type} [Field K] [LinearOrder K] [IsStrictOrderedRing K] [FloorRing K]

/-- The answer a call gets while the text `v` stays under the key. -/
structure StandingReply (k : String) (v : Raw) (R : K → Prop) (e : HostEvent K) : Prop where
  hosted : HostReply e.op e.reply
  read : ∀ found, e = getEvent k found → found = some v
  reserve : ∀ raw ttl r, e = setNxEvent k raw ttl r → r ≠ .ok true
  clock : ∀ t, e = timeEvent t → R t

/-- The text `v` stays under the key, the clock shows times in `R`, and nobody
tries to remove the text. -/
def standing (k : String) (v : Raw) (R : K → Prop) : Protocol (HostSig K) Exc where
  mayCall _ o := ∀ raw, o ≠ .redis (.compareAndDelete k raw)
  mayReply _ o r := StandingReply k v R ⟨o, r⟩

/-- Clock readings at which the reservation built at `t` is less than
`IDEM_PENDING_TTL_SEC` old. -/
def LiveReading (ctx : Ctx K) (t : K) (R : K → Prop) (t' : K) : Prop :=
  R t' ∧ t ≤ t' ∧ t' - t < (ctx.idemPendingTtlSec : K)

/-- A live reservation is not judged stale: whoever meets the record built at
`t`, with clock readings in `R` at which it is live, loads it as PROCESSING,
does not take it over and does not report it missing. -/
def JudgedInTime (ctx : Ctx K) (t : K) (R : K → Prop) : Prop :=
  ∀ k hex fp fp',
    let P := standing k (processingRaw (pyInt t) hex fp) (LiveReading ctx t R)
    (∀ h found, Outcome (loadIdempotencyRecord ctx k) [] h (.ok found) → Answered P [] h →
      ∃ r, found = some r ∧ r.get "state" = .str idemStateProcessing) ∧
    (∀ h res, Outcome (reserveIdempotencyKey ctx k fp') [] h res → Answered P [] h →
      (∀ e ∈ h, ∀ raw, e.op ≠ .redis (.compareAndDelete k raw)) ∧
        ∀ r, res ≠ .ok (.owner, r)) ∧
    (∀ h res, Outcome (waitForIdempotencyResult ctx k fp') [] h res → Answered P [] h →
      ∀ r, res ≠ .ok (.missing, r))

section Standing

variable {k : String} {v : Raw} {R : K → Prop}

/-- A history in which the text stayed and nobody tried to remove it. -/
def StandingHistory (k : String) (v : Raw) (R : K → Prop) (h : HostHistory K) : Prop :=
  ∀ e ∈ h, StandingReply k v R e ∧ ∀ raw, e.op ≠ .redis (.compareAndDelete k raw)

theorem StandingHistory.cons {h : HostHistory K} (hh : StandingHistory k v R h)
    {o : HostOp K} {r : Except Exc o.Ret} (hcall : ∀ raw, o ≠ .redis (.compareAndDelete k raw))
    (hr : (standing k v R).mayReply h o r) : StandingHistory k v R (⟨o, r⟩ :: h) := by
  intro e he
  rcases List.mem_cons.mp he with rfl | hmem
  · exact ⟨hr, hcall⟩
  · exact hh e hmem

theorem standing_hosted : Hosted (standing k v R) := fun _ _ _ hr => hr.hosted

theorem standing_reading : Reading (standing k v R) k (StandingHistory k v R) := by
  refine ⟨standing_hosted, ?_, ?_⟩
  · intro h o hh ho
    have hcall : ∀ raw, o ≠ .redis (.compareAndDelete k raw) := by
      rintro raw rfl
      cases ho
    exact ⟨hcall, fun r hr => hh.cons hcall hr⟩
  · intro h hh
    exact ⟨by simp [standing], fun r hr => hh.cons (by simp) hr⟩

/-- The text that was read is the one that stays. -/
theorem StandingHistory.got {h : HostHistory K} (hh : StandingHistory k v R h) {raw : Raw}
    (hg : GotRaw k raw h) : raw = v :=
  Option.some.inj ((hh _ hg).1.read _ rfl)

theorem StandingHistory.not_absent {h : HostHistory K} (hh : StandingHistory k v R h)
    (hv : v.truthy = true) : ¬ Absent k h := by
  rintro ⟨found, hmem, hfalsy⟩
  have hf := hfalsy v ((hh _ hmem).1.read _ rfl)
  rw [hv] at hf
  cases hf

end Standing

section Stale

variable {ctx : Ctx K} {t : K} {R : K → Prop} {k hex fp : String}

/-- The record is judged stale only from a reading past the truncated deadline. -/
theorem StandingHistory.judged {h : HostHistory K} {raw : Raw}
    (hh : StandingHistory k (processingRaw (pyInt t) hex fp) R h) (hj : Judged ctx k raw h) :
    ∃ t', R t' ∧ (pyInt t + ctx.idemPendingTtlSec : K) ≤ t' := by
  obtain ⟨new, old, t', createdAt, rfl, hgot, -, hnum, hle⟩ := hj
  have hraw : raw = processingRaw (pyInt t) hex fp :=
    hh.got (List.mem_append_right _ (hgot.cons _))
  have hcreated : createdAt = ((pyInt t : ℤ) : ℚ) := by
    rw [hraw, processingRaw_created_at] at hnum
    exact (Option.some.inj hnum).symm
  have hcast : (createdAt : K) = ((pyInt t : ℤ) : K) := by
    rw [hcreated, Rat.cast_intCast]
  have hmem : timeEvent t' ∈ new ++ timeEvent t' :: old := by simp
  refine ⟨t', (hh _ hmem).1.clock _ rfl, ?_⟩
  rw [hcast] at hle
  linarith

variable (hlive : ∀ t', R t' → t' < (pyInt t + ctx.idemPendingTtlSec : K))

include hlive

/-- So a live record is loaded as PROCESSING. -/
theorem StandingHistory.loaded_state {h : HostHistory K} {r : Record}
    (hh : StandingHistory k (processingRaw (pyInt t) hex fp) R h) (hl : Loaded ctx k r h) :
    r.get "state" = .str idemStateProcessing := by
  obtain ⟨raw, hgot, ts, stale, rfl, hjudged⟩ := hl
  rw [hh.got hgot]
  have hstale : stale = false := by
    by_contra hs
    obtain ⟨t', ht', hle⟩ := hh.judged (hjudged (by simpa using hs))
    exact absurd hle (not_le.mpr (hlive t' ht'))
  have hstate : normalizeState ((processingRaw (pyInt t) hex fp).data.get "state") =
      idemStateProcessing := processingRaw_state ..
  rw [Record.get, normalizeFields_state, hstale, hstate]
  rfl

theorem StandingHistory.not_expired {h : HostHistory K} {r : Record}
    (hh : StandingHistory k (processingRaw (pyInt t) hex fp) R h) (hl : Loaded ctx k r h) :
    r.isExpired = false := by
  rw [Record.isExpired, hh.loaded_state hlive hl]
  decide

theorem StandingHistory.not_removable {h : HostHistory K} {raw : Raw}
    (hh : StandingHistory k (processingRaw (pyInt t) hex fp) R h) :
    ¬ Removable ctx k raw h := by
  rintro (hj | ⟨hgot, hexp⟩)
  · obtain ⟨t', ht', hle⟩ := hh.judged hj
    exact absurd hle (not_le.mpr (hlive t' ht'))
  · rw [hh.got hgot, processingRaw_state] at hexp
    revert hexp
    decide

theorem standing_reserving (fp' : String) :
    Reserving (standing k (processingRaw (pyInt t) hex fp) R) ctx k fp'
      (StandingHistory k (processingRaw (pyInt t) hex fp) R)
      (StandingHistory k (processingRaw (pyInt t) hex fp) R) := by
  refine ⟨standing_reading, standing_reading, fun _ hh => hh, ?_, ?_, ?_⟩
  · intro h hh
    exact ⟨by simp [standing], fun r hr => hh.cons (by simp) hr⟩
  · intro h v hh _
    exact ⟨by simp [standing], fun r hr _ => hh.cons (by simp) hr⟩
  · intro h raw hh hrem
    exact absurd hrem (hh.not_removable hlive)

/-- Readings before the truncated deadline: nothing goes wrong. -/
theorem judged_in_time_of_lt {k hex fp fp' : String} :
    let P := standing k (processingRaw (pyInt t) hex fp) R
    (∀ h found, Outcome (loadIdempotencyRecord ctx k) [] h (.ok found) → Answered P [] h →
      ∃ r, found = some r ∧ r.get "state" = .str idemStateProcessing) ∧
    (∀ h res, Outcome (reserveIdempotencyKey ctx k fp') [] h res → Answered P [] h →
      (∀ e ∈ h, ∀ raw, e.op ≠ .redis (.compareAndDelete k raw)) ∧
        ∀ r, res ≠ .ok (.owner, r)) ∧
    (∀ h res, Outcome (waitForIdempotencyResult ctx k fp') [] h res → Answered P [] h →
      ∀ r, res ≠ .ok (.missing, r)) := by
  intro P
  have hstart : StandingHistory k (processingRaw (pyInt t) hex fp) R [] :=
    fun e he => absurd he List.not_mem_nil
  refine ⟨?_, ?_, ?_⟩
  · intro h found hout hans
    obtain ⟨hh, hnone, hsome⟩ :=
      (loadIdempotencyRecord_obeys standing_reading ctx hstart).sound hout hans
    cases found with
    | none => exact absurd (hnone rfl) (hh.not_absent (processingRaw_truthy ..))
    | some r => exact ⟨r, rfl, hh.loaded_state hlive (hsome r rfl)⟩
  · intro h res hout hans
    have hpost := (reserveIdempotencyKey_obeys (standing_reserving hlive fp') hstart).sound
      hout hans
    rcases res with e | ⟨state, r⟩
    · exact ⟨fun e he => (hpost e he).2, fun r hr => by cases hr⟩
    · cases state with
      | owner =>
          obtain ⟨v, h₀, -, -, -, -, hreply⟩ := hpost
          exact absurd rfl (hreply.reserve _ _ _ rfl)
      | replay => exact ⟨fun e he => (hpost.1 e he).2, fun r hr => by cases hr⟩
      | conflict => exact ⟨fun e he => (hpost.1 e he).2, fun r hr => by cases hr⟩
      | processing => exact ⟨fun e he => (hpost e he).2, fun r hr => by cases hr⟩
  · rintro h res hout hans r rfl
    obtain ⟨hh, ⟨-, habsent⟩ | ⟨hl, hexp⟩⟩ :=
      (waitForIdempotencyResult_obeys standing_reading ctx fp' hstart).sound hout hans
    · exact hh.not_absent (processingRaw_truthy ..) habsent
    · rw [hh.not_expired hlive hl] at hexp
      cases hexp

end Stale

/-! ### A reading past the truncated deadline -/

/-- A command that succeeds at its first attempt. -/
theorem executeRedis_outcome (ctx : Ctx K) (operation : String) (c : Cmd K) (v : c.Ret)
    (h : HostHistory K) : Outcome (executeRedis ctx operation c) h
      (⟨.redis c, .ok v⟩ :: ⟨.beforeStoreOperation operation, .ok ()⟩ :: h) (.ok v) := by
  have honce : Outcome (executeRedisOnce operation c) h
      (⟨.redis c, .ok v⟩ :: ⟨.beforeStoreOperation operation, .ok ()⟩ :: h) (.ok v) :=
    Outcome.bind_ok (Outcome.perform (S := HostSig K) (o := .beforeStoreOperation operation)
      (.ok ())) (Outcome.perform (S := HostSig K) (o := .redis c) (.ok v))
  rw [executeRedis, RetryPolicy.execute]
  cases (buildRetryPolicy ctx).config.maxAttempts - 1 with
  | zero => exact honce
  | succ left => exact honce.handle_ok

/-- A record of which the clock says so is loaded as EXPIRED. -/
theorem load_expired_outcome (ctx : Ctx K) (k hex fp : String) {now : ℤ} {t' : K}
    (hle : (now + ctx.idemPendingTtlSec : K) ≤ t') :
    ∃ r : Record, r.get "state" = .str idemStateExpired ∧
      Outcome (loadIdempotencyRecord ctx k) []
        [timeEvent t', getEvent k (some (processingRaw now hex fp)),
          ⟨.beforeStoreOperation "idempotency_get", .ok ()⟩] (.ok (some r)) := by
  set raw := processingRaw now hex fp with hraw
  set record := (raw.data.set "state" (.str raw.state)) with hrecord
  have hget : ∀ key, key ≠ "state" → record.get key = (processingRecord now hex fp).get key := by
    intro key hkey
    rw [hrecord, Dict.get_set_of_ne hkey, hraw, processingRaw_get]
  have hts : recordTimestamp (K := K) record = pure now := by
    have hnum : (["updated_at", "created_at", "timestamp"].findSome? fun field =>
        (record.get field).number?) = some (now : ℚ) := by
      rw [List.findSome?_cons, hget _ (by decide)]
      rfl
    rw [recordTimestamp, hnum]
    simp
  have hstale : foundStale ctx raw.state (record.setdefault "timestamp" (.int now)) =
      Host.time >>= fun t => pure (decide ((max ctx.idemPendingTtlSec 0 : ℤ) ≤ t - (now : K))) := by
    have hstate : (record.setdefault "timestamp" (.int now)).get "state" =
        .str idemStateProcessing := by
      rw [Dict.get_setdefault_of_ne (by decide), hrecord, Dict.get_set_self, hraw,
        processingRaw_state]
    have hcreated : ((record.setdefault "timestamp" (.int now)).get "created_at").number? =
        some (now : ℚ) := by
      rw [Dict.get_setdefault_of_ne (by decide), hget _ (by decide)]
      rfl
    have hnorm : normalizeState (.str idemStateProcessing) = idemStateProcessing := rfl
    rw [foundStale, hraw, processingRaw_state, if_pos rfl, isProcessingStale, hstate, hnorm,
      if_neg (by simp), hcreated]
    simp
  have hpos : max ctx.idemPendingTtlSec 0 = ctx.idemPendingTtlSec :=
    max_eq_left (by have := ctx.idemPendingTtlSec_pos; omega)
  have hlate : (max ctx.idemPendingTtlSec 0 : ℤ) ≤ t' - (now : K) := by
    rw [hpos]
    linarith
  refine ⟨⟨normalizeFields raw.data now true, some raw⟩, normalizeFields_state _ _ _, ?_⟩
  rw [loadIdempotencyRecord]
  refine .bind_ok (executeRedis_outcome ctx _ _ (some raw) []) ?_
  have hnormal : Outcome (normalizeRecord ctx raw.data raw)
      [getEvent k (some raw), ⟨.beforeStoreOperation "idempotency_get", .ok ()⟩]
      [timeEvent t', getEvent k (some raw), ⟨.beforeStoreOperation "idempotency_get", .ok ()⟩]
      (.ok ⟨normalizeFields raw.data now true, some raw⟩) := by
    have hts' : ∀ h : HostHistory K, Outcome (recordTimestamp (K := K) record) h h (.ok now) := by
      intro h
      rw [hts]
      exact .ret
    refine .bind_ok (hts' _) (.bind_ok (a := true) ?_ .ret)
    show Outcome (foundStale ctx raw.state (record.setdefault "timestamp" (.int now))) _ _ _
    rw [hstale]
    refine .bind_ok (Outcome.perform (S := HostSig K) (o := .time) (.ok t')) ?_
    rw [decide_eq_true hlate]
    exact .ret
  exact .bind_ok hnormal .ret

/-- A reading between the truncated deadline and the real one. -/
theorem not_judgedInTime_of_late {ctx : Ctx K} {t t' : K} {R : K → Prop} (hR : R t')
    (hlate : (pyInt t + ctx.idemPendingTtlSec : K) ≤ t') (hle : t ≤ t')
    (hlive : t' < t + ctx.idemPendingTtlSec) : ¬ JudgedInTime ctx t R := by
  intro hjudged
  obtain ⟨r, hstate, hout⟩ := load_expired_outcome ctx "k" "hex" "fp" hlate
  have hreading : LiveReading ctx t R t' := ⟨hR, hle, by linarith⟩
  have hans : Answered (standing "k" (processingRaw (pyInt t) "hex" "fp")
      (LiveReading ctx t R)) []
      [timeEvent t', getEvent "k" (some (processingRaw (pyInt t) "hex" "fp")),
        ⟨.beforeStoreOperation "idempotency_get", .ok ()⟩] := by
    refine .cons (.cons (.cons (.refl _ []) ?_) ?_) ?_
    · exact ⟨trivial, by simp, by simp, by simp⟩
    · exact ⟨by simp [HostReply], by simp, by simp, by simp⟩
    · exact ⟨⟨t', rfl⟩, by simp, by simp, by simpa using hreading⟩
  obtain ⟨r', hr', hproc⟩ := (hjudged "k" "hex" "fp" "fp").1 _ _ hout hans
  obtain rfl := Option.some.inj hr'
  rw [hstate] at hproc
  revert hproc
  decide

/-- The settings of the example: reservations of one second. -/
def oneSecondCtx : Ctx ℚ :=
  { { defaultSettings with idemPendingTtlSec := 1, idemPendingTtlSec_pos := le_rfl } with
    requestStart := none
    maxPolls := 0 }

/-- **Exactly when a live reservation is safe from being judged stale**: when no
clock reading falls between the truncated deadline and the real one. -/
theorem judgedInTime_iff (ctx : Ctx K) (t : K) (R : K → Prop) :
    JudgedInTime ctx t R ↔
      ¬ ∃ t', R t' ∧ (pyInt t + ctx.idemPendingTtlSec : K) ≤ t' ∧ t ≤ t' ∧
        t' < t + ctx.idemPendingTtlSec := by
  constructor
  · rintro hjudged ⟨t', hR, hlate, hle, hlive⟩
    exact not_judgedInTime_of_late hR hlate hle hlive hjudged
  · intro hnone k hex fp fp'
    apply judged_in_time_of_lt
    rintro t' ⟨hR, hle, hlive⟩
    by_contra hlate
    exact hnone ⟨t', hR, not_lt.mp hlate, hle, by linarith⟩

/-- A reservation that is built on the second is safe at every reading. -/
theorem judgedInTime_on_the_second : JudgedInTime oneSecondCtx 3 fun _ => True := by
  have hbuilt : pyInt (3 : ℚ) = 3 := by norm_num [pyInt]
  refine (judgedInTime_iff oneSecondCtx 3 fun _ => True).mpr ?_
  rintro ⟨t', -, hlate, -, hlive⟩
  rw [hbuilt] at hlate
  exact absurd hlive (not_lt.mpr hlate)

/-- A reservation of one second, built at 0.9 s, is given up at 1 s. -/
theorem not_judgedInTime_early : ¬ JudgedInTime oneSecondCtx (9 / 10) (· = 1) := by
  have hbuilt : pyInt (9 / 10 : ℚ) = 0 := by norm_num [pyInt]
  have httl : (oneSecondCtx.idemPendingTtlSec : ℚ) = 1 := by norm_num [oneSecondCtx]
  have hone : (fun t' : ℚ => t' = 1) 1 := rfl
  refine not_judgedInTime_of_late hone ?_ ?_ ?_
  · rw [hbuilt, httl]
    norm_num
  · norm_num
  · rw [httl]
    norm_num

end ChaosDemo
