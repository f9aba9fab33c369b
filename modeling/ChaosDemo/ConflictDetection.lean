/-
ChaosDemo/ConflictDetection.lean

Two payloads under one key.  A text under a key says whose it is: every text that a request
stores carries the fingerprint of its payload (`TextFor`), and what is read under a key is a
text that some request has stored there (`stored_of_read`).  A fingerprint determines the
payload (`idemPayloadFingerprint_injective`).  So

    an answer 409     comes from a request with another payload under the key, and
    a replay          is of a record that a request with the same payload has written

(`conflictDetection_exact`), in every interleaving and whatever fails.
-/
import ChaosDemo.JsonText
import ChaosDemo.Presenting
import ChaosDemo.ProcessingAnswers
import ChaosDemo.ReplayRoundTrip

set_option linter.unusedSectionVars false

namespace ChaosDemo

open CallTree Keyspace

variable {K : Type} [Field K] [LinearOrder K] [IsStrictOrderedRing K] [FloorRing K]

/-! ### Texts of a payload -/

/-- The texts that are stored for a fingerprint. -/
inductive TextFor (fp : String) : Raw → Prop
  | processing (now : ℤ) (ownerToken : String) : TextFor fp (processingRaw now ownerToken fp)
  | success (now : ℤ) (orderId : String) (status : ℤ) (body : Dict) :
      TextFor fp (successRaw now fp orderId status body)
  | failed (now : ℤ) (message : String) (status : ℤ) (body : Dict) : FailureStatus status →
      TextFor fp (failedRaw now fp message status body)

theorem TextFor.payload_fp {fp : String} {v : Raw} (h : TextFor fp v) :
    v.data.get "payload_fp" = .str fp := by
  cases h with
  | processing now tok =>
      rw [processingRaw_get]
      rfl
  | success now oid status body =>
      rw [successRaw_get]
      rfl
  | failed now message status body hstatus =>
      rw [failedRaw_get]
      rfl

/-! ### Records of a payload -/

/-- A fingerprint is not empty. -/
theorem payloadFp_truthy (itemId : String) (quantity : ℤ) :
    (Json.str (idemPayloadFingerprint itemId quantity)).truthy = true := by
  have hne : idemPayloadFingerprint itemId quantity ≠ "" := by
    intro hempty
    have hlist := congrArg String.toList hempty
    simp [idemPayloadFingerprint, String.toList_append] at hlist
  simpa [Json.truthy] using hne

section Records

variable {ctx : Ctx K} {k fp fp' : String} {raw : Raw} {r : Record} {h : HostHistory K}

theorem NormalOf.payload_fp (hr : NormalOf ctx k raw r h) (ht : TextFor fp raw) :
    r.get "payload_fp" = .str fp := by
  obtain ⟨ts, stale, rfl, -⟩ := hr
  show (normalizeFields raw.data ts stale).get "payload_fp" = _
  rw [normalizeFields_get_of_ne (by decide) (by decide) (by decide) (by decide), ht.payload_fp]

/-- A record conflicts with every fingerprint but its own. -/
theorem NormalOf.conflicts_iff {itemId : String} {quantity : ℤ} (hr : NormalOf ctx k raw r h)
    (ht : TextFor (idemPayloadFingerprint itemId quantity) raw) :
    r.conflicts fp = true ↔ idemPayloadFingerprint itemId quantity ≠ fp := by
  rw [Record.conflicts, hr.payload_fp ht, payloadFp_truthy, Bool.true_and, bne_iff_ne]
  exact not_congr ⟨Json.str.inj, congrArg Json.str⟩

/-- A terminal record was not judged stale. -/
theorem NormalOf.readAs_of_terminal (hr : NormalOf ctx k raw r h) (hterm : r.isTerminal = true) :
    ∃ ts, r = readAs raw ts := by
  obtain ⟨ts, stale, rfl, -⟩ := hr
  cases stale with
  | true =>
      have hstate : Record.get ⟨normalizeFields raw.data ts true, some raw⟩ "state" =
          .str idemStateExpired := normalizeFields_state raw.data ts true
      rw [Record.isTerminal, hstate] at hterm
      cases hterm
  | false => exact ⟨ts, rfl⟩

/-- The state of a terminal record is that of its text. -/
theorem NormalOf.state_of_terminal (hr : NormalOf ctx k raw r h) (hterm : r.isTerminal = true) :
    r.get "state" = .str raw.state := by
  obtain ⟨ts, rfl⟩ := hr.readAs_of_terminal hterm
  exact readAs_state raw ts

theorem NormalOf.not_processing (hr : NormalOf ctx k raw r h) (hterm : r.isTerminal = true) :
    raw.state ≠ idemStateProcessing := by
  intro hproc
  have hstate := hr.state_of_terminal hterm
  rw [Record.isTerminal, hstate, hproc] at hterm
  cases hterm

theorem status_of_success {answer : ℤ × Dict} (hstate : r.get "state" = .str idemStateSuccess)
    (hbuild : buildReplayResponse r = .ok answer) : answer.1 = 200 := by
  rw [buildReplayResponse, hstate] at hbuild
  exact congrArg Prod.fst (Except.ok.inj hbuild).symm

theorem status_of_failed {status : ℤ} {answer : ℤ × Dict}
    (hstate : r.get "state" = .str idemStateFailed)
    (hstatus : r.get "response_status" = .int status) (hne : status ≠ 0)
    (hbuild : buildReplayResponse r = .ok answer) : answer.1 = status := by
  have htruthy : (Json.int status).truthy = true := by simpa [Json.truthy] using hne
  have hint : jsonInt ((Json.int status).orElse (.int 503)) = .ok status := by
    rw [Json.orElse, if_pos htruthy]
    rfl
  rw [buildReplayResponse, hstate, hstatus, hint] at hbuild
  exact congrArg Prod.fst (Except.ok.inj hbuild).symm

/-- **A replay is answered with 200, or with the status of the failure.** -/
theorem NormalOf.replay_status {answer : ℤ × Dict} (hr : NormalOf ctx k raw r h)
    (ht : TextFor fp raw) (hterm : r.isTerminal = true)
    (hbuild : buildReplayResponse r = .ok answer) : answer.1 = 200 ∨ FailureStatus answer.1 := by
  have hstate := hr.state_of_terminal hterm
  cases ht with
  | processing now tok => exact absurd (processingRaw_state ..) (hr.not_processing hterm)
  | success now oid status body =>
      rw [successRaw_state] at hstate
      exact .inl (status_of_success hstate hbuild)
  | failed now message status body hfailure =>
      rw [failedRaw_state] at hstate
      obtain ⟨ts, stale, rfl, -⟩ := hr
      have hstored : (failedRaw now fp message status body).data.get "response_status" =
          .int status := by
        rw [failedRaw_get]
        rfl
      have hne : status ≠ 0 := by
        rcases hfailure with rfl | rfl <;> decide
      rw [status_of_failed hstate (normalizeFields_status hstored ts stale) hne hbuild]
      exact .inr hfailure

end Records

/-! ### The client -/

/-- A request with the payload `fp?` under the key `key`, as a client of the server. -/
def presentingClient (key fp? : Option String) : Protocol (HostSig K) Exc where
  mayCall _ o := match o with
    | .redis (.setNxEx (.idem k) v _) => key = some k ∧ ∃ fp, fp? = some fp ∧ TextFor fp v
    | .redis (.setex (.idem k) _ v) => key = some k ∧ ∃ fp, fp? = some fp ∧ TextFor fp v
    | _ => True
  mayReply _ o r := HostReply o r ∧ ∀ stage, o = .beforeServiceOperation stage → ChaosInjected r

section Client

variable {ctx : Ctx K} {key fp? : Option String} {hs : ServiceHistory K} {ht : HostHistory K}

theorem presentingClient_hosted :
    Hosted (presentingClient key fp? : Protocol (HostSig K) Exc) :=
  fun _ _ _ hr => hr.1

/-- Nothing needs to be kept. -/
theorem presenting_undisturbed :
    Undisturbed (presentingClient key fp? : Protocol (HostSig K) Exc) fun _ => True := by
  intro h o _ ho
  refine ⟨?_, fun _ _ => trivial⟩
  cases o with
  | redis c => cases ho
  | _ => trivial

theorem presenting_reading (k : String) :
    Reading (presentingClient key fp? : Protocol (HostSig K) Exc) k fun _ => True :=
  ⟨presentingClient_hosted, presenting_undisturbed, fun _ _ => ⟨trivial, fun _ _ => trivial⟩⟩

theorem presenting_reserving {k fp : String} (hk : key = some k) (hfp : fp? = some fp) :
    Reserving (presentingClient key fp?) ctx k fp (fun _ => True) fun _ => True := by
  refine ⟨presenting_reading k, presenting_reading k, fun _ _ => trivial, ?_, ?_, ?_⟩
  · exact fun _ _ => ⟨trivial, fun _ _ => trivial⟩
  · rintro h v - ⟨new, old, t, hex, -, rfl, -⟩
    exact ⟨⟨hk, fp, hfp, .processing _ _⟩, fun _ _ _ => trivial⟩
  · exact fun _ _ _ _ => ⟨trivial, fun _ _ => ⟨trivial, fun _ => trivial⟩⟩

theorem presenting_of_breaker {c : Cmd K} (hc : c.ofBreaker = true) (h : HostHistory K) :
    (presentingClient key fp?).mayCall h (.redis c) := by
  cases c with
  | setNxEx k v ttl =>
      cases k with
      | idem k => cases hc
      | _ => trivial
  | setex k ttl v =>
      cases k with
      | idem k => cases hc
      | _ => trivial
  | _ => trivial

/-! ### Replays agree -/

/-- A record is replayed only where it does not conflict. -/
def ReplayAgrees (fp : String) (res : Except Exc (ReserveState × Record)) : Prop :=
  ∀ r, res = .ok (.replay, r) → r.conflicts fp = false

theorem rereadAfterTakeover_agrees (k fp : String) :
    (rereadAfterTakeover ctx k fp).Yields (ReplayAgrees fp) := by
  refine Prog.Yields.andThen (fun existing => ?_) fun _ => nofun
  split
  · exact nofun
  · next hconflicts =>
      split
      · rintro r ⟨⟩
        exact Bool.eq_false_iff.mpr hconflicts
      · exact nofun

theorem takeOver_agrees (k fp : String) (r : Record) :
    (takeOver ctx k fp r).Yields (ReplayAgrees fp) := by
  refine Prog.Yields.andThen (fun deleted => ?_) fun _ => nofun
  split
  · refine Prog.Yields.andThen (fun reserved => ?_) fun _ => nofun
    obtain ⟨reserved, pending⟩ := reserved
    cases reserved with
    | true => exact nofun
    | false => exact rereadAfterTakeover_agrees k fp
  · exact rereadAfterTakeover_agrees k fp

theorem reserveIdempotencyKey_agrees (k fp : String) :
    (reserveIdempotencyKey ctx k fp).Yields (ReplayAgrees fp) := by
  refine Prog.Yields.andThen (fun reserved => ?_) fun _ => by rintro r ⟨⟩
  obtain ⟨reserved, pending⟩ := reserved
  cases reserved with
  | true => rintro r ⟨⟩
  | false =>
      refine Prog.Yields.andThen (fun existing => ?_) fun _ => by rintro r ⟨⟩
      split
      · rintro r ⟨⟩
      · next hconflicts =>
          split
          · rintro r ⟨⟩
            exact Bool.eq_false_iff.mpr hconflicts
          · split
            · exact takeOver_agrees k fp existing
            · rintro r ⟨⟩

/-- The same while it waits. -/
def WaitAgrees (fp : String) (res : Except Exc (WaitState × Record)) : Prop :=
  ∀ r, res = .ok (.replay, r) → r.conflicts fp = false

theorem pollIdempotencyResult_agrees (k fp : String) (deadline : K) (polls : ℕ) :
    (pollIdempotencyResult ctx k fp deadline polls).Yields
      fun res => ∀ r, res = .ok (some (.replay, r)) → r.conflicts fp = false := by
  induction polls with
  | zero => rintro r ⟨⟩
  | succ polls ih =>
      refine Prog.Yields.andThen (fun now => ?_) fun _ => by rintro r ⟨⟩
      split
      · refine Prog.Yields.andThen (fun current => ?_) fun _ => by rintro r ⟨⟩
        cases current with
        | none => rintro r ⟨⟩
        | some current =>
            show Prog.Yields _ (if current.conflicts fp then _ else _)
            split
            · rintro r ⟨⟩
            · next hconflicts =>
                split
                · rintro r ⟨⟩
                  exact Bool.eq_false_iff.mpr hconflicts
                · split
                  · rintro r ⟨⟩
                  · exact Prog.Yields.andThen (fun _ => ih) fun _ => by rintro r ⟨⟩
      · rintro r ⟨⟩

theorem waitForIdempotencyResult_agrees (k fp : String) :
    (waitForIdempotencyResult ctx k fp).Yields (WaitAgrees fp) := by
  refine Prog.Yields.andThen (fun now => ?_) fun _ => nofun
  refine (pollIdempotencyResult_agrees k fp _ _).bind (fun answer hanswer => ?_) fun _ _ => nofun
  cases answer with
  | some answer =>
      rintro r ⟨⟩
      exact hanswer r rfl
  | none =>
      refine Prog.Yields.andThen (fun current => ?_) fun _ => nofun
      split
      · exact nofun
      · next hconflicts =>
          split
          · rintro r ⟨⟩
            exact Bool.eq_false_iff.mpr hconflicts
          · exact nofun

/-! ### What a request is told -/

/-- The calls on the server bear out what `create_order` was told. -/
structure Heard (ctx : Ctx K) (key fp? : Option String) (hs : ServiceHistory K)
    (ht : HostHistory K) : Prop where
  replay : ∀ k fp r, ToldReplay k fp r hs → key = some k ∧ fp? = some fp ∧
    Loaded ctx k r ht ∧ r.isTerminal = true ∧ r.conflicts fp = false
  conflict : ∀ k fp r, ToldConflict k fp r hs → key = some k ∧ fp? = some fp ∧
    Loaded ctx k r ht ∧ r.conflicts fp = true

theorem Heard.start : Heard ctx key fp? [] ([] : HostHistory K) := by
  constructor
  · rintro k fp r (h | h) <;> cases h
  · rintro k fp r (h | h) <;> cases h

theorem ToldReplay.cons_cases {k fp : String} {r : Record} {e : ServiceEvent K}
    (h : ToldReplay k fp r (e :: hs)) : ToldReplay k fp r [e] ∨ ToldReplay k fp r hs := by
  simp only [ToldReplay, List.mem_cons, List.not_mem_nil, or_false] at h ⊢
  tauto

theorem ToldConflict.cons_cases {k fp : String} {r : Record} {e : ServiceEvent K}
    (h : ToldConflict k fp r (e :: hs)) : ToldConflict k fp r [e] ∨ ToldConflict k fp r hs := by
  simp only [ToldConflict, List.mem_cons, List.not_mem_nil, or_false] at h ⊢
  tauto

/-- One call more, which tells something new or not. -/
theorem Heard.cons {ht' : HostHistory K} {e : ServiceEvent K} (hH : Heard ctx key fp? hs ht)
    (hlater : ∃ new, ht' = new ++ ht)
    (hreplay : ∀ k fp r, ToldReplay k fp r [e] → key = some k ∧ fp? = some fp ∧
      Loaded ctx k r ht' ∧ r.isTerminal = true ∧ r.conflicts fp = false)
    (hconflict : ∀ k fp r, ToldConflict k fp r [e] → key = some k ∧ fp? = some fp ∧
      Loaded ctx k r ht' ∧ r.conflicts fp = true) :
    Heard ctx key fp? (e :: hs) ht' := by
  obtain ⟨new, rfl⟩ := hlater
  constructor
  · intro k fp r htold
    rcases htold.cons_cases with hnew | hold
    · exact hreplay k fp r hnew
    · obtain ⟨hk, hfp, hloaded, hrest⟩ := hH.replay k fp r hold
      exact ⟨hk, hfp, hloaded.append new, hrest⟩
  · intro k fp r htold
    rcases htold.cons_cases with hnew | hold
    · exact hconflict k fp r hnew
    · obtain ⟨hk, hfp, hloaded, hrest⟩ := hH.conflict k fp r hold
      exact ⟨hk, hfp, hloaded.append new, hrest⟩

/-- A call that is no reservation and no wait tells nothing. -/
theorem Heard.quiet {ht' : HostHistory K} {e : ServiceEvent K} (hH : Heard ctx key fp? hs ht)
    (hlater : ∃ new, ht' = new ++ ht)
    (hreserve : ∀ k fp res, e ≠ ⟨.idempotency (.reserve k fp), .ok res⟩)
    (hwait : ∀ k fp res, e ≠ ⟨.idempotency (.waitForResult k fp), .ok res⟩) :
    Heard ctx key fp? (e :: hs) ht' := by
  apply hH.cons hlater
  · rintro k fp r (htold | htold)
    · exact absurd (List.mem_singleton.mp htold).symm (hreserve k fp _)
    · exact absurd (List.mem_singleton.mp htold).symm (hwait k fp _)
  · rintro k fp r (htold | htold)
    · exact absurd (List.mem_singleton.mp htold).symm (hreserve k fp _)
    · exact absurd (List.mem_singleton.mp htold).symm (hwait k fp _)

/-- What a program has found, it finds in a later history. -/
theorem presenting_later {α : Type} {p : Host K α} {Q : Post (HostSig K) Exc α}
    (hp : Obeys (presentingClient key fp?) p Q ht) :
    Obeys (presentingClient key fp?) p (fun res h' => Q res h' ∧ ∃ new, h' = new ++ ht) ht := by
  refine hp.frame (I := fun h' => ∃ new, h' = new ++ ht) ⟨[], rfl⟩ ?_
  rintro h o ⟨new, rfl⟩ hcall
  exact ⟨hcall, fun r hr => ⟨hr, ⟨o, r⟩ :: new, rfl⟩⟩

theorem presenting_executes (operation : String) {c : Cmd K}
    (hc : ∀ h, (presentingClient key fp?).mayCall h (.redis c)) :
    Obeys (presentingClient key fp?) (executeRedis ctx operation c) (fun _ _ => True) ht :=
  executeRedis_obeys presentingClient_hosted ctx operation presenting_undisturbed
    (fun h _ => hc h) (fun _ _ _ _ => trivial) (fun _ _ _ _ => trivial) (fun _ _ _ => trivial)
    trivial

/-- A program of the breaker. -/
theorem presenting_breaker {α : Type} {p : Host K α} {Q : Post (HostSig K) Exc α}
    (hp : Obeys breakerCalls p Q ht) :
    Obeys (presentingClient key fp?) p (fun _ _ => True) ht := by
  refine (hp.frame (I := fun _ => True) trivial fun h o _ ho => ?_).mono fun _ _ _ => trivial
  refine ⟨?_, fun r hr => ⟨hr.1, trivial⟩⟩
  cases o with
  | redis c => exact presenting_of_breaker (ho c rfl) h
  | _ => trivial

/-- A terminal write. -/
theorem presenting_writes {k operation fp : String} (text : ℤ → Raw) (hk : key = some k)
    (hfp : fp? = some fp) (htext : ∀ n, TextFor fp (text n)) :
    Obeys (presentingClient key fp?) (do
      let now ← Host.time
      executeRedis ctx operation (.setex (.idem k) ctx.idemTtlSec (text (pyInt now))))
      (fun _ _ => True) ht := by
  apply (time_obeys presentingClient_hosted presenting_undisturbed trivial).bind
  · intro now h₁ _
    exact presenting_executes operation fun _ => ⟨hk, fp, hfp, htext _⟩
  · exact fun _ _ _ => trivial

theorem presenting_finalize {k fp : String} (hk : key = some k) (hfp : fp? = some fp)
    (orderId : String) (status : ℤ) (body : Dict) :
    Obeys (presentingClient key fp?) (finalizeIdempotencySuccess ctx k fp orderId status body)
      (fun _ _ => True) ht :=
  presenting_writes (fun n => successRaw n fp orderId status
    (if body.isEmpty then [("status", .str "ok"), ("order_id", .str orderId)] else body))
    hk hfp fun n => .success n orderId status _

theorem presenting_saveFailed {k fp : String} (hk : key = some k) (hfp : fp? = some fp)
    (message : String) {status : ℤ} (hstatus : FailureStatus status) (body : Dict) :
    Obeys (presentingClient key fp?) (saveFailed ctx k fp message status body)
      (fun _ _ => True) ht :=
  presenting_writes (fun n => failedRaw n fp message status
    (if body.isEmpty then [("error", .str message)] else body))
    hk hfp fun n => .failed n message status _ hstatus

theorem presenting_release (k : String) (r : Record) :
    Obeys (presentingClient key fp?) (storeCall ctx (.release k r)) (fun _ _ => True) ht := by
  show Obeys _ (compareAndDelete ctx k r.raw) _ _
  unfold compareAndDelete
  split
  · trivial
  · split
    · exact presenting_executes _ fun _ => trivial
    · trivial

theorem presenting_reserve {k fp : String} (hH : Heard ctx key fp? hs ht) (hk : key = some k)
    (hfp : fp? = some fp) :
    Obeys (presentingClient key fp?) (idempotencyRepository ctx (.reserve k fp)) (fun r ht' =>
      Heard ctx key fp? (⟨.idempotency (.reserve k fp), r⟩ :: hs) ht') ht := by
  have hreserving : Reserving (presentingClient key fp?) ctx k fp (fun _ => True) fun _ => True :=
    presenting_reserving hk hfp
  have hrule := presenting_later ((reserveIdempotencyKey_obeys hreserving (h := ht) trivial).yields
    (reserveIdempotencyKey_agrees k fp))
  apply (repository_obeys hrule).mono
  intro r ht' hres
  rcases r with e | ⟨state, rec⟩
  · obtain ⟨-, x, -, hlater⟩ := hres
    exact hH.quiet hlater nofun nofun
  · obtain ⟨⟨hfound, hagrees⟩, hlater⟩ := hres
    apply hH.cons hlater
    · rintro k' fp' r' (htold | htold)
      · cases List.mem_singleton.mp htold
        exact ⟨hk, hfp, hfound.2.1, hfound.2.2, hagrees _ rfl⟩
      · cases List.mem_singleton.mp htold
    · rintro k' fp' r' (htold | htold)
      · cases List.mem_singleton.mp htold
        exact ⟨hk, hfp, hfound.2⟩
      · cases List.mem_singleton.mp htold

theorem presenting_wait {k fp : String} (hH : Heard ctx key fp? hs ht) (hk : key = some k)
    (hfp : fp? = some fp) :
    Obeys (presentingClient key fp?) (idempotencyRepository ctx (.waitForResult k fp))
      (fun r ht' => Heard ctx key fp? (⟨.idempotency (.waitForResult k fp), r⟩ :: hs) ht') ht := by
  have hreading : Reading (presentingClient key fp? : Protocol (HostSig K) Exc) k fun _ => True :=
    presenting_reading k
  have hrule := presenting_later ((waitForIdempotencyResult_obeys hreading ctx fp
    (h := ht) trivial).yields (waitForIdempotencyResult_agrees k fp))
  apply (repository_obeys hrule).mono
  intro r ht' hres
  rcases r with e | ⟨state, rec⟩
  · obtain ⟨-, x, -, hlater⟩ := hres
    exact hH.quiet hlater nofun nofun
  · obtain ⟨⟨hfound, hagrees⟩, hlater⟩ := hres
    apply hH.cons hlater
    · rintro k' fp' r' (htold | htold)
      · cases List.mem_singleton.mp htold
      · cases List.mem_singleton.mp htold
        exact ⟨hk, hfp, hfound.2.1, hfound.2.2, hagrees _ rfl⟩
    · rintro k' fp' r' (htold | htold)
      · cases List.mem_singleton.mp htold
      · cases List.mem_singleton.mp htold
        exact ⟨hk, hfp, hfound.2⟩

/-- One call of a service, as a client that presents its payload. -/
theorem serviceCall_heard (o : ServiceOp K) (hT : Tracks ctx key hs ht)
    (hH : Heard ctx key fp? hs ht) (hcall : (orderProtocol key).mayCall hs o)
    (hpresents : Presents key fp? o) :
    Obeys (presentingClient key fp?) (serviceCall ctx o) (fun r ht' =>
      Heard ctx key fp? (⟨o, r⟩ :: hs) ht' ∧
        ∀ stage, o = .beforeServiceOperation stage → ChaosInjected r) ht := by
  have hquiet : ∀ {p : Host K o.Ret} {Q : Post (HostSig K) Exc o.Ret},
      Obeys (presentingClient key fp?) p Q ht →
      (∀ k fp, o ≠ .idempotency (.reserve k fp)) → (∀ k fp, o ≠ .idempotency (.waitForResult k fp)) →
      (∀ stage, o ≠ .beforeServiceOperation stage) →
      Obeys (presentingClient key fp?) p (fun r ht' => Heard ctx key fp? (⟨o, r⟩ :: hs) ht' ∧
        ∀ stage, o = .beforeServiceOperation stage → ChaosInjected r) ht := by
    intro p Q hp hreserve hwait hhook
    apply (presenting_later hp).mono
    rintro r ht' ⟨-, hlater⟩
    refine ⟨hH.quiet hlater ?_ ?_, fun stage heq => absurd heq (hhook stage)⟩
    · intro k fp res heq
      cases heq
      exact hreserve k fp rfl
    · intro k fp res heq
      cases heq
      exact hwait k fp rfl
  have hcalls : ∀ o' : HostOp K, (presentingClient key fp?).mayCall ht o' →
      Obeys (presentingClient key fp?) (@Prog.perform (HostSig K) Exc o') (fun _ _ => True) ht :=
    fun o' ho' => .perform ho' fun _ _ => trivial
  cases o with
  | allowRequest b =>
      have hstage : ∀ e, (standingOf key hs).stage ≠ .escaped e := by
        obtain rfl : hs = [] := hcall
        intro e he
        cases key <;> cases he
      exact hquiet (presenting_breaker (allowRequest_recovers ctx b (hT.recovered hstage)))
        nofun nofun nofun
  | record action b =>
      have hstage : ∀ e, (standingOf key hs).stage ≠ .escaped e := by
        intro e he
        rcases hcall with h | h <;> rw [h] at he <;> cases he
      exact hquiet (presenting_breaker (record_recovers ctx b action (hT.recovered hstage)))
        nofun nofun nofun
  | idempotency o =>
      cases o with
      | reserve k fp =>
          exact (presenting_reserve hH hpresents.1 hpresents.2).mono fun _ _ h => ⟨h, nofun⟩
      | waitForResult k fp =>
          exact (presenting_wait hH hpresents.1 hpresents.2).mono fun _ _ h => ⟨h, nofun⟩
      | release k r =>
          exact hquiet (repository_obeys (presenting_release k r)) nofun nofun nofun
      | finalizeSuccess k fp orderId status body =>
          exact hquiet (repository_obeys (presenting_finalize hpresents.1 hpresents.2 orderId
            status body)) nofun nofun nofun
      | saveFailed k fp message status body =>
          exact hquiet (repository_obeys (presenting_saveFailed hpresents.1.1 hpresents.1.2 message
            hpresents.2 body)) nofun nofun nofun
  | saveOrder orderId doc =>
      exact hquiet (repository_obeys (presenting_executes _ fun _ => trivial)) nofun nofun nofun
  | beforeServiceOperation stage =>
      refine .perform trivial fun r hr => ⟨hH.quiet ⟨[_], rfl⟩ nofun nofun, ?_⟩
      exact fun _ _ => hr.2 stage rfl
  | time => exact hquiet (hcalls .time trivial) nofun nofun nofun
  | uniform lo hi => exact hquiet (hcalls (.uniform lo hi) trivial) nofun nofun nofun
  | random => exact hquiet (hcalls .random trivial) nofun nofun nofun
  | uuid4 => exact hquiet (hcalls .uuid4 trivial) nofun nofun nofun
  | sleep seconds => exact hquiet (hcalls (.sleep seconds) trivial) nofun nofun nofun

/-- A fault comes from a hook. -/
theorem chaosInjected_of_reply {o : ServiceOp K} {r : Except Exc o.Ret}
    (hreply : (orderProtocol key).mayReply hs o r)
    (hhook : ∀ stage, o = .beforeServiceOperation stage → ChaosInjected r) : ChaosInjected r := by
  intro e he hchaos
  have hserver : e.fromServer = true → Injected e := fun h => by
    rw [not_chaos_of_fromServer h] at hchaos
    cases hchaos
  have hstorage : e.isStorage = true → Injected e := fun h => by
    cases e with
    | storage message => cases hchaos
    | _ => cases h
  cases o with
  | beforeServiceOperation stage => exact hhook stage rfl e he hchaos
  | idempotency o => exact hstorage (hreply e he)
  | saveOrder orderId doc => exact hstorage (hreply e he)
  | allowRequest b => exact hserver (hreply e he)
  | record action b => exact hserver (hreply e he)
  | _ =>
      obtain ⟨v, hv⟩ := hreply
      cases hv.symm.trans he

/-- A request is an order client that presents its payload. -/
def presentingOrder (ctx : Ctx K) (key fp? : Option String) : Protocol (HostSig K) Exc where
  mayCall h o := (orderClient ctx key).mayCall h o ∧ (presentingClient key fp?).mayCall h o
  mayReply h o r := (orderClient ctx key).mayReply h o r ∧ (presentingClient key fp?).mayReply h o r

theorem orderRequest_presents (ctx : Ctx K) (startedAt : K) (command : CreateOrderCommand) :
    Obeys (presentingOrder ctx command.key? command.payloadFp?)
      (orderRequest ctx startedAt command) (fun res ht => ∃ hs,
        Heard ctx command.key? command.payloadFp? hs ht ∧
          ∀ result, res = .ok result → Source hs result) [] := by
  have hservice := (createOrder_obeys ctx startedAt command).and
    (createOrder_sourced (h := []) ctx startedAt command)
  refine (Obeys.interp (R := fun hs ht => Tracks ctx command.key? hs ht ∧
    Heard ctx command.key? command.payloadFp? hs ht) ?_ hservice
    ⟨.start ctx command.key?, .start⟩).mono ?_
  · rintro o hs ht ⟨hT, hH⟩ ⟨hcall, hpresents⟩
    refine ((serviceCall_obeys o hT hcall).and
      (serviceCall_heard o hT hH hcall hpresents)).mono ?_
    rintro r ht' ⟨⟨hreply, hT'⟩, hH', hhook⟩
    exact ⟨⟨hreply, chaosInjected_of_reply hreply hhook⟩, hT', hH'⟩
  · rintro res ht ⟨hs, ⟨-, hH⟩, -, -, hsource, -⟩
    exact ⟨hs, hH, hsource⟩

end Client

/-! ### Answers and payloads -/

/-- The request is for an item, under the key `k`. -/
def PresentsItem (command : CreateOrderCommand) (k itemId : String) : Prop :=
  command.key? = some k ∧ command.item? = some itemId

/-- An answer 409 tells of another payload under the key, and a replay of the same. -/
structure ConflictsExact {ι : Type} [DecidableEq ι] (command : ι → CreateOrderCommand)
    (c : Config (HostSig K) Exc ServiceResult (HostState K) ι) : Prop where
  conflict : ∀ i result, c.thread i = .ret result → result.statusCode = 409 →
    ∃ k itemId, PresentsItem (command i) k itemId ∧ ∃ g ∈ c.log, ∃ raw,
      ((∃ ttl r, g.event = setNxEvent k raw ttl r) ∨ ∃ ttl r, g.event = setexEvent k ttl raw r) ∧
      ∃ itemId', PresentsItem (command g.who) k itemId' ∧
        (itemId', (command g.who).quantity) ≠ (itemId, (command i).quantity)
  replay : ∀ i result, c.thread i = .ret result → IsReplay result →
    ∃ k itemId, PresentsItem (command i) k itemId ∧ ∃ raw ts,
      getEvent k (some raw) ∈ own i c.log ∧
      buildReplayResponse (readAs raw ts) = .ok (result.statusCode, result.body) ∧
      ∃ g ∈ c.log, (∃ ttl r, g.event = setexEvent k ttl raw r) ∧
        PresentsItem (command g.who) k itemId ∧ (command g.who).quantity = (command i).quantity

/-! ### Runs -/

section Run

variable {ι : Type} [DecidableEq ι]

/-- The faults that the hooks of a run raise are injected ones. -/
def HooksInjected (_ : HostState K) (l : HostLog K ι) : Prop :=
  ∀ e ∈ l, ∀ stage x, e.event = ⟨.beforeServiceOperation stage, .error x⟩ → x.isChaos = true →
    Injected x

variable {ctx : ι → Ctx K} {startedAt : ι → K} {command : ι → CreateOrderCommand}
  {s₀ : HostState K} {c : Config (HostSig K) Exc ServiceResult (HostState K) ι}

theorem hostWorld_serves_presenting (ctx : ι → Ctx K) (command : ι → CreateOrderCommand) :
    Serves (hostWorld K) HooksInjected fun i =>
      presentingOrder (ctx i) (command i).key? (command i).payloadFp? := by
  intro i s l o x r s' hs hP
  have hreply := hostReply_of_serve hs
  refine ⟨hreply, hreply, ?_⟩
  rintro stage rfl e rfl hchaos
  exact hP _ List.mem_cons_self stage e rfl hchaos

variable (hreach : Reach (hostWorld K) HooksInjected (ordersAt ctx startedAt command s₀) c)

include hreach

/-- What a request has put under a key is of its payload. -/
theorem textFor_of_log {newer old : HostLog K ι} {e : HostEntry K ι} {k : String} {v : Raw}
    (hsplit : c.log = newer ++ e :: old)
    (hev : (∃ ttl r, e.event = setNxEvent k v ttl r) ∨ ∃ ttl r, e.event = setexEvent k ttl v r) :
    (command e.who).key? = some k ∧ ∃ fp, (command e.who).payloadFp? = some fp ∧ TextFor fp v := by
  have hcall := hreach.allowed (hostWorld_serves_presenting ctx command) rfl
    (fun i => orderRequest_presents (ctx i) (startedAt i) (command i)) newer e old hsplit
  rcases hev with ⟨ttl, r, hev⟩ | ⟨ttl, r, hev⟩ <;> rw [hev] at hcall <;> exact hcall.2

/-- A change of the value under a key is a text that a request has put there, or the
removal of one. -/
theorem put_of_change {newer old : HostLog K ι} {e : HostEntry K ι} {k : String} {v : Raw}
    {deadline : Option K} (hsplit : c.log = newer ++ e :: old)
    (hslot : e.after.data (.idem k) = some ⟨v, deadline⟩)
    (hchange : e.after.data (.idem k) ≠ e.before.data (.idem k)) :
    (v.state = idemStateProcessing ∧ ∃ ttl r, e.event = setNxEvent k v ttl r) ∨
      ∃ ttl r, e.event = setexEvent k ttl v r := by
  have hstep := orders_recordStep hreach hsplit
  rcases e with ⟨i, ev, s, s'⟩
  dsimp only at hstep hchange hslot ⊢
  have hkey : ∀ {k' : String} {d : Data K}, (k ≠ k' → d (.idem k) = s.data (.idem k)) →
      s'.data = d → k = k' := by
    intro k' d hframe hd
    by_contra hk
    exact hchange (hd ▸ hframe hk)
  cases hstep with
  | reserved k' fp w r hbuild hlookup hr =>
      obtain rfl := hkey (fun hk => Store.put_of_ne (by simpa using hk)) rfl
      obtain rfl : w = v := congrArg Timed.val (Option.some.inj (Store.put_self.symm.trans hslot))
      exact .inl ⟨hbuild.state, _, r, rfl⟩
  | finished k' ttl w r hterm =>
      obtain rfl := hkey (fun hk => Store.put_of_ne (by simpa using hk)) rfl
      obtain rfl : w = v := congrArg Timed.val (Option.some.inj (Store.put_self.symm.trans hslot))
      exact .inr ⟨ttl, r, rfl⟩
  | removed k' w r hmay hlookup hr =>
      obtain rfl := hkey (fun hk => Store.erase_of_ne (by simpa using hk)) rfl
      cases Store.erase_self.symm.trans hslot
  | kept _ _ hdata heff => exact absurd (hdata k) hchange

/-- **What is read was stored by a request.** -/
theorem stored_of_read {newer old : HostLog K ι} {e : HostEntry K ι} {k : String} {v : Raw}
    (hstart : s₀.data (.idem k) = none) (hsplit : c.log = newer ++ e :: old)
    (hev : e.event = getEvent k (some v)) :
    ∃ g ∈ old, (v.state = idemStateProcessing ∧ ∃ ttl r, g.event = setNxEvent k v ttl r) ∨
      ∃ ttl r, g.event = setexEvent k ttl v r := by
  have hlookup := lookup_of_read hreach hsplit hev
  obtain ⟨x, hx, -, rfl⟩ := live_eq_some.mp hlookup
  have htraced := hreach.traced rfl
  rw [hsplit] at htraced
  rcases htraced.before.1.last_change (steady_slot (.idem k)) with
    ⟨hsame, -⟩ | ⟨since, g, older, rfl, hslot, hchange, -⟩
  · -- the key was free at the start
    cases hx.symm.trans (hsame.trans hstart)
  · have hsplit' : c.log = (newer ++ e :: since) ++ g :: older := by simpa using hsplit
    exact ⟨g, by simp, put_of_change hreach hsplit' (hslot.symm.trans hx) hchange⟩

/-- A text that a request has read was put there by one with a payload. -/
theorem presented_of_read {i : ι} {k : String} {raw : Raw} (hstart : s₀.data (.idem k) = none)
    (hread : getEvent k (some raw) ∈ own i c.log) :
    ∃ g ∈ c.log, ((raw.state = idemStateProcessing ∧ ∃ ttl r, g.event = setNxEvent k raw ttl r) ∨
        ∃ ttl r, g.event = setexEvent k ttl raw r) ∧
      ∃ itemId, PresentsItem (command g.who) k itemId ∧
        TextFor (idemPayloadFingerprint itemId (command g.who).quantity) raw := by
  obtain ⟨e, he, -, hev⟩ := mem_own.mp hread
  obtain ⟨newer, old, hsplit⟩ := List.append_of_mem he
  obtain ⟨g, hg, hput⟩ := stored_of_read hreach hstart hsplit hev
  obtain ⟨since, older, rfl⟩ := List.append_of_mem hg
  have hsplit' : c.log = (newer ++ e :: since) ++ g :: older := by simpa using hsplit
  obtain ⟨hkey, fp, hfp, htext⟩ := textFor_of_log hreach hsplit' (hput.imp_left And.right)
  obtain ⟨itemId, hitem, rfl⟩ := Option.map_eq_some_iff.mp hfp
  refine ⟨g, ?_, hput, itemId, ⟨hkey, hitem⟩, htext⟩
  rw [hsplit']
  simp

/-- What a request was told, it has read. -/
theorem source_of_ret {i : ι} {result : ServiceResult} (ht : c.thread i = .ret result) :
    ∃ hs, Heard (ctx i) (command i).key? (command i).payloadFp? hs (own i c.log) ∧
      Source hs result := by
  obtain ⟨hs, hH, hsource⟩ := hreach.post (hostWorld_serves_presenting ctx command) rfl
    (fun i => orderRequest_presents (ctx i) (startedAt i) (command i))
    (show c.thread i = .ofExcept (.ok result) from ht)
  exact ⟨hs, hH, hsource result rfl⟩

end Run

/-! ### Exactness -/

section Exact

variable {ι : Type} [DecidableEq ι]

/-- **Conflict detection is exact.**  In every interleaving of any requests, whatever of
their calls fails, on a store that holds no records at the start: an answer 409 goes to a
request of which another one has put a different payload under the key, an answer that is a
replay is one to a record that a request with the same payload has written; and a
fingerprint determines the item and the quantity. -/
theorem conflictDetection_exact (ctx : ι → Ctx K) (startedAt : ι → K)
    (command : ι → CreateOrderCommand) (s₀ : HostState K)
    (hstart : ∀ k, s₀.data (.idem k) = none) :
    (∀ c, Reach (hostWorld K) HooksInjected (ordersAt ctx startedAt command s₀) c →
      ConflictsExact command c) ∧
    ∀ s s' q q', idemPayloadFingerprint s q = idemPayloadFingerprint s' q' → s = s' ∧ q = q' := by
  refine ⟨fun c hreach => ⟨?_, ?_⟩, fun _ _ _ _ => idemPayloadFingerprint_injective⟩
  · intro i result ht h409
    obtain ⟨hs, hH, hsource⟩ := source_of_ret hreach ht
    cases hsource with
    | replayed k fp r htold hbuild =>
        -- no replay is answered with 409
        exfalso
        obtain ⟨-, -, ⟨raw, hread, hnormal⟩, hterm, -⟩ := hH.replay k fp r htold
        obtain ⟨g, -, -, itemId, -, htext⟩ := presented_of_read hreach (hstart k) hread
        rcases hnormal.replay_status htext hterm hbuild with hstatus | hstatus | hstatus <;>
          exact absurd (h409.symm.trans hstatus) (by decide)
    | conflict k fp r htold hresult =>
        obtain ⟨hkey, hfp, ⟨raw, hread, hnormal⟩, hconflicts⟩ := hH.conflict k fp r htold
        obtain ⟨itemId, hitem, rfl⟩ := Option.map_eq_some_iff.mp hfp
        obtain ⟨g, hg, hput, itemId', hitem', htext⟩ := presented_of_read hreach (hstart k) hread
        refine ⟨k, itemId, ⟨hkey, hitem⟩, g, hg, raw, hput.imp_left And.right, itemId', hitem', ?_⟩
        intro hsame
        obtain ⟨hitems, hquantities⟩ := Prod.mk.inj hsame
        rw [hitems, hquantities] at htext
        exact (hnormal.conflicts_iff htext).mp hconflicts rfl
    | own hne _ => exact absurd h409 hne
  · intro i result ht hreplay
    obtain ⟨hs, hH, hsource⟩ := source_of_ret hreach ht
    cases hsource with
    | replayed k fp r htold hbuild =>
        obtain ⟨hkey, hfp, ⟨raw, hread, hnormal⟩, hterm, hagrees⟩ := hH.replay k fp r htold
        obtain ⟨itemId, hitem, rfl⟩ := Option.map_eq_some_iff.mp hfp
        obtain ⟨g, hg, hput, itemId', hitem', htext⟩ := presented_of_read hreach (hstart k) hread
        have hwritten : ∃ ttl r, g.event = setexEvent k ttl raw r := by
          rcases hput with ⟨hproc, -⟩ | hwritten
          · exact absurd hproc (hnormal.not_processing hterm)
          · exact hwritten
        obtain ⟨hitems, hquantities⟩ : itemId' = itemId ∧
            (command g.who).quantity = (command i).quantity := by
          by_contra hne
          have hconflicts := (hnormal.conflicts_iff htext).mpr
            fun heq => hne (idemPayloadFingerprint_injective heq)
          rw [hagrees] at hconflicts
          cases hconflicts
        subst hitems
        obtain ⟨ts, hread'⟩ := hnormal.readAs_of_terminal hterm
        exact ⟨k, itemId', ⟨hkey, hitem⟩, raw, ts, hread, hread' ▸ hbuild, g, hg, hwritten, hitem',
          hquantities⟩
    | conflict k fp r htold hresult =>
        rw [hresult] at hreplay
        exact absurd hreplay.1 (by decide)
    | own _ hnot => exact absurd hreplay hnot

end Exact

/-! ### Two payloads under one key -/

section ThreeOrders

local instance neZero_three : NeZero 3 := ⟨by decide⟩

/-- Requests `0` and `1` for the item `a` and request `2` for the item `b`, all with the
key `k`, on an empty store. -/
def threeOrders : Config (HostSig ℚ) Exc ServiceResult (HostState ℚ) (Fin 3) :=
  ordersAt (fun _ => plainCtx) (fun _ => 0)
    (fun i => ⟨some (if i = 2 then "b" else "a"), 1, some "k"⟩) ⟨fun _ => none, 0, []⟩

/-- Request `2` meets the reservation of request `0`, request `1` its result. -/
def conflictRun : Option (Config (HostSig ℚ) Exc ServiceResult (HostState ℚ) (Fin 3)) :=
  threeOrders.run (hostWorld ℚ)
    [.call 0 (.reading 0), .call 0 (.fresh "a"), .call 0 .done, .call 0 .done,
      .call 2 (.reading 0), .call 2 (.fresh "b"), .call 2 .done, .call 2 .done, .call 2 .done,
      .call 2 .done, .call 2 (.reading 0), .call 0 (.reading (1 / 100)), .call 0 (.reading 0),
      .call 0 .done, .call 0 .done, .call 0 (.reading 1), .call 0 (.fresh "c"), .call 0 .done,
      .call 0 .done, .call 0 (.reading 0), .call 0 .done, .call 0 .done, .call 1 (.reading 0),
      .call 1 (.fresh "d"), .call 1 .done, .call 1 .done, .call 1 .done, .call 1 .done]

theorem conflictRun_isSome : conflictRun.isSome = true := by decide +kernel

theorem conflictRun_reach :
    Reach (hostWorld ℚ) FirstTry threeOrders (conflictRun.get conflictRun_isSome) := by
  have hsmooth : ((conflictRun.get conflictRun_isSome).log.all fun e => smooth e.event) = true := by
    decide +kernel
  refine Reach.of_run (Q := fun l => ∀ e ∈ l, smooth e.event = true) ?_ (.start ?_)
    (Option.some_get conflictRun_isSome).symm (List.all_eq_true.mp hsmooth)
  · exact fun new l h e he => h e (List.mem_append_right new he)
  · exact fun e he => absurd he List.not_mem_nil

/-- Where no call fails, no fault is injected. -/
theorem hooksInjected_of_firstTry {ι : Type} {s : HostState K} {l : HostLog K ι}
    (h : FirstTry s l) : HooksInjected s l := by
  intro e he stage x hev _
  have hsmooth := h e he
  rw [hev] at hsmooth
  cases hsmooth

/-- The status of an answer, and whether it calls itself idempotent. -/
def answerOf : Prog (HostSig ℚ) Exc ServiceResult → Option (ℤ × Bool)
  | .ret result => some (result.statusCode, Dict.get result.body "idempotent" == .bool true)
  | _ => none

theorem conflictDetection_threeOrders :
    answerOf ((conflictRun.get conflictRun_isSome).thread 1) = some (200, true) ∧
      answerOf ((conflictRun.get conflictRun_isSome).thread 2) = some (409, false) ∧
      ConflictsExact (fun i => ⟨some (if i = 2 then "b" else "a"), 1, some "k"⟩)
        (conflictRun.get conflictRun_isSome) := by
  refine ⟨by decide +kernel, by decide +kernel, ?_⟩
  have hreach := conflictRun_reach.mono fun _ _ h => hooksInjected_of_firstTry h
  exact (conflictDetection_exact (fun _ => plainCtx) (fun _ => 0)
    (fun i => ⟨some (if i = 2 then "b" else "a"), 1, some "k"⟩) ⟨fun _ => none, 0, []⟩
    fun _ => rfl).1 _ hreach

end ThreeOrders

end ChaosDemo
