/-
ChaosDemo/LostReply.lean

A reservation whose reply is lost.  `SET NX` is not idempotent, and
`_execute_redis` repeats it like any other command: the second attempt of the
very command that stored the record is refused, and
`reserve_idempotency_key` then reads its own record as another client's.

The call runs alone on the key.  It becomes the owner exactly when a later
`SET NX` of it finds the key free (`FreeAgain`), and that needs the lost
reservation to have outlived `IDEM_PENDING_TTL_SEC`, by the server's clock or,
for a takeover, by the caller's.
-/
import ChaosDemo.Handover
import ChaosDemo.TerminalWrites

set_option linter.unusedSectionVars false

namespace ChaosDemo

open CallTree Keyspace

variable {K : Type} [Field K] [LinearOrder K] [IsStrictOrderedRing K] [FloorRing K]

/-- What a reservation ends with. -/
abbrev Reservation := ReserveState × Record

/-- One reservation on a server that nobody else uses. -/
def reserveAt (ctx : Ctx K) (k fp : String) (s : HostState K) :
    Config (HostSig K) Exc Reservation (HostState K) Unit :=
  ⟨s, fun _ => reserveIdempotencyKey ctx k fp, []⟩

/-! ### What is lost -/

/-- A `SET NX` that stored the reservation `v`, and whose reply did not come back. -/
def LostGrant (k : String) (v : Raw) (ttl : ℤ) (g : HostEntry K Unit) : Prop :=
  Stores g k v ttl ∧ ∃ x, g.event = setNxEvent k v ttl (.error x) ∧
    (x = .redisTimeout ∨ x = .redisConnection)

/-- An attempt of a `SET NX` under `k`. -/
def Attempts (k : String) (x : HostEntry K Unit) : Prop :=
  ∃ v ttl r, x.event = setNxEvent k v ttl r

/-- Every call succeeds, but for the reply of the first `SET NX`. -/
def OnlyReplyLost (k : String) (_ : HostState K) (l : HostLog K Unit) : Prop :=
  ∀ newer e older, l = newer ++ e :: older → smooth e.event = true ∨
    (∃ v ttl, LostGrant k v ttl e) ∧ ∀ x ∈ older, ¬ Attempts k x

/-- `x` is an attempt of a `SET NX` after `g`. -/
def Retried (k : String) (g x : HostEntry K Unit) (l : HostLog K Unit) : Prop :=
  ∃ newer since older, l = newer ++ x :: (since ++ g :: older) ∧ Attempts k x

/-- A `SET NX` after `g` finds no live record under the key. -/
def FreeAgain (k : String) (g : HostEntry K Unit) (l : HostLog K Unit) : Prop :=
  ∃ x, Retried k g x l ∧ x.before.data.lookup x.before.now (.idem k) = none

/-- The caller is told that it is the owner, and its record is under the key. -/
def OwnsStoredRecord (k : String) (s : HostState K) : Except Exc Reservation → Prop
  | .ok (.owner, r) => ∃ v deadline, r.raw = some v ∧ s.data (.idem k) = some ⟨v, deadline⟩
  | _ => False

/-! ### The caller -/

/-- A caller of `reserve_idempotency_key`, and nothing else. -/
def reserver (ctx : Ctx K) : Protocol (HostSig K) Exc where
  mayCall h o := match o with
    | .redis (.setex _ _ _) => False
    | .redis (.compareAndDelete k raw) => Removable ctx k raw h
    | o => (storeClient ctx).mayCall h o
  mayReply _ o r := HostReply o r

variable {ctx : Ctx K} {k fp : String}

theorem storeClient_of_reserver {h : HostHistory K} {o : HostOp K}
    (hcall : (reserver ctx).mayCall h o) : (storeClient ctx).mayCall h o := by
  cases o with
  | redis c =>
      cases c with
      | setex k ttl v => exact hcall.elim
      | compareAndDelete k raw => exact .inl hcall
      | _ => exact hcall
  | _ => exact hcall

theorem reserver_reading (ctx : Ctx K) (k : String) :
    Reading (reserver ctx) k fun _ => True := by
  refine ⟨fun _ _ _ hr => hr, fun h o _ ho => ⟨?_, fun _ _ => trivial⟩, fun h _ => ⟨?_, ?_⟩⟩
  · cases o with
    | redis c => cases ho
    | _ => trivial
  · intro k' hk
    cases hk
  · exact fun _ _ => trivial

theorem reserver_reserving (ctx : Ctx K) (k fp : String) :
    Reserving (reserver ctx) ctx k fp (fun _ => True) fun _ => True := by
  refine ⟨reserver_reading ctx k, reserver_reading ctx k, fun _ _ => trivial, ?_, ?_, ?_⟩
  · exact fun h _ => ⟨trivial, fun _ _ => trivial⟩
  · exact fun h v _ hbuild => ⟨⟨rfl, fp, hbuild⟩, fun _ _ _ => trivial⟩
  · exact fun h raw _ hrem => ⟨hrem, fun _ _ => ⟨trivial, fun _ => trivial⟩⟩

theorem reserve_obeys (ctx : Ctx K) (k fp : String) :
    Obeys (reserver ctx) (reserveIdempotencyKey ctx k fp) (fun _ _ => True) [] :=
  (reserveIdempotencyKey_obeys (reserver_reserving ctx k fp) trivial).mono fun _ _ _ => trivial

/-! ### The run -/

section Run

variable {s₀ : HostState K} {c : Config (HostSig K) Exc Reservation (HostState K) Unit}
  {P : HostState K → HostLog K Unit → Prop}
  (hreach : Reach (hostWorld K) P (reserveAt ctx k fp s₀) c)

theorem hostWorld_serves_reserver (P : HostState K → HostLog K Unit → Prop) (ctx : Ctx K) :
    Serves (hostWorld K) P fun _ => reserver ctx :=
  fun _ _ _ _ _ _ _ hs _ => hostReply_of_serve hs

include hreach

theorem reserve_allowed {newer old : HostLog K Unit} {e : HostEntry K Unit}
    (hsplit : c.log = newer ++ e :: old) : (reserver ctx).mayCall (own () old) e.event.op :=
  hreach.allowed (hostWorld_serves_reserver P ctx) rfl (fun _ => reserve_obeys ctx k fp)
    newer e old hsplit

theorem reserve_recordStep {newer old : HostLog K Unit} {e : HostEntry K Unit}
    (hsplit : c.log = newer ++ e :: old) :
    RecordStep ctx (own () old) e.before e.event e.after := by
  let shared : Unit → Ctx K := fun _ => ctx
  have hclient : ∀ i h o, (reserver ctx).mayCall h o → (storeClient (shared i)).mayCall h o :=
    fun _ _ _ hcall => storeClient_of_reserver hcall
  exact recordStep_of_log hreach rfl (hostWorld_serves_reserver P ctx)
    (fun _ => reserve_obeys ctx k fp) hclient hsplit

/-- The result of the call and the grants in the log. -/
theorem reserve_ownerByGrant {res : Except Exc Reservation} (hdone : c.thread () = .ofExcept res) :
    OwnerByGrant ctx k (own () c.log) res := by
  have hserve : Serves (hostWorld K) P fun _ : Unit => (anyHost : Protocol (HostSig K) Exc) :=
    fun _ _ _ _ _ _ _ hs _ => hostReply_of_serve hs
  obtain ⟨calls, heq, hgrant⟩ :=
    hreach.post hserve rfl (fun _ => reserve_ownerByGrant_obeys ctx k fp []) hdone
  rw [List.append_nil] at heq
  exact heq ▸ hgrant

/-- A `SET NX` after the lost one that finds the key free is granted. -/
theorem granted_of_free {newer old : HostLog K Unit} {x : HostEntry K Unit}
    (hsplit : c.log = newer ++ x :: old) (hx : Attempts k x) (hsmooth : smooth x.event = true)
    (hfree : x.before.data.lookup x.before.now (.idem k) = none) :
    ∃ v ttl, x.event = setNxEvent k v ttl (.ok true) := by
  obtain ⟨v, ttl, r, hev⟩ := hx
  refine ⟨v, ttl, ?_⟩
  obtain ⟨rfl, -⟩ := exec_of_log hreach rfl hsplit hev hsmooth
  rw [hev]
  simp [exec, hfree]

/-- The lost reservation is gone only when it has run out, or when the caller has
judged it stale. -/
theorem agedOut_of_free {v : Raw} {ttl : ℤ} {newer since older : HostLog K Unit}
    {g x : HostEntry K Unit} (hsplit : c.log = newer ++ x :: (since ++ g :: older))
    (hg : Stores g k v ttl) (hfree : x.before.data.lookup x.before.now (.idem k) = none) :
    g.before.now + ttl ≤ x.before.now ∨ Judged ctx k v (own () c.log) := by
  have htraced := hreach.traced rfl
  rw [hsplit] at htraced
  have hnow : ∀ y ∈ since, y.before.now ≤ x.before.now :=
    fun y hy => htraced.before.1.before_le rising_now (List.mem_append_left _ hy)
  -- a slot that holds the record and shows none has run out
  have hrunOut : ∀ s : HostState K, s.data (.idem k) = some ⟨v, some (g.before.now + ttl)⟩ →
      s.data.lookup s.now (.idem k) = none → g.before.now + ttl ≤ s.now := by
    intro s hslot hnone
    by_contra hlive
    rw [Store.lookup, hslot, live_some, if_pos (alive_some.mpr (not_le.mp hlive))] at hnone
    cases hnone
  rcases htraced.before.1.first_change (steady_slot (.idem k)) with
    hsame | ⟨later, y, earlier, rfl, hbefore, hchange⟩
  · exact .inl (hrunOut _ (hsame.trans hg.2.2) hfree)
  · have hsplit_y : c.log = (newer ++ x :: later) ++ y :: (earlier ++ g :: older) := by
      simpa using hsplit
    have hstep := reserve_recordStep hreach hsplit_y
    have hallowed := reserve_allowed hreach hsplit_y
    have hproc : v.state = idemStateProcessing := by
      have hsplit_g : c.log = (newer ++ x :: (later ++ y :: earlier)) ++ g :: older := by
        simpa using hsplit
      obtain ⟨⟨r, hev⟩, -⟩ := hg
      have hcall := reserve_allowed hreach hsplit_g
      rw [hev] at hcall
      obtain ⟨-, fp', hb⟩ := hcall
      exact hb.state
    have hy : y.before.now ≤ x.before.now := hnow y (by simp)
    rw [hg.2.2] at hbefore
    rcases y with ⟨i, ev, s, s'⟩
    dsimp only at hstep hallowed hbefore hchange hy
    cases hstep with
    | reserved k' fp' v' r hbuild hlookup hr =>
        obtain rfl : k = k' := by
          by_contra hk
          exact hchange (Store.put_of_ne (by simpa using hk))
        exact .inl ((hrunOut s hbefore hlookup).trans hy)
    | finished k' ttl' v' r hterm => exact hallowed.elim
    | removed k' v' r hmay hlookup hr =>
        obtain rfl : k = k' := by
          by_contra hk
          exact hchange (Store.erase_of_ne (by simpa using hk))
        have hv : v' = v := by
          rw [Store.lookup, hbefore, live_some] at hlookup
          split at hlookup
          · exact (Option.some.inj hlookup).symm
          · cases hlookup
        subst hv
        rcases hallowed with hj | ⟨-, hexp⟩
        · refine .inr ?_
          rw [hsplit_y, own_append]
          apply Judged.append
          rw [own_cons_self (⟨i, cadEvent k v' r, s, _⟩ : HostEntry K Unit)]
          exact hj.cons _
        · rw [hproc] at hexp
          exact absurd hexp (by decide)
    | kept _ _ hdata heff => exact absurd (hdata k) hchange

end Run

/-- **When a reservation survives a lost reply.**  The first `SET NX` of a
reservation takes effect and its reply is lost; everything else succeeds, and
nobody else touches the key.  At its end the call is told that it is the owner
of the record under the key exactly when a later `SET NX` of it has found the
key free, and that needs a reservation that has outlived its time. -/
theorem owner_iff_freeAgain {s₀ : HostState K}
    {c : Config (HostSig K) Exc Reservation (HostState K) Unit}
    (hreach : Reach (hostWorld K) (OnlyReplyLost k) (reserveAt ctx k fp s₀) c)
    {v : Raw} {ttl : ℤ} {g : HostEntry K Unit} (hlost : LostGrant k v ttl g) (hg : g ∈ c.log)
    {res : Except Exc Reservation} (hdone : c.thread () = .ofExcept res) :
    (OwnsStoredRecord k c.state res ↔ FreeAgain k g c.log) ∧
      (FreeAgain k g c.log → (∃ x ∈ c.log, g.before.now + ttl ≤ x.before.now) ∨
        Judged ctx k v (own () c.log)) := by
  have honly : OnlyReplyLost k c.state c.log := hreach.holds
  have hgrant := reserve_ownerByGrant hreach hdone
  refine ⟨⟨?_, ?_⟩, ?_⟩
  · intro howns
    rcases res with e | ⟨_ | _ | _ | _, r⟩
    · exact howns.elim
    · obtain ⟨w, before, heq, -⟩ := hgrant
      rcases hlog : c.log with - | ⟨x, old⟩
      · rw [hlog] at heq
        cases heq
      · rw [hlog] at heq hg
        have hx : x.event = setNxEvent k w ctx.idemPendingTtlSec (.ok true) :=
          (List.cons.inj ((own_cons_self x old).symm.trans heq)).1
        -- the lost one is another, earlier call
        have hmem : g ∈ old := by
          rcases List.mem_cons.mp hg with rfl | hmem
          · obtain ⟨-, y, hev, -⟩ := hlost
            rw [hev] at hx
            cases hx
          · exact hmem
        obtain ⟨since, older, rfl⟩ := List.append_of_mem hmem
        refine ⟨x, ⟨[], since, older, rfl, _, _, _, hx⟩, ?_⟩
        have hsplit : c.log = [] ++ x :: (since ++ g :: older) := hlog
        have hstep := reserve_recordStep hreach hsplit
        rw [hx] at hstep
        exact (slot_of_granted hstep).1
    · exact howns.elim
    · exact howns.elim
    · exact howns.elim
  · rintro ⟨x, ⟨newer, since, older, hsplit, hx⟩, hfree⟩
    have hsmooth : smooth x.event = true := by
      rcases honly newer x _ hsplit with h | ⟨-, hfirst⟩
      · exact h
      · obtain ⟨w, hev, -⟩ := hlost.2
        exact absurd ⟨v, ttl, _, hev⟩ (hfirst g (by simp))
    obtain ⟨w, ttl', hev⟩ := granted_of_free hreach hsplit hx hsmooth hfree
    have hmem : setNxEvent k w ttl' (.ok true) ∈ own () c.log :=
      mem_own.mpr ⟨x, by rw [hsplit]; simp, rfl, hev⟩
    have hno : ¬ NoGrant (own () c.log) := fun hno => hno k w ttl' hmem
    rcases res with e | ⟨_ | _ | _ | _, r⟩
    · exact absurd hgrant hno
    · obtain ⟨w', before, heq, hraw, -⟩ := hgrant
      rcases hlog : c.log with - | ⟨y, old⟩
      · rw [hlog] at heq
        cases heq
      · rw [hlog] at heq
        have hy : y.event = setNxEvent k w' ctx.idemPendingTtlSec (.ok true) :=
          (List.cons.inj ((own_cons_self y old).symm.trans heq)).1
        have hstep := reserve_recordStep hreach (show c.log = [] ++ y :: old from hlog)
        rw [hy] at hstep
        have htraced : Traced (hostWorld K) s₀ ([] ++ y :: old) c.state := hlog ▸ hreach.traced rfl
        have hsame := htraced.unchanged (steady_slot (.idem k)) (by simp)
        exact ⟨w', _, hraw, hsame.trans (slot_of_granted hstep).2.2⟩
    · exact absurd hgrant hno
    · exact absurd hgrant hno
    · exact absurd hgrant hno
  · rintro ⟨x, ⟨newer, since, older, hsplit, -⟩, hfree⟩
    refine (agedOut_of_free hreach hsplit hlost.1 hfree).imp_left fun hle => ⟨x, ?_, hle⟩
    rw [hsplit]
    simp

/-! ### A retry at once -/

/-- The reservation of `k` on an empty store. -/
def firstReservation : Config (HostSig ℚ) Exc Reservation (HostState ℚ) Unit :=
  reserveAt defaultCtx "k" "fp" ⟨fun _ => none, 0, []⟩

/-- The reply of the `SET NX` is lost, and the retry comes 5 ms later. -/
def lostReplyRun : Option (Config (HostSig ℚ) Exc Reservation (HostState ℚ) Unit) :=
  firstReservation.run (hostWorld ℚ)
    [.call () (.reading 0), .call () (.fresh "a"), .call () .done,
      .call () (.lost .redisTimeout), .call () (.reading 0), .drift (1 / 200 : ℚ), .call () .done,
      .call () .done, .call () .done, .call () .done, .call () .done,
      .call () (.reading (1 / 200))]

/-- Whether this is an attempt of a `SET NX`. -/
def attempts (x : HostEntry ℚ Unit) : Bool :=
  match x.event.op with
  | .redis (.setNxEx (.idem k) _ _) => k == "k"
  | _ => false

/-- Whether this is a `SET NX` that took effect and timed out. -/
def lostGrant (g : HostEntry ℚ Unit) : Bool :=
  match g.event with
  | ⟨.redis (.setNxEx (.idem k) v ttl), .error .redisTimeout⟩ => k == "k" &&
      (g.before.data.lookup g.before.now (.idem "k")).isNone &&
      decide (g.after.data (.idem "k") = some ⟨v, some (g.before.now + ttl)⟩)
  | _ => false

/-- Whether only the reply of the first `SET NX` is lost. -/
def onlyReplyLost : HostLog ℚ Unit → Bool
  | [] => true
  | e :: l => (smooth e.event || lostGrant e && l.all fun x => !attempts x) && onlyReplyLost l

/-- Whether there is a `SET NX` after the lost one. -/
def retried : HostLog ℚ Unit → Bool
  | [] => false
  | x :: l => attempts x && l.any lostGrant || retried l

/-- How the call ends: its own record is reported as another client's. -/
def saysProcessing : Prog (HostSig ℚ) Exc Reservation → Bool
  | .ret (.processing, _) => true
  | _ => false

/-- The run is one of the runs in question, with the retry and the answer that are. -/
theorem lostReplyRun_any : lostReplyRun.any (fun c =>
    onlyReplyLost c.log && saysProcessing (c.thread ()) && retried c.log) = true := by
  decide +kernel

theorem lostReplyRun_isSome : lostReplyRun.isSome = true := by
  obtain ⟨c, hc, -⟩ := (Option.any_eq_true _ _).mp lostReplyRun_any
  rw [hc]
  rfl

theorem lostReplyRun_checks : onlyReplyLost (lostReplyRun.get lostReplyRun_isSome).log = true ∧
    saysProcessing ((lostReplyRun.get lostReplyRun_isSome).thread ()) = true ∧
    retried (lostReplyRun.get lostReplyRun_isSome).log = true := by
  obtain ⟨c, hc, hchecks⟩ := (Option.any_eq_true _ _).mp lostReplyRun_any
  have hget : lostReplyRun.get lostReplyRun_isSome = c := Option.get_of_eq_some _ hc
  rw [hget]
  simpa only [Bool.and_eq_true, and_assoc] using hchecks

theorem attempts_iff {x : HostEntry ℚ Unit} : attempts x = true ↔ Attempts "k" x := by
  rcases x with ⟨i, ⟨o, r⟩, s, s'⟩
  constructor
  · intro h
    unfold attempts at h
    split at h
    · next k v ttl hop =>
        obtain rfl := eq_of_beq h
        dsimp only at hop
        subst hop
        exact ⟨v, ttl, r, rfl⟩
    · cases h
  · rintro ⟨v, ttl, r', hev⟩
    obtain ⟨rfl, rfl⟩ := Event.mk.inj hev
    rfl

theorem lostGrant_of {g : HostEntry ℚ Unit} (h : lostGrant g = true) :
    ∃ v ttl, LostGrant "k" v ttl g := by
  unfold lostGrant at h
  split at h
  · next k v ttl hev =>
      simp only [Bool.and_eq_true, beq_iff_eq, decide_eq_true_eq, Option.isNone_iff_eq_none] at h
      obtain ⟨⟨rfl, hfree⟩, hslot⟩ := h
      exact ⟨v, ttl, ⟨⟨_, hev⟩, hfree, hslot⟩, _, hev, .inl rfl⟩
  · cases h

theorem onlyReplyLost_of {l : HostLog ℚ Unit} (h : onlyReplyLost l = true) (s : HostState ℚ) :
    OnlyReplyLost "k" s l := by
  induction l with
  | nil =>
      intro newer e older hsplit
      simp at hsplit
  | cons e l ih =>
      obtain ⟨hhead, htail⟩ := (Bool.and_eq_true _ _).mp h
      intro newer e' older hsplit
      rcases newer with - | ⟨e'', newer⟩
      · obtain ⟨rfl, rfl⟩ := List.cons.inj hsplit
        refine ((Bool.or_eq_true _ _).mp hhead).imp_right fun hlost => ?_
        obtain ⟨hgrant, hfirst⟩ := (Bool.and_eq_true _ _).mp hlost
        refine ⟨lostGrant_of hgrant, fun x hx hattempt => ?_⟩
        have hnot := List.all_eq_true.mp hfirst x hx
        rw [attempts_iff.mpr hattempt] at hnot
        cases hnot
      · exact ih htail newer e' older (List.cons.inj hsplit).2

theorem retried_of {l : HostLog ℚ Unit} (h : retried l = true) :
    ∃ g x v ttl, LostGrant "k" v ttl g ∧ Retried "k" g x l := by
  induction l with
  | nil => cases h
  | cons x l ih =>
      rcases (Bool.or_eq_true _ _).mp h with hhere | hlater
      · obtain ⟨hx, hg⟩ := (Bool.and_eq_true _ _).mp hhere
        obtain ⟨g, hmem, hlost⟩ := List.any_eq_true.mp hg
        obtain ⟨v, ttl, hgrant⟩ := lostGrant_of hlost
        obtain ⟨since, older, rfl⟩ := List.append_of_mem hmem
        exact ⟨g, x, v, ttl, hgrant, [], since, older, rfl, attempts_iff.mp hx⟩
      · obtain ⟨g, x', v, ttl, hgrant, newer, since, older, rfl, hx⟩ := ih hlater
        exact ⟨g, x', v, ttl, hgrant, x :: newer, since, older, rfl, hx⟩

theorem lostReplyRun_reach : Reach (hostWorld ℚ) (OnlyReplyLost "k") firstReservation
    (lostReplyRun.get lostReplyRun_isSome) := by
  have hlast := lostReplyRun_checks.1
  have hrun : Reach (hostWorld ℚ) (fun _ l => ∀ s, OnlyReplyLost "k" s l) firstReservation
      (lostReplyRun.get lostReplyRun_isSome) := by
    refine Reach.of_run ?_ (.start ?_) (Option.some_get lostReplyRun_isSome).symm
      (onlyReplyLost_of hlast)
    · intro new l hl s newer e older hsplit
      exact hl s (new ++ newer) e older (by rw [hsplit, List.append_assoc])
    · intro s newer e older hsplit
      simp [firstReservation, reserveAt] at hsplit
  exact hrun.mono fun s l hl => hl s

theorem lostReplyRun_ends : ∃ r,
    (lostReplyRun.get lostReplyRun_isSome).thread () = .ofExcept (.ok (.processing, r)) := by
  have hends := lostReplyRun_checks.2.1
  unfold saysProcessing at hends
  split at hends
  · next r hthread => exact ⟨r, hthread⟩
  · cases hends

/-- A request finds its own reservation and takes it for another client's. -/
theorem not_ownsStoredRecord_lostReply :
    ¬ ∀ c g x v ttl res, Reach (hostWorld ℚ) (OnlyReplyLost "k") firstReservation c →
      LostGrant "k" v ttl g → Retried "k" g x c.log → c.thread () = .ofExcept res →
      OwnsStoredRecord "k" c.state res := by
  intro hall
  have hretried := lostReplyRun_checks.2.2
  obtain ⟨g, x, v, ttl, hlost, hx⟩ := retried_of hretried
  obtain ⟨r, hends⟩ := lostReplyRun_ends
  exact hall _ g x v ttl _ lostReplyRun_reach hlost hx hends

/-- So no `SET NX` of the run found the key free again. -/
theorem not_freeAgain_lostReply : ∃ g v ttl, LostGrant "k" v ttl g ∧
    ¬ FreeAgain "k" g (lostReplyRun.get lostReplyRun_isSome).log := by
  have hretried := lostReplyRun_checks.2.2
  obtain ⟨g, x, v, ttl, hlost, newer, since, older, hsplit, hx⟩ := retried_of hretried
  have hmem : g ∈ (lostReplyRun.get lostReplyRun_isSome).log := by
    rw [hsplit]
    simp
  obtain ⟨r, hends⟩ := lostReplyRun_ends
  refine ⟨g, v, ttl, hlost, fun hfree => ?_⟩
  exact (owner_iff_freeAgain lostReplyRun_reach hlost hmem hends).1.mpr hfree

end ChaosDemo
