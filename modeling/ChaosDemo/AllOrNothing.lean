/-
ChaosDemo/AllOrNothing.lean

One request, and one Redis command of it that fails with all its retries.

The repositories turn a failure into a StorageException, which `create_order`
handles; the storage of the breaker passes it on.  So the request is all or
nothing exactly when the command that fails is not one of the breaker
(`allOrNothing_iff`): a breaker command that fails after the order was saved
leaves the order without a 201 and the PROCESSING record under the key.

`RecordInv` is what the request has under its key, in terms of its own calls:
its text until it settles, and from then on a terminal record or nothing.
-/
import ChaosDemo.Handover
import ChaosDemo.TerminalWrites

set_option linter.unusedSectionVars false

namespace ChaosDemo

open CallTree Keyspace

variable {K : Type} [Field K] [LinearOrder K] [IsStrictOrderedRing K] [FloorRing K]
variable {ι : Type} [DecidableEq ι]

/-! ### What fails -/

/-- What the injectors raise: a drop with 503, an exception with 500. -/
def Injected : Exc → Prop
  | .chaosDrop f => f.statusCode = 503
  | .chaosFault f => f.statusCode = 500
  | _ => False

/-- An attempt of `cmd` that failed with a RedisError and did nothing. -/
def FailedAttempt (cmd : Cmd K) (e : HostEntry K Unit) : Prop :=
  (∃ x, e.event = ⟨.redis cmd, .error x⟩ ∧ x.isRedisError = true) ∧ e.after.data = e.before.data

/-- Every call succeeds, but for injected faults and for the attempts of `cmd`, which
all fail from the first that does. -/
def OneCommandFails (cmd : Cmd K) (_ : HostState K) (l : HostLog K Unit) : Prop :=
  ∀ newer e older, l = newer ++ e :: older →
    (smooth e.event = true ∧ (e.event.op = .redis cmd → ∀ x ∈ older, ¬ FailedAttempt cmd x)) ∨
    FailedAttempt cmd e ∨
    ∃ stage x, e.event = ⟨.beforeServiceOperation stage, .error x⟩ ∧ Injected x

/-- A write of an idempotency record. -/
def Cmd.writesRecord : Cmd K → Bool
  | .setNxEx (.idem _) _ _ => true
  | .setex (.idem _) _ _ => true
  | .compareAndDelete _ _ => true
  | _ => false

/-- The failing command is none of the breaker's. -/
def BreakerSpared (cmd : Cmd K) (l : HostLog K Unit) : Prop :=
  cmd.ofBreaker = true → ∀ e ∈ l, ¬ FailedAttempt cmd e

/-- The terminal states. -/
def Raw.Terminal (w : Raw) : Prop := w.state = idemStateSuccess ∨ w.state = idemStateFailed

/-- Every call succeeds, and the record under the key lives until `deadline`. -/
def RecordLives (deadline : Option K) (s : HostState K) (l : HostLog K ι) : Prop :=
  FirstTry s l ∧ ∀ d, deadline = some d → s.now < d

/-- What a request leaves behind.  -/
structure AllOrNothing (k : String) (cmd : Cmd K)
    (c : Config (HostSig K) Exc ServiceResult (HostState K) Unit) (res : Except Exc ServiceResult) :
    Prop where
  /-- An order was saved exactly when the answer is 201. -/
  saved : (savedOrder (own () c.log)).isSome = true ↔ ∃ body, res = .ok ⟨201, body⟩
  /-- No RedisError escapes. -/
  contained : ∀ e, res = .error e → e.isRedisError = false
  /-- The record under the key is terminal, or gone. -/
  settled : cmd.writesRecord = false →
    ∀ w, c.state.data.lookup c.state.now (.idem k) = some w → w.Terminal
  /-- After a saved order, retries with the key save none, as long as the record lives. -/
  retries : cmd.writesRecord = false → (savedOrder (own () c.log)).isSome = true →
    ∃ w deadline, c.state.data (.idem k) = some ⟨w, deadline⟩ ∧
      ∀ (κ : Type) (_ : DecidableEq κ) (ctx : κ → Ctx K) (startedAt : κ → K)
        (command : κ → CreateOrderCommand) (s : HostState K)
        (c' : Config (HostSig K) Exc ServiceResult (HostState K) κ),
        (∀ i, (command i).key? = some k) → s.data = c.state.data →
        Reach (hostWorld K) (RecordLives deadline) (ordersAt ctx startedAt command s) c' →
        ∀ i, savedOrder (own i c'.log) = none

/-! ### The record of the request -/

/-- What is under the key, as far as the request has to do with it. -/
structure RecordInv (k : String) (s : HostState K) (h : HostHistory K) : Prop where
  held : ∀ v, reservation h = some v → hasSettled h = false →
    ∃ deadline, s.data (.idem k) = some ⟨v, deadline⟩
  settled : ∀ v, reservation h = some v → hasSettled h = true →
    ∀ w, s.data.lookup s.now (.idem k) = some w → w.Terminal
  success : ∀ v orderId, reservation h = some v → savedOrder h = some orderId →
    hasSettled h = true → ∃ n fp deadline,
      s.data (.idem k) = some ⟨successRaw n fp orderId 201 (createdBody orderId), deadline⟩

section Record

variable {ctx : Ctx K} {k : String} {s s' : HostState K} {h : HostHistory K} {ev : HostEvent K}

/-- A call that leaves the record and the doings of the request alone. -/
theorem RecordInv.framed (hinv : RecordInv k s h) (hin : inert ev = true)
    (hdata : s'.data (.idem k) = s.data (.idem k)) (hnow : s.now ≤ s'.now) :
    RecordInv k s' (ev :: h) := by
  have hlookup : ∀ w, s'.data.lookup s'.now (.idem k) = some w →
      s.data.lookup s.now (.idem k) = some w := by
    intro w hw
    rw [Store.lookup, hdata] at hw
    exact live_mono hnow hw
  refine ⟨?_, ?_, ?_⟩
  · intro v hv hs
    rw [reservation_inert hin] at hv
    rw [hasSettled_inert hin] at hs
    rw [hdata]
    exact hinv.held v hv hs
  · intro v hv hs w hw
    rw [reservation_inert hin] at hv
    rw [hasSettled_inert hin] at hs
    exact hinv.settled v hv hs w (hlookup w hw)
  · intro v orderId hv hsaved hs
    rw [reservation_inert hin] at hv
    rw [savedOrder_inert hin] at hsaved
    rw [hasSettled_inert hin] at hs
    rw [hdata]
    exact hinv.success v orderId hv hsaved hs

theorem inert_error (o : HostOp K) (e : Exc) : inert ⟨o, .error e⟩ = true := by
  cases o with
  | redis c =>
      cases c with
      | setNxEx k v ttl => cases k <;> rfl
      | setex k ttl v => cases k <;> rfl
      | _ => rfl
  | _ => rfl

/-- A request without a reservation has nothing to keep. -/
theorem RecordInv.of_unreserved (hnone : reservation h = none) : RecordInv k s h := by
  refine ⟨?_, ?_, ?_⟩
  · intro v hv
    rw [hnone] at hv
    cases hv
  · intro v hv
    rw [hnone] at hv
    cases hv
  · intro v orderId hv
    rw [hnone] at hv
    cases hv

/-- A command of the request that took effect. -/
theorem RecordInv.exec (hinv : RecordInv k s h) {c : Cmd K}
    (hcall : (orderClient ctx (some k)).mayCall h (.redis c)) :
    RecordInv k { s with data := (ChaosDemo.exec s.now s.data c).2 }
      (⟨.redis c, .ok (ChaosDemo.exec s.now s.data c).1⟩ :: h) := by
  have hframe : inert ⟨.redis c, .ok (ChaosDemo.exec s.now s.data c).1⟩ = true →
      Key.idem k ∉ c.writes → RecordInv k { s with data := (ChaosDemo.exec s.now s.data c).2 }
        (⟨.redis c, .ok (ChaosDemo.exec s.now s.data c).1⟩ :: h) :=
    fun hin hw => hinv.framed hin (exec_frame s.now s.data c hw) (le_refl _)
  cases c with
  | setNxEx key v ttl =>
      cases key with
      | idem k' =>
          obtain ⟨hkey, rfl, hnone, hunsettled, hunsaved, -⟩ := hcall
          obtain rfl := Option.some.inj hkey
          cases hlookup : s.data.lookup s.now (.idem k) with
          | some w =>
              apply RecordInv.of_unreserved
              have hexec : (ChaosDemo.exec s.now s.data
                  (.setNxEx (.idem k) v ctx.idemPendingTtlSec)).1 = false := by
                simp [ChaosDemo.exec, hlookup]
              rw [hexec]
              exact hnone
          | none =>
              have hexec : ChaosDemo.exec s.now s.data
                  (.setNxEx (.idem k) v ctx.idemPendingTtlSec) =
                  (true, s.data.put (.idem k) v (some (s.now + ctx.idemPendingTtlSec))) := by
                simp [ChaosDemo.exec, hlookup]
              rw [hexec]
              refine ⟨?_, ?_, ?_⟩
              · intro v' hv' _
                obtain rfl := Option.some.inj hv'
                exact ⟨_, Store.put_self⟩
              · intro v' _ hs
                rw [show hasSettled (setNxEvent k v ctx.idemPendingTtlSec (.ok true) :: h) =
                  hasSettled h from rfl, hunsettled] at hs
                cases hs
              · intro v' orderId _ _ hs
                rw [show hasSettled (setNxEvent k v ctx.idemPendingTtlSec (.ok true) :: h) =
                  hasSettled h from rfl, hunsettled] at hs
                cases hs
      | _ => exact hframe rfl (hcall k)
  | setex key ttl v =>
      cases key with
      | idem k' =>
          obtain ⟨hkey, rfl, -, -, hclosing⟩ := hcall
          obtain rfl := Option.some.inj hkey
          refine ⟨fun v' _ hs => (by cases hs), ?_, ?_⟩
          · intro v' _ _ w hw
            obtain ⟨x, hx, -, rfl⟩ := live_eq_some.mp hw
            have hput : some ⟨v, some (s.now + ctx.idemTtlSec)⟩ = some x :=
              Store.put_self.symm.trans hx
            obtain rfl := Option.some.inj hput
            exact hclosing.terminal
          · intro v' orderId _ hsaved _
            have hsaved' : savedOrder h = some orderId := hsaved
            cases hclosing with
            | success n fp orderId' horder =>
                obtain rfl := Option.some.inj (hsaved'.symm.trans horder)
                exact ⟨n, fp, _, Store.put_self⟩
            | failed n fp message status body hnone =>
                rw [hnone] at hsaved'
                cases hsaved'
      | order orderId =>
          obtain ⟨-, hunsettled, -⟩ := hcall
          have hslot : (ChaosDemo.exec s.now s.data (.setex (.order orderId) ttl v)).2 (.idem k) =
              s.data (.idem k) := exec_frame s.now s.data _ (by simp [Cmd.writes])
          refine ⟨?_, ?_, ?_⟩
          · intro v' hv' hs
            show ∃ deadline, (ChaosDemo.exec s.now s.data (.setex (.order orderId) ttl v)).2
              (.idem k) = _
            rw [hslot]
            exact hinv.held v' hv' hunsettled
          · intro v' _ hs
            have hs' : hasSettled h = true := hs
            rw [hunsettled] at hs'
            cases hs'
          · intro v' orderId' _ _ hs
            have hs' : hasSettled h = true := hs
            rw [hunsettled] at hs'
            cases hs'
      | _ => exact hframe rfl (hcall k)
  | compareAndDelete k' raw =>
      obtain ⟨hkey, hown⟩ := hcall
      obtain rfl := Option.some.inj hkey
      rcases hown with ⟨hnone, -⟩ | ⟨hres, -, hunsaved, hunsettled⟩
      · exact .of_unreserved (by rw [reservation_cad]; exact hnone)
      · obtain ⟨deadline, hslot⟩ := hinv.held raw hres hunsettled
        -- the text is removed, or it has run out
        have hgone : (ChaosDemo.exec s.now s.data (.compareAndDelete k raw)).2.lookup s.now
            (.idem k) = none := by
          rw [ChaosDemo.exec]
          split
          · show live s.now (s.data.erase (.idem k) (.idem k)) = none
            rw [Store.erase_self]
            rfl
          · next hne =>
              show s.data.lookup s.now (.idem k) = none
              rw [Store.lookup, hslot, live_some] at hne ⊢
              split
              · next halive => exact absurd (if_pos halive) hne
              · rfl
        refine ⟨?_, ?_, ?_⟩
        · intro v _ hs
          have hs' : (reservation h == some raw || hasSettled h) = false := hs
          rw [hres] at hs'
          simp at hs'
        · intro v _ _ w hw
          rw [hgone] at hw
          cases hw
        · intro v orderId _ hsaved _
          have hsaved' : savedOrder h = some orderId := hsaved
          rw [hunsaved] at hsaved'
          cases hsaved'
  | get key => exact hframe rfl (hcall k)
  | set key v => exact hframe rfl (hcall k)
  | delete ks => exact hframe rfl (hcall k)
  | zremrangebyscore w keys max => exact hframe rfl (hcall k)
  | zcard w keys => exact hframe rfl (hcall k)
  | circuitBreaker keys args => exact hframe rfl (hcall k)

end Record

/-! ### The run -/

/-- One request. -/
def orderAt (ctx : Ctx K) (startedAt : K) (command : CreateOrderCommand) (s : HostState K) :
    Config (HostSig K) Exc ServiceResult (HostState K) Unit :=
  ordersAt (fun _ => ctx) (fun _ => startedAt) (fun _ => command) s

section Run

variable {ctx : Ctx K} {startedAt : K} {command : CreateOrderCommand} {k : String} {cmd : Cmd K}
  {s₀ : HostState K} {c : Config (HostSig K) Exc ServiceResult (HostState K) Unit}
  (hreach : Reach (hostWorld K) (OneCommandFails cmd) (orderAt ctx startedAt command s₀) c)

theorem OneCommandFails.cases {s : HostState K} {l : HostLog K Unit} (h : OneCommandFails cmd s l)
    {e : HostEntry K Unit} (he : e ∈ l) : smooth e.event = true ∨ FailedAttempt cmd e ∨
      ∃ stage x, e.event = ⟨.beforeServiceOperation stage, .error x⟩ ∧ Injected x := by
  obtain ⟨newer, older, rfl⟩ := List.append_of_mem he
  exact (h newer e older rfl).imp_left And.left

theorem chaos_of_injected {e : Exc} (he : Injected e) : e.isChaos = true := by
  cases e <;> first | rfl | cases he

include hreach

theorem recordInv_of_reach (hk : command.key? = some k) :
    RecordInv k c.state (own () c.log) := by
  let Inv : HostState K → HostLog K Unit → Prop := fun s l => RecordInv k s (own () l)
  refine (hreach.invariant
    (hostWorld_serves_orders (OneCommandFails cmd) (fun _ => ctx) fun _ => command.key?) rfl
    (fun _ => orderRequest_obeys ctx startedAt command) ?_ ?_ ?_ : Inv c.state c.log)
  · exact fun _ => .of_unreserved rfl
  · intro s l t s' hinv _ _ hd
    obtain ⟨hle, rfl⟩ := drift_cases hd
    refine ⟨hinv.held, fun v hv hs w hw => hinv.settled v hv hs w (live_mono hle hw), hinv.success⟩
  · intro s l i o x r s' hinv _ hP hcall hs
    show RecordInv k s' (own () (⟨i, ⟨o, r⟩, s, s'⟩ :: l))
    rw [own_cons_self (⟨i, ⟨o, r⟩, s, s'⟩ : HostEntry K Unit) l]
    rw [hk] at hcall
    have hserved := served_of_serve hs
    -- a command that failed has done nothing
    have hfailed : ∀ c e, (⟨o, r⟩ : HostEvent K) = ⟨.redis c, .error e⟩ → s'.data = s.data := by
      intro c e heq
      rcases hP.cases List.mem_cons_self with hsmooth | hfail | ⟨stage, x, hev, -⟩
      · dsimp only at hsmooth
        rw [heq] at hsmooth
        cases hsmooth
      · exact hfail.2
      · dsimp only at hev
        rw [heq] at hev
        cases hev
    generalize hev : (⟨o, r⟩ : HostEvent K) = ev at hserved hfailed
    have hop : ev.op = o := by rw [← hev]
    have hnow : s.now ≤ s'.now := (serve_now hs).ge
    rw [← hop] at hcall
    cases hserved with
    | done c => exact hinv.exec hcall
    | dropped c e => exact hinv.framed (inert_error _ e) rfl hnow
    | lost c e => exact hinv.framed (inert_error _ e) (congrFun (hfailed c e rfl) _) hnow
    | uuid hex _ => exact hinv.framed rfl rfl hnow
    | quiet o' r' hredis _ =>
        exact hinv.framed (inert_of_breaker (fun c hc => absurd hc (hredis c)) r') rfl hnow

/-- What comes from a failed call of the request. -/
theorem blamed_of_own {ev : HostEvent K} (hmem : ev ∈ own () c.log) (hfailed : ev.failed = true) :
    (∃ e ∈ c.log, e.event = ev ∧ FailedAttempt cmd e) ∨
      ∃ stage x, ev = ⟨.beforeServiceOperation stage, .error x⟩ ∧ Injected x := by
  obtain ⟨e, he, -, rfl⟩ := mem_own.mp hmem
  rcases hreach.holds.cases he with hsmooth | hfail | hhook
  · rw [not_failed_of_log hreach rfl he hsmooth] at hfailed
    cases hfailed
  · exact .inl ⟨e, he, rfl, hfail⟩
  · exact .inr hhook

/-- An exception leaves an owner only from a failed command of the breaker. -/
theorem escaped_of_error {hs : ServiceHistory K} (hT : Tracks ctx command.key? hs (own () c.log))
    (howner : (standingOf command.key? hs).reserved.isSome = true) {e : Exc}
    (hend : Ending command.key? (.error e) hs) :
    e.isRedisError = true ∧ cmd.ofBreaker = true ∧ ∃ x ∈ c.log, FailedAttempt cmd x := by
  rcases hend with ⟨hstage, hforeign⟩ | ⟨hnone, -, -⟩
  · rcases hT.failures with ⟨e', hstage', hesc⟩ | ⟨hnot, -⟩
    · obtain rfl : e = e' := by
        rw [hstage] at hstage'
        exact Stage.escaped.inj hstage'
      rcases hesc with ⟨-, cmd', hcmd, hmem⟩ | ⟨stage, hmem⟩
      · rcases blamed_of_own hreach hmem rfl with ⟨x, hx, hev, hfail⟩ | ⟨stage, y, heq, -⟩
        · obtain ⟨⟨y, hy, hredis⟩, -⟩ := id hfail
          rw [hy] at hev
          cases hev
          exact ⟨hredis, hcmd, x, hx, hfail⟩
        · cases heq
      · exfalso
        rcases blamed_of_own hreach hmem rfl with ⟨x, hx, hev, ⟨y, hy, -⟩, -⟩ | ⟨stage', y, heq, hy⟩
        · rw [hy] at hev
          cases hev
        · cases heq
          rw [chaos_of_injected hy] at hforeign
          cases hforeign
    · exact absurd hstage (hnot e)
  · rw [hnone] at howner
    cases howner

/-- A request that got an answer was spared by the breaker. -/
theorem spared_of_recovered (hrec : Recovered (own () c.log)) : BreakerSpared cmd c.log := by
  intro hb e he hfail
  obtain ⟨newer, older, hsplit⟩ := List.append_of_mem he
  obtain ⟨x, hev, -⟩ := hfail.1
  have hown : own () c.log = own () newer ++ ⟨.redis cmd, .error x⟩ :: own () older := by
    rw [hsplit, own_append, own_cons_self e older, hev]
  -- the command was made again with success, which it was not
  obtain ⟨v, hmem⟩ := hrec _ cmd x _ hown hb
  obtain ⟨y, hy, -, hyev⟩ := mem_own.mp hmem
  obtain ⟨a, b, rfl⟩ := List.append_of_mem hy
  have hsplit_y : c.log = a ++ y :: (b ++ e :: older) := by simpa using hsplit
  rcases hreach.holds a y _ hsplit_y with ⟨-, hnever⟩ | ⟨⟨z, hz, -⟩, -⟩ | ⟨stage, z, hz, -⟩
  · exact hnever (by rw [hyev]) e (by simp) hfail
  · rw [hyev] at hz
    cases hz
  · rw [hyev] at hz
    cases hz

end Run

/-! ### Retries -/

section Retries

variable {κ : Type} [DecidableEq κ]

/-- What a call is that changes what a request has done. -/
theorem inert_cases {ev : HostEvent K} (hin : inert ev ≠ true) :
    (∃ k v ttl, ev = setNxEvent k v ttl (.ok true)) ∨
    (∃ k ttl v u, ev = setexEvent k ttl v (.ok u)) ∨
    (∃ orderId ttl doc u, ev = ⟨.redis (.setex (.order orderId) ttl doc), .ok u⟩) ∨
    ∃ k raw b, ev = cadEvent k raw (.ok b) := by
  unfold inert at hin
  split at hin
  · exact .inl ⟨_, _, _, rfl⟩
  · exact .inr (.inl ⟨_, _, _, _, rfl⟩)
  · exact .inr (.inr (.inl ⟨_, _, _, _, rfl⟩))
  · exact .inr (.inr (.inr ⟨_, _, _, rfl⟩))
  · exact absurd rfl hin

/-- The record under the key is the first request's, and no retry has got anywhere. -/
structure Barred (k : String) (slot : Option (Timed Raw K)) (s : HostState K) (l : HostLog K κ) :
    Prop where
  slot : s.data (.idem k) = slot
  unreserved : ∀ i, reservation (own i l) = none
  unsaved : ∀ i, savedOrder (own i l) = none
  unfailed : ∀ e ∈ l, e.event.failed = false

namespace Barred

variable {k : String} {slot : Option (Timed Raw K)} {s s' : HostState K} {l : HostLog K κ}

/-- Without a reservation, and with no failure to excuse it, a retry may not place an order. -/
theorem not_entitled (hB : Barred k slot s l) (i : κ) : ¬ Entitled (some k) (own i l) := by
  rintro (hnone | hres | ⟨ev, hmem, hfailed⟩)
  · cases hnone
  · rw [hB.unreserved i] at hres
    cases hres
  · obtain ⟨e, he, -, rfl⟩ := mem_own.mp hmem
    rw [hB.unfailed e he] at hfailed
    cases hfailed

/-- A call that leaves the record alone and gets no reservation and no order. -/
theorem call (hB : Barred k slot s l) {i : κ} {ev : HostEvent K}
    (hslot : s'.data (.idem k) = s.data (.idem k))
    (hres : reservation (ev :: own i l) = reservation (own i l))
    (hsaved : savedOrder (ev :: own i l) = savedOrder (own i l)) (hok : ev.failed = false) :
    Barred k slot s' (⟨i, ev, s, s'⟩ :: l) := by
  have hown : ∀ j, own j ((⟨i, ev, s, s'⟩ : HostEntry K κ) :: l) =
      if i = j then ev :: own j l else own j l := by
    intro j
    by_cases hij : i = j
    · subst hij
      rw [if_pos rfl]
      exact own_cons_self (⟨i, ev, s, s'⟩ : HostEntry K κ) l
    · rw [if_neg hij]
      exact own_cons_of_ne hij l
  refine ⟨hslot.trans hB.slot, ?_, ?_, ?_⟩
  · intro j
    rw [hown j]
    split
    · next hij =>
        subst hij
        exact hres.trans (hB.unreserved i)
    · exact hB.unreserved j
  · intro j
    rw [hown j]
    split
    · next hij =>
        subst hij
        exact hsaved.trans (hB.unsaved i)
    · exact hB.unsaved j
  · exact List.forall_mem_cons.mpr ⟨hok, hB.unfailed⟩

end Barred

/-- **Retries.**  As long as the SUCCESS record lives, a request with its key places no order. -/
theorem savedOrder_of_success {k : String} {w : Raw} {deadline : Option K}
    {ctx : κ → Ctx K} {startedAt : κ → K} {command : κ → CreateOrderCommand} {s : HostState K}
    {c : Config (HostSig K) Exc ServiceResult (HostState K) κ}
    (hkey : ∀ i, (command i).key? = some k) (hslot : s.data (.idem k) = some ⟨w, deadline⟩)
    (hsuccess : w.state = idemStateSuccess)
    (hreach : Reach (hostWorld K) (RecordLives deadline) (ordersAt ctx startedAt command s) c)
    (i : κ) : savedOrder (own i c.log) = none := by
  let Inv : HostState K → HostLog K κ → Prop := Barred k (some ⟨w, deadline⟩)
  suffices hB : Inv c.state c.log from hB.unsaved i
  refine (hreach.invariant
    (hostWorld_serves_orders (RecordLives deadline) ctx fun i => (command i).key?) rfl
    (fun i => orderRequest_obeys (ctx i) (startedAt i) (command i)) ?_ ?_ ?_ : Inv c.state c.log)
  · exact fun _ => ⟨hslot, fun _ => rfl, fun _ => rfl, List.forall_mem_nil _⟩
  · intro s l t s' hB _ _ hd
    obtain ⟨-, rfl⟩ := drift_cases hd
    exact ⟨hB.slot, hB.unreserved, hB.unsaved, hB.unfailed⟩
  · intro s l i o x r s' hB hP hP' hcall hs
    rw [hkey i] at hcall
    have hlive : s.data.lookup s.now (.idem k) = some w := by
      rw [Store.lookup, hB.slot, live_some, if_pos]
      cases deadline with
      | none => rfl
      | some d => exact alive_some.mpr (hP.2 d rfl)
    have hok : (⟨o, r⟩ : HostEvent K).failed = false :=
      not_failed_of_smooth (hostReply_of_serve hs) (hP'.1 _ List.mem_cons_self)
    have hstep := (served_of_serve hs).recordStep (storeClient_of_orderClient hcall)
    generalize hev : (⟨o, r⟩ : HostEvent K) = ev at hstep hok ⊢
    have hop : ev.op = o := by rw [← hev]
    rw [← hop] at hcall
    cases hstep with
    | reserved k' fp v r' _ hnone _ =>
        -- the key is taken
        obtain rfl := Option.some.inj hcall.1
        rw [hlive] at hnone
        cases hnone
    | finished k' ttl v r' _ => exact absurd hcall.2.2.2.1 (hB.not_entitled i)
    | removed k' v r' hmay hlookup _ =>
        -- a SUCCESS record is none that is removed
        obtain rfl := Option.some.inj hcall.1
        rw [hlive] at hlookup
        obtain rfl := Option.some.inj hlookup
        exfalso
        rcases hmay with (⟨_, _, _, _, -, -, hstate, -⟩ | ⟨-, hstate⟩) | ⟨-, hstate⟩ <;>
          rw [hsuccess] at hstate <;> revert hstate <;> decide
    | kept _ _ hdata heff =>
        by_cases hin : inert ev = true
        · exact hB.call (hdata k) (reservation_inert hin) (savedOrder_inert hin) hok
        · rcases inert_cases hin with ⟨_, _, _, rfl⟩ | ⟨_, _, _, _, rfl⟩ | ⟨_, _, _, _, rfl⟩ |
            ⟨k', raw, b, rfl⟩
          · cases heff
          · cases heff
          · exact absurd hcall.2.2 (hB.not_entitled i)
          · exact hB.call (hdata k) (reservation_cad _ k' raw _) rfl hok

end Retries

/-! ### The faults that were injected -/

section Hooks

variable {ctx : Ctx K} {key : Option String} {hs : ServiceHistory K} {ht : HostHistory K}

/-- The faults that `create_order` has seen were injected on the host. -/
def HooksSeen (hs : ServiceHistory K) (ht : HostHistory K) : Prop :=
  ∀ stage e, (⟨.beforeServiceOperation stage, .error e⟩ : ServiceEvent K) ∈ hs →
    (⟨.beforeServiceOperation stage, .error e⟩ : HostEvent K) ∈ ht

theorem serviceCall_seen (o : ServiceOp K) (hT : Tracks ctx key hs ht) (hseen : HooksSeen hs ht)
    (hcall : (orderProtocol key).mayCall hs o) :
    Obeys (orderClient ctx key) (serviceCall ctx o) (fun r ht' =>
      (orderProtocol key).mayReply hs o r ∧ Tracks ctx key (⟨o, r⟩ :: hs) ht' ∧
        HooksSeen (⟨o, r⟩ :: hs) ht') ht := by
  have hgrown : Obeys (orderClient ctx key) (serviceCall ctx o) (fun r ht' =>
      ((orderProtocol key).mayReply hs o r ∧ Tracks ctx key (⟨o, r⟩ :: hs) ht') ∧ ht ⊆ ht') ht :=
    (serviceCall_obeys o hT hcall).frame (fun _ hmem => hmem) fun h o' hI hmay =>
      ⟨hmay, fun r hr => ⟨hr, fun _ hmem => List.mem_cons_of_mem _ (hI hmem)⟩⟩
  have hother : (∀ stage, o ≠ .beforeServiceOperation stage) →
      Obeys (orderClient ctx key) (serviceCall ctx o) (fun r ht' =>
        (orderProtocol key).mayReply hs o r ∧ Tracks ctx key (⟨o, r⟩ :: hs) ht' ∧
          HooksSeen (⟨o, r⟩ :: hs) ht') ht := by
    intro hne
    apply hgrown.mono
    rintro r ht' ⟨⟨hreply, hT'⟩, hsub⟩
    refine ⟨hreply, hT', fun stage e hmem => ?_⟩
    rcases List.mem_cons.mp hmem with heq | hold
    · cases heq
      exact absurd rfl (hne stage)
    · exact hsub (hseen stage e hold)
  cases o with
  | beforeServiceOperation stage =>
      refine .perform trivial fun r _ => ⟨trivial, hook_tracks hT stage r, ?_⟩
      intro stage' e hmem
      rcases List.mem_cons.mp hmem with heq | hold
      · cases heq
        exact List.mem_cons_self
      · exact List.mem_cons_of_mem _ (hseen stage' e hold)
  | _ => exact hother (fun _ => nofun)

theorem orderRequest_seen (ctx : Ctx K) (startedAt : K) (command : CreateOrderCommand) :
    Obeys (orderClient ctx command.key?) (orderRequest ctx startedAt command)
      (fun res ht => ∃ hs, (Tracks ctx command.key? hs ht ∧ HooksSeen hs ht) ∧
        Ending command.key? res hs) [] :=
  Obeys.interp (R := fun hs ht => Tracks ctx command.key? hs ht ∧ HooksSeen hs ht)
    (fun o _ _ hT hcall => serviceCall_seen o hT.1 hT.2 hcall)
    (createOrder_obeys ctx startedAt command) ⟨.start ctx command.key?, nofun⟩

end Hooks

/-! ### All or nothing -/

section Run

variable {ctx : Ctx K} {startedAt : K} {command : CreateOrderCommand} {k : String} {cmd : Cmd K}
  {s₀ : HostState K} {c : Config (HostSig K) Exc ServiceResult (HostState K) Unit}
  (hreach : Reach (hostWorld K) (OneCommandFails cmd) (orderAt ctx startedAt command s₀) c)

include hreach

/-- An injected fault is not answered with 201. -/
theorem status_of_faulted {f : ChaosFault} {hs : ServiceHistory K}
    (hseen : HooksSeen hs (own () c.log)) (hf : Faulted f hs) : f.statusCode ≠ 201 := by
  obtain ⟨stage, e, hmem, he⟩ := hf
  rcases blamed_of_own hreach (hseen stage e hmem) rfl with ⟨x, -, hev, ⟨y, hy, -⟩, -⟩ |
    ⟨stage', y, heq, hinj⟩
  · rw [hy] at hev
    cases hev
  · cases heq
    rcases he with rfl | rfl
    · have hstatus : f.statusCode = 503 := hinj
      rw [hstatus]
      decide
    · have hstatus : f.statusCode = 500 := hinj
      rw [hstatus]
      decide

/-- A request that is over has settled with the store, when no write of its record fails. -/
theorem hasSettled_of_over {hs : ServiceHistory K} (hT : Tracks ctx command.key? hs (own () c.log))
    (hwrites : cmd.writesRecord = false) (hover : (standingOf command.key? hs).stage = .over)
    (howner : (standingOf command.key? hs).reserved.isSome = true) :
    hasSettled (own () c.log) = true := by
  rcases hT.settled hover howner with hsettled | ⟨ev, hmem, hfailed, hop⟩
  · exact hsettled
  · exfalso
    rcases blamed_of_own hreach hmem hfailed with ⟨x, -, hev, ⟨y, hy, -⟩, -⟩ | ⟨stage, y, heq, -⟩
    · -- the command that failed is none that writes a record
      have hcmd : ev.op = .redis cmd := by rw [← hev, hy]
      rcases hop with ⟨k', ttl, v, hset⟩ | ⟨k', raw, hcad⟩ | ⟨operation, hhook⟩
      · obtain rfl := HostOp.redis.inj (hcmd.symm.trans hset)
        cases hwrites
      · obtain rfl := HostOp.redis.inj (hcmd.symm.trans hcad)
        cases hwrites
      · cases hcmd.symm.trans hhook
    · rw [heq] at hop
      rcases hop with ⟨_, _, _, h⟩ | ⟨_, _, h⟩ | ⟨_, h⟩ <;> cases h

/-- **All or nothing**, exactly when the command that fails is not one of the breaker. -/
theorem allOrNothing_iff (hk : command.key? = some k) {res : Except Exc ServiceResult}
    (hdone : c.thread () = .ofExcept res) (howner : (reservation (own () c.log)).isSome = true) :
    AllOrNothing k cmd c res ↔ BreakerSpared cmd c.log := by
  obtain ⟨hs, ⟨hT, hseen⟩, hend⟩ : ∃ hs, (Tracks ctx command.key? hs (own () c.log) ∧
      HooksSeen hs (own () c.log)) ∧ Ending command.key? res hs :=
    hreach.post (hostWorld_serves_orders (OneCommandFails cmd) (fun _ => ctx) fun _ => command.key?)
      rfl (fun _ => orderRequest_seen ctx startedAt command) hdone
  obtain ⟨v, hv⟩ := Option.isSome_iff_exists.mp howner
  have hreserved : (standingOf command.key? hs).reserved.isSome = true := by
    rw [hT.reserved] at hv
    cases h : (standingOf command.key? hs).reserved with
    | none =>
        rw [h] at hv
        cases hv
    | some r => rfl
  have hinv := recordInv_of_reach hreach hk
  constructor
  · intro hall
    rcases hT.failures with ⟨e, hstage, -⟩ | ⟨-, hrec⟩
    · -- what escaped is the RedisError of the command
      cases res with
      | ok result =>
          rw [hend.2 hreserved] at hstage
          cases hstage
      | error e' =>
          have hredis := (escaped_of_error hreach hT hreserved hend).1
          rw [hall.contained e' rfl] at hredis
          cases hredis
    · exact spared_of_recovered hreach hrec
  · intro hspared
    cases res with
    | error e =>
        obtain ⟨-, hbreaker, x, hx, hfail⟩ := escaped_of_error hreach hT hreserved hend
        exact absurd hfail (hspared hbreaker x hx)
    | ok result =>
        obtain ⟨hanswer, hover⟩ := hend
        have hsettled : cmd.writesRecord = false → hasSettled (own () c.log) = true :=
          fun hwrites => hasSettled_of_over hreach hT hwrites (hover hreserved) hreserved
        refine ⟨?_, nofun, ?_, ?_⟩
        · rw [hT.saved]
          cases hanswer with
          | created orderId hsaved =>
              rw [hsaved]
              exact iff_of_true rfl ⟨_, rfl⟩
          | replayed r status body _ hnone =>
              rw [hnone] at hreserved
              cases hreserved
          | faulted f hsaved hfaulted =>
              rw [hsaved]
              refine iff_of_false nofun ?_
              rintro ⟨body, hbody⟩
              apply status_of_faulted hreach hseen hfaulted
              exact congrArg ServiceResult.statusCode (Except.ok.inj hbody)
          | turnedDown status body hsaved hstatus =>
              rw [hsaved]
              refine iff_of_false nofun ?_
              rintro ⟨body', hbody⟩
              have h201 : status = 201 := congrArg ServiceResult.statusCode (Except.ok.inj hbody)
              rw [h201] at hstatus
              revert hstatus
              decide
        · intro hwrites w hw
          exact hinv.settled v hv (hsettled hwrites) w hw
        · intro hwrites hsaved
          obtain ⟨orderId, horder⟩ := Option.isSome_iff_exists.mp hsaved
          obtain ⟨n, fp, deadline, hslot⟩ := hinv.success v orderId hv horder (hsettled hwrites)
          refine ⟨_, deadline, hslot, ?_⟩
          intro κ _ ctx' startedAt' command' s c' hkey hdata hretries i
          exact savedOrder_of_success hkey ((congrFun hdata _).trans hslot)
            (successRaw_state ..) hretries i

end Run

/-! ### The breaker fails after the order -/

theorem FailedAttempt.not_smooth {cmd : Cmd K} {e : HostEntry K Unit} (h : FailedAttempt cmd e) :
    smooth e.event = false := by
  obtain ⟨⟨x, hev, -⟩, -⟩ := h
  rw [hev]
  rfl

/-- As long as nothing has failed, no command is known to fail. -/
theorem oneCommandFails_of_smooth {cmd : Cmd K} {s : HostState K} {l : HostLog K Unit}
    (hl : ∀ e ∈ l, smooth e.event = true) : OneCommandFails cmd s l := by
  intro newer e older hsplit
  refine .inl ⟨hl e (by rw [hsplit]; simp), fun _ x hx hfail => ?_⟩
  have hsmooth := hl x (by rw [hsplit]; simp [hx])
  rw [hfail.not_smooth] at hsmooth
  cases hsmooth

/-- One request with the key `k`, on an empty store. -/
def firstOrder : Config (HostSig ℚ) Exc ServiceResult (HostState ℚ) Unit :=
  orderAt defaultCtx 0 ⟨some "a", 1, some "k"⟩ ⟨fun _ => none, 0, []⟩

/-- The request has saved its order and is about to record the success in the breaker. -/
def savedRun : Option (Config (HostSig ℚ) Exc ServiceResult (HostState ℚ) Unit) :=
  firstOrder.run (hostWorld ℚ)
    [.call () (.reading 0), .call () .done, .call () .done, .call () (.reading 0),
      .call () (.fresh "a"), .call () .done, .call () .done, .call () (.reading (1 / 100)),
      .call () (.reading 0), .call () .done, .call () .done, .call () (.reading 1),
      .call () (.fresh "b"), .call () .done, .call () .done, .call () (.reading 0),
      .call () (.fresh "c")]

theorem savedRun_isSome : savedRun.isSome = true := by decide +kernel

/-- Where that run has come to. -/
def savedOrderAt : Config (HostSig ℚ) Exc ServiceResult (HostState ℚ) Unit :=
  savedRun.get savedRun_isSome

theorem savedOrderAt_reach (cmd : Cmd ℚ) :
    Reach (hostWorld ℚ) (OneCommandFails cmd) firstOrder savedOrderAt := by
  have hsmooth : (savedOrderAt.log.all fun e => smooth e.event) = true := by decide +kernel
  have hreach : Reach (hostWorld ℚ) (fun _ l => ∀ e ∈ l, smooth e.event = true) firstOrder
      savedOrderAt := by
    refine Reach.of_run ?_ (.start ?_) (Option.some_get savedRun_isSome).symm
      (List.all_eq_true.mp hsmooth)
    · exact fun new l h e he => h e (List.mem_append_right new he)
    · exact fun e he => absurd he List.not_mem_nil
  exact hreach.mono fun s l hl => oneCommandFails_of_smooth hl

/-- The command that a request waits for. -/
def awaited : Prog (HostSig ℚ) Exc ServiceResult → Cmd ℚ
  | .call (.redis c) _ => c
  | _ => .get (.idem "")

/-- Whether that is one of the breaker, and a RedisError of it ends the request. -/
def breaksOff : Prog (HostSig ℚ) Exc ServiceResult → Bool
  | .call (.redis c) k => c.ofBreaker && match k (.error .redisOther) with
      | .raise .redisOther => true
      | _ => false
  | _ => false

/-- The script of the breaker that does not reach the server. -/
def lostScript : Cmd ℚ := awaited (savedOrderAt.thread ())

/-- The run, with the script lost. -/
def lostScriptAt : Config (HostSig ℚ) Exc ServiceResult (HostState ℚ) Unit where
  state := savedOrderAt.state
  thread := fun _ => .raise .redisOther
  log := ⟨(), ⟨.redis lostScript, .error .redisOther⟩, savedOrderAt.state, savedOrderAt.state⟩ ::
    savedOrderAt.log

theorem lostScript_ofBreaker : lostScript.ofBreaker = true := by decide +kernel

theorem lostScriptAt_next :
    savedOrderAt.next (hostWorld ℚ) (.call () (.dropped .redisOther)) = some lostScriptAt := by
  have hbreaks : breaksOff (savedOrderAt.thread ()) = true := by decide +kernel
  have hscript : lostScript = awaited (savedOrderAt.thread ()) := rfl
  unfold breaksOff at hbreaks
  split at hbreaks
  · next c k hthread =>
      rw [hthread] at hscript
      obtain ⟨-, hends⟩ := (Bool.and_eq_true _ _).mp hbreaks
      split at hends
      · next hraise =>
          have hlost : lostScript = c := hscript
          have hends : Function.update savedOrderAt.thread () (k (.error .redisOther)) =
              fun _ => .raise .redisOther := by
            funext u
            rw [Function.update_self, hraise]
          simp only [Config.next, hthread]
          show some (Config.mk savedOrderAt.state
            (Function.update savedOrderAt.thread () (k (.error .redisOther))) _) = some lostScriptAt
          rw [hends, lostScriptAt, hlost]
      · cases hends
  · cases hbreaks

theorem lostScriptAt_failed : FailedAttempt lostScript
    ⟨(), ⟨.redis lostScript, .error .redisOther⟩, savedOrderAt.state, savedOrderAt.state⟩ :=
  ⟨⟨_, rfl, rfl⟩, rfl⟩

theorem lostScriptAt_reach :
    Reach (hostWorld ℚ) (OneCommandFails lostScript) firstOrder lostScriptAt := by
  refine (savedOrderAt_reach lostScript).step _ lostScriptAt_next ?_
  have hbefore := (savedOrderAt_reach lostScript).holds
  intro newer e older hsplit
  rcases newer with - | ⟨e', newer⟩
  · obtain ⟨rfl, -⟩ := List.cons.inj hsplit
    exact .inr (.inl lostScriptAt_failed)
  · exact hbefore newer e older (List.cons.inj hsplit).2

theorem own_lostScriptAt : own () lostScriptAt.log =
    ⟨.redis lostScript, .error .redisOther⟩ :: own () savedOrderAt.log :=
  own_cons_self _ _

theorem lostScriptAt_owner : (reservation (own () lostScriptAt.log)).isSome = true := by
  have hsaved : (reservation (own () savedOrderAt.log)).isSome = true := by decide +kernel
  rwa [own_lostScriptAt, reservation_inert (inert_error _ _)]

/-- The order is there, and the caller is told of a RedisError. -/
theorem lostScriptAt_saved : (savedOrder (own () lostScriptAt.log)).isSome = true := by
  have hsaved : (savedOrder (own () savedOrderAt.log)).isSome = true := by decide +kernel
  rwa [own_lostScriptAt, savedOrder_inert (inert_error _ _)]

/-- A RedisError of the breaker after the order was saved. -/
theorem not_allOrNothing_lostScript :
    ¬ ∀ (cmd : Cmd ℚ) (c : Config (HostSig ℚ) Exc ServiceResult (HostState ℚ) Unit)
      (res : Except Exc ServiceResult), Reach (hostWorld ℚ) (OneCommandFails cmd) firstOrder c →
        c.thread () = .ofExcept res → (reservation (own () c.log)).isSome = true →
        AllOrNothing "k" cmd c res := by
  intro hall
  have hnothing := hall lostScript lostScriptAt (.error .redisOther) lostScriptAt_reach rfl
    lostScriptAt_owner
  obtain ⟨body, hbody⟩ := hnothing.saved.mp lostScriptAt_saved
  cases hbody

theorem allOrNothing_iff_lostScript :
    AllOrNothing "k" lostScript lostScriptAt (.error .redisOther) ↔
      BreakerSpared lostScript lostScriptAt.log :=
  allOrNothing_iff lostScriptAt_reach rfl rfl lostScriptAt_owner

end ChaosDemo
