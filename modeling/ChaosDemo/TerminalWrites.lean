/-
ChaosDemo/TerminalWrites.lean

Who overwrites a record with a terminal one.  `finalize_idempotency_success` and
`save_failed` are a plain SETEX, so nothing on the server keeps a request from
writing over the record of another.  `save_failed` is guarded by the caller
(`idem_reserved`), `finalize_success` is not.

A terminal write is over the writer's own reservation (`OverOwn`) when the writer
has reserved the key and its reservation has neither expired nor been removed
(`StillOwner`).  No more is needed: that no other request has put a terminal
record there follows, since the others are bound by the same condition and a
text has one client who can store it.
-/
import ChaosDemo.OrderClient

set_option linter.unusedSectionVars false

namespace ChaosDemo

open CallTree Keyspace

variable {K : Type} [Field K] [LinearOrder K] [IsStrictOrderedRing K] [FloorRing K]
variable {ι : Type} [DecidableEq ι]

/-- Requests at the start. -/
def ordersAt (ctx : ι → Ctx K) (startedAt : ι → K) (command : ι → CreateOrderCommand)
    (s : HostState K) : Config (HostSig K) Exc ServiceResult (HostState K) ι :=
  ⟨s, fun i => orderRequest (ctx i) (startedAt i) (command i), []⟩

theorem hostWorld_serves_orders (P : HostState K → HostLog K ι → Prop) (ctx : ι → Ctx K)
    (key : ι → Option String) :
    Serves (hostWorld K) P fun i => orderClient (ctx i) (key i) :=
  fun _ _ _ _ _ _ _ hs _ => hostReply_of_serve hs

/-- `f` is the value under a key: the world leaves it alone. -/
theorem steady_slot (k : Key) : Steady (hostWorld K) fun s => s.data k :=
  fun s d s' hd => congrFun (steady_data s d s' hd) k

/-! ### Terminal writes -/

/-- A terminal write under `k` that reached the server. -/
def Writes (e : HostEntry K ι) (k : String) : Prop :=
  ∃ ttl v r, e.event = setexEvent k ttl v r ∧
    (r = .ok () ∨ e.after.data (.idem k) ≠ e.before.data (.idem k))

/-- With the call `g` its caller stored the reservation `v` for `ttl` seconds,
whether or not the reply came back. -/
def Stores (g : HostEntry K ι) (k : String) (v : Raw) (ttl : ℤ) : Prop :=
  (∃ r, g.event = setNxEvent k v ttl r) ∧
    g.before.data.lookup g.before.now (.idem k) = none ∧
    g.after.data (.idem k) = some ⟨v, some (g.before.now + ttl)⟩

/-- The value under `k` right before the write `e` is the PROCESSING record that
its caller reserved. -/
def OverOwn (k : String) (e : HostEntry K ι) (old : HostLog K ι) : Prop :=
  ∃ v, e.before.data.lookup e.before.now (.idem k) = some v ∧ v.state = idemStateProcessing ∧
    ∃ g ∈ old, g.who = e.who ∧ ∃ ttl, Stores g k v ttl

/-- The caller of `e` stored a reservation with the call `g`, its Redis deadline
has not passed, nobody has removed it since, and the caller itself has not
written over it. -/
def StillOwner (k : String) (e : HostEntry K ι) (old : HostLog K ι) : Prop :=
  ∃ since g older v ttl, old = since ++ g :: older ∧ g.who = e.who ∧ Stores g k v ttl ∧
    e.before.now < g.before.now + ttl ∧
    (∀ x ∈ since, ∀ r, x.event = cadEvent k v r →
      x.after.data (.idem k) = x.before.data (.idem k)) ∧
    ∀ x ∈ since, x.who = e.who → ¬ Writes x k

/-- Every terminal write under `k` in the log, with what came before it. -/
def EveryWrite (k : String) (P : HostEntry K ι → HostLog K ι → Prop) (l : HostLog K ι) : Prop :=
  ∀ newer e old, l = newer ++ e :: old → Writes e k → P e old

/-! ### What changes a record -/

section Run

variable {ctx : ι → Ctx K} {startedAt : ι → K} {command : ι → CreateOrderCommand}
  {s₀ : HostState K} {c : Config (HostSig K) Exc ServiceResult (HostState K) ι}
  {P : HostState K → HostLog K ι → Prop}
  (hreach : Reach (hostWorld K) P (ordersAt ctx startedAt command s₀) c)

include hreach

theorem orders_recordStep {newer old : HostLog K ι} {e : HostEntry K ι}
    (hsplit : c.log = newer ++ e :: old) :
    RecordStep (ctx e.who) (own e.who old) e.before e.event e.after :=
  recordStep_of_log hreach rfl
    (hostWorld_serves_orders P ctx fun i => (command i).key?)
    (fun i => orderRequest_obeys (ctx i) (startedAt i) (command i))
    (fun _ _ _ hcall => storeClient_of_orderClient hcall) hsplit

theorem order_allowed {newer old : HostLog K ι} {e : HostEntry K ι}
    (hsplit : c.log = newer ++ e :: old) :
    (orderClient (ctx e.who) (command e.who).key?).mayCall (own e.who old) e.event.op :=
  hreach.allowed (hostWorld_serves_orders P ctx fun i => (command i).key?) rfl
    (fun i => orderRequest_obeys (ctx i) (startedAt i) (command i)) newer e old hsplit

/-- What is known of a request that has ended. -/
theorem order_post {i : ι} {res : Except Exc ServiceResult} (ht : c.thread i = .ofExcept res) :
    ∃ hs, Tracks (ctx i) (command i).key? hs (own i c.log) ∧ Ending (command i).key? res hs :=
  hreach.post (hostWorld_serves_orders P ctx fun i => (command i).key?) rfl
    (fun i => orderRequest_obeys (ctx i) (startedAt i) (command i)) ht

/-- What a read found is what was stored. -/
theorem lookup_of_read {newer old : HostLog K ι} {e : HostEntry K ι} {k : String}
    {found : Option Raw} (hsplit : c.log = newer ++ e :: old) (hev : e.event = getEvent k found) :
    e.before.data.lookup e.before.now (.idem k) = found := by
  have hsmooth : smooth e.event = true := by
    rw [hev]
    rfl
  exact (Except.ok.inj (exec_of_log hreach rfl hsplit hev hsmooth).1).symm

/-- A terminal write leaves a terminal record. -/
theorem slot_of_writes {k : String} {newer old : HostLog K ι} {e : HostEntry K ι}
    (hsplit : c.log = newer ++ e :: old) (hw : Writes e k) :
    ∃ (ttl : ℤ) (v : Raw), e.after.data (.idem k) = some ⟨v, some (e.before.now + ttl)⟩ ∧
      (v.state = idemStateSuccess ∨ v.state = idemStateFailed) := by
  have hstep := orders_recordStep hreach hsplit
  obtain ⟨ttl, v, r, hev, hr⟩ := hw
  rw [hev] at hstep
  generalize hev' : setexEvent k ttl v r = ev at hstep
  generalize hs' : e.after = s' at hstep hr ⊢
  cases hstep with
  | reserved => cases hev'
  | finished k' ttl' v' r' hterm =>
      cases hev'
      exact ⟨ttl, v, Store.put_self, hterm⟩
  | removed => cases hev'
  | kept _ _ hdata heff =>
      rcases hr with rfl | hchange
      · rw [← hev'] at heff
        cases heff
      · exact absurd (hdata k) hchange

/-- The three calls that can change the value under an idempotency key. -/
theorem change_cases {k : String} {newer old : HostLog K ι} {e : HostEntry K ι}
    (hsplit : c.log = newer ++ e :: old)
    (hchange : e.after.data (.idem k) ≠ e.before.data (.idem k)) :
    (∃ fp v, Stores e k v (ctx e.who).idemPendingTtlSec ∧
        Building (ctx e.who) k fp v (own e.who old)) ∨
      Writes e k ∨
      ∃ v r, e.event = cadEvent k v r ∧
        e.before.data.lookup e.before.now (.idem k) = some v ∧ e.after.data (.idem k) = none := by
  have hstep := orders_recordStep hreach hsplit
  rcases e with ⟨i, ev, s, s'⟩
  dsimp only at hstep hchange ⊢
  have hkey : ∀ {k' : String} {d : Data K}, (k ≠ k' → d (.idem k) = s.data (.idem k)) →
      s'.data = d → k = k' := by
    intro k' d hframe hd
    by_contra hk
    exact hchange (hd ▸ hframe hk)
  cases hstep with
  | reserved k' fp v r hbuild hlookup hr =>
      obtain rfl := hkey (fun hk => Store.put_of_ne (by simpa using hk)) rfl
      exact .inl ⟨fp, v, ⟨⟨r, rfl⟩, hlookup, Store.put_self⟩, hbuild⟩
  | finished k' ttl v r hterm =>
      obtain rfl := hkey (fun hk => Store.put_of_ne (by simpa using hk)) rfl
      exact .inr (.inl ⟨ttl, v, r, rfl, .inr hchange⟩)
  | removed k' v r hmay hlookup hr =>
      obtain rfl := hkey (fun hk => Store.erase_of_ne (by simpa using hk)) rfl
      exact .inr (.inr ⟨v, r, rfl, hlookup, Store.erase_self⟩)
  | kept _ _ hdata heff => exact absurd (hdata k) hchange

/-- A stored reservation is one that its caller built. -/
theorem building_of_stores {k : String} {v : Raw} {ttl : ℤ} {newer old : HostLog K ι}
    {g : HostEntry K ι} (hsplit : c.log = newer ++ g :: old) (hg : Stores g k v ttl) :
    ∃ fp, Building (ctx g.who) k fp v (own g.who old) := by
  obtain ⟨⟨r, hev⟩, -, -⟩ := hg
  have hcall := order_allowed hreach hsplit
  rw [hev] at hcall
  exact hcall.2.2.2.2.2

/-- Two requests do not store the same text. -/
theorem stores_who {k : String} {v : Raw} {ttl ttl' : ℤ} {g g' : HostEntry K ι}
    (hg : g ∈ c.log) (hg' : g' ∈ c.log) (hv : Stores g k v ttl) (hv' : Stores g' k v ttl') :
    g.who = g'.who := by
  obtain ⟨newer, older, hsplit⟩ := List.append_of_mem hg
  obtain ⟨newer', older', hsplit'⟩ := List.append_of_mem hg'
  obtain ⟨fp, hb⟩ := building_of_stores hreach hsplit hv
  obtain ⟨fp', hb'⟩ := building_of_stores hreach hsplit' hv'
  -- both texts carry a token, and the token was handed out once
  obtain ⟨n, hex, rfl, hmem⟩ := hb.eq
  obtain ⟨n', hex', heq, hmem'⟩ := hb'.eq
  obtain rfl := processingRaw_inj heq
  obtain ⟨u, hu, hwho, hev⟩ := mem_own.mp hmem
  obtain ⟨u', hu', hwho', hev'⟩ := mem_own.mp hmem'
  rw [← hwho, ← hwho']
  refine (uuidInv_of_reach hreach rfl).who u ?_ u' ?_ hex hev hev'
  · rw [hsplit]
    exact List.mem_append_right _ (List.mem_cons_of_mem _ hu)
  · rw [hsplit']
    exact List.mem_append_right _ (List.mem_cons_of_mem _ hu')

/-- Time does not go back. -/
theorem now_le {newer old : HostLog K ι} {e x : HostEntry K ι}
    (hsplit : c.log = newer ++ e :: old) (hx : x ∈ old) : x.before.now ≤ e.before.now := by
  have htraced := hreach.traced rfl
  rw [hsplit] at htraced
  exact htraced.before.1.before_le rising_now hx

/-! ### The two directions -/

/-- **An owner writes over its own record**, as long as every other writer is
still an owner as well. -/
theorem overOwn_of_stillOwner {k : String} (hall : EveryWrite k (StillOwner k) c.log) :
    EveryWrite k (OverOwn k) c.log := by
  intro newer e old hsplit hw
  -- induction on the calls before the write
  induction hn : old.length using Nat.strong_induction_on generalizing newer e old with
  | _ n ih =>
    obtain ⟨since, g, older, v, ttl, rfl, hwho, hg, hlive, hremoved, hself⟩ :=
      hall newer e old hsplit hw
    have hsplit_g : c.log = (newer ++ e :: since) ++ g :: older := by simpa using hsplit
    obtain ⟨fp, hbuild⟩ := building_of_stores hreach hsplit_g hg
    suffices hslot : e.before.data (.idem k) = g.after.data (.idem k) by
      refine ⟨v, ?_, hbuild.state, g, by simp, hwho, ttl, hg⟩
      rw [Store.lookup, hslot, hg.2.2, live_some]
      exact if_pos (alive_some.mpr hlive)
    have htraced := hreach.traced rfl
    rw [hsplit] at htraced
    rcases htraced.before.1.first_change (steady_slot (.idem k)) with
      hsame | ⟨later, x, earlier, rfl, hbefore, hchange⟩
    · exact hsame
    · -- no call since the reservation can have changed the record first
      exfalso
      have hsplit_x : c.log = (newer ++ e :: later) ++ x :: (earlier ++ g :: older) := by
        simpa using hsplit
      have hxlive : x.before.data.lookup x.before.now (.idem k) = some v := by
        have hle : x.before.now ≤ e.before.now := now_le hreach hsplit (by simp)
        rw [Store.lookup, hbefore, hg.2.2, live_some]
        exact if_pos (alive_some.mpr (lt_of_le_of_lt hle hlive))
      rcases change_cases hreach hsplit_x hchange with
        ⟨-, -, ⟨-, hnone, -⟩, -⟩ | hwrites | ⟨v', r, hev, hlookup, -⟩
      · rw [hnone] at hxlive
        cases hxlive
      · by_cases hx : x.who = e.who
        · exact hself x (by simp) hx hwrites
        · -- the other writer would be over its own record, which is `v`
          have hshort : (earlier ++ g :: older).length < n := by
            rw [← hn]
            simp
            omega
          obtain ⟨v', hlookup, -, g', hg', hwho', ttl', hstores⟩ :=
            ih _ hshort _ x _ hsplit_x hwrites rfl
          obtain rfl := Option.some.inj (hlookup.symm.trans hxlive)
          apply hx
          rw [← hwho', ← hwho]
          refine stores_who hreach ?_ ?_ hstores hg
          · rw [hsplit_x]
            exact List.mem_append_right _ (List.mem_cons_of_mem _ hg')
          · rw [hsplit_g]
            simp
      · obtain rfl := Option.some.inj (hlookup.symm.trans hxlive)
        exact hchange (hremoved x (by simp) r hev)

/-- A write over an own record finds its caller still the owner. -/
theorem stillOwner_of_overOwn {k : String} {newer old : HostLog K ι} {e : HostEntry K ι}
    (hsplit : c.log = newer ++ e :: old) (how : OverOwn k e old) : StillOwner k e old := by
  obtain ⟨v, hlookup, hproc, g', hg', hwho', ttl', hstores'⟩ := how
  obtain ⟨x₀, hslot₀, halive, rfl⟩ := live_eq_some.mp hlookup
  have htraced := hreach.traced rfl
  rw [hsplit] at htraced
  rcases htraced.before.1.last_change (steady_slot (.idem k)) with
    ⟨-, hall⟩ | ⟨since, x, older, rfl, hslot, hchange, hrest⟩
  · -- the record would have been there, and alive, when it was reserved
    exfalso
    obtain ⟨later, earlier, rfl⟩ := List.append_of_mem hg'
    have hsame : e.before.data (.idem k) = g'.after.data (.idem k) :=
      htraced.before.1.unchanged (steady_slot (.idem k)) fun x hx => hall x (by simp [hx])
    have hbefore : g'.before.data (.idem k) = some x₀ := by
      rw [← hall g' (by simp), ← hsame]
      exact hslot₀
    have hle : g'.before.now ≤ e.before.now := now_le hreach hsplit (by simp)
    have halive' : x₀.alive g'.before.now = true := x₀.alive_mono hle halive
    have hnone := hstores'.2.1
    rw [Store.lookup, hbefore, live_some, if_pos halive'] at hnone
    cases hnone
  · have hsplit_x : c.log = (newer ++ e :: since) ++ x :: older := by simpa using hsplit
    rw [hslot₀] at hslot
    rcases change_cases hreach hsplit_x hchange with
      ⟨fp, v, hstores, -⟩ | hwrites | ⟨v, r, -, -, hafter⟩
    · obtain rfl : x₀ = ⟨v, some (x.before.now + (ctx x.who).idemPendingTtlSec)⟩ :=
        Option.some.inj (hslot.trans hstores.2.2)
      have hx : x.who = e.who := by
        rw [← hwho']
        refine stores_who hreach ?_ ?_ hstores hstores'
        · rw [hsplit_x]
          simp
        · rw [hsplit]
          exact List.mem_append_right _ (List.mem_cons_of_mem _ hg')
      refine ⟨since, x, older, v, _, rfl, hx, hstores, alive_some.mp halive, ?_, ?_⟩
      · exact fun y hy r _ => hrest y hy
      · -- a terminal write would have left a terminal record
        intro y hy _ hwrites
        obtain ⟨later, earlier, rfl⟩ := List.append_of_mem hy
        have hsplit_y : c.log = (newer ++ e :: later) ++ y :: (earlier ++ x :: older) := by
          simpa using hsplit
        have hsame : e.before.data (.idem k) = y.after.data (.idem k) := by
          have htraced_y := htraced.before.1
          rw [List.append_assoc, List.cons_append] at htraced_y
          exact htraced_y.unchanged (steady_slot (.idem k)) fun z hz => hrest z (by simp [hz])
        obtain ⟨ttl, w, hafter, hterm⟩ := slot_of_writes hreach hsplit_y hwrites
        have heq := Option.some.inj (hslot₀.symm.trans (hsame.trans hafter))
        rw [heq] at hproc
        exact not_terminal (.inl hproc) hterm
    · obtain ⟨ttl, v, hafter, hterm⟩ := slot_of_writes hreach hsplit_x hwrites
      obtain rfl := Option.some.inj (hslot.trans hafter)
      exact absurd hterm (not_terminal (.inl hproc))
    · rw [hafter] at hslot
      cases hslot

/-- **When the terminal writes are over the writers' own reservations.**  In every
run of any requests, under any failures and any timing, each terminal write is
over the PROCESSING record of its writer exactly when each writer is still the
owner as it writes. -/
theorem everyWrite_overOwn_iff (k : String) :
    EveryWrite k (OverOwn k) c.log ↔ EveryWrite k (StillOwner k) c.log := by
  constructor
  · intro hall newer e old hsplit hw
    exact stillOwner_of_overOwn hreach hsplit (hall newer e old hsplit hw)
  · exact overOwn_of_stillOwner hreach

end Run

/-! ### A request that never reserved -/

/-- At most one call has failed. -/
def OneFailure (_ : HostState K) (l : HostLog K ι) : Prop :=
  l.countP (fun e => e.event.failed) ≤ 1

/-- The default settings, without the breaker and the deadline. -/
def plainCtx : Ctx ℚ := { defaultCtx with enableResilience := false }

/-- Two requests for one order with the key `k`, on an empty store. -/
def sameOrder : Config (HostSig ℚ) Exc ServiceResult (HostState ℚ) Bool :=
  ordersAt (fun _ => plainCtx) (fun _ => 0) (fun _ => ⟨some "a", 1, some "k"⟩)
    ⟨fun _ => none, 0, []⟩

/-- Request `false` has reserved the key.  The SET NX of request `true` does not
reach the server, so it goes on without a reservation, up to its SUCCESS record. -/
def unreservedRun : Option (Config (HostSig ℚ) Exc ServiceResult (HostState ℚ) Bool) :=
  sameOrder.run (hostWorld ℚ)
    [.call false (.reading 0), .call false (.fresh "a"), .call false .done, .call false .done,
      .call true (.reading 0), .call true (.fresh "b"), .call true .done,
      .call true (.dropped .redisOther), .call true (.reading (1 / 100)),
      .call true (.reading 0), .call true .done, .call true .done, .call true (.reading 1),
      .call true (.fresh "c"), .call true .done, .call true .done, .call true (.reading 0),
      .call true .done, .call true .done]

theorem unreservedRun_isSome : unreservedRun.isSome = true := by decide +kernel

theorem unreservedRun_reach :
    Reach (hostWorld ℚ) OneFailure sameOrder (unreservedRun.get unreservedRun_isSome) := by
  refine Reach.of_run (Q := fun l => l.countP (fun e => e.event.failed) ≤ 1) ?_ (.start ?_)
    (Option.some_get unreservedRun_isSome).symm (by decide +kernel)
  · intro new l hle
    rw [List.countP_append] at hle
    exact le_trans (Nat.le_add_left _ _) hle
  · exact Nat.zero_le 1

/-- Whether a SET NX of `k` finds a record. -/
def refused (e : HostEntry ℚ Bool) : Bool :=
  match e.event.op with
  | .redis (.setNxEx (.idem _) _ _) => (e.before.data.lookup e.before.now (.idem "k")).isSome
  | _ => true

/-- Whether this is a terminal write of `k` by request `true`. -/
def finishes (e : HostEntry ℚ Bool) : Bool :=
  match e.event with
  | ⟨.redis (.setex (.idem k) _ _), .ok _⟩ => e.who && k == "k"
  | _ => false

theorem writes_of_finishes {e : HostEntry ℚ Bool} (h : finishes e = true) :
    e.who = true ∧ Writes e "k" := by
  unfold finishes at h
  split at h
  · next hev =>
      obtain ⟨hwho, hk⟩ := (Bool.and_eq_true _ _).mp h
      obtain rfl := eq_of_beq hk
      exact ⟨hwho, _, _, _, hev, .inl rfl⟩
  · cases h

/-- The last call of the run is over the record of the other request. -/
theorem unreservedRun_overwrites :
    ¬ EveryWrite "k" (OverOwn "k") (unreservedRun.get unreservedRun_isSome).log := by
  intro hall
  have hrefused : ((unreservedRun.get unreservedRun_isSome).log.all fun e =>
      !e.who || refused e) = true := by decide +kernel
  have hlast : (unreservedRun.get unreservedRun_isSome).log.head?.any finishes = true := by
    decide +kernel
  rcases hlog : (unreservedRun.get unreservedRun_isSome).log with - | ⟨e, old⟩
  · rw [hlog] at hlast
    cases hlast
  · rw [hlog] at hlast hrefused hall
    obtain ⟨hwho, hw⟩ := writes_of_finishes hlast
    obtain ⟨v, -, -, g, hg, hgwho, ttl, ⟨r, hev⟩, hnone, -⟩ := hall [] e old rfl hw
    have hg' := List.all_eq_true.mp hrefused g (List.mem_cons_of_mem _ hg)
    have hsome : (g.before.data.lookup g.before.now (.idem "k")).isSome = true := by
      simpa [hgwho, hwho, refused, hev] using hg'
    rw [hnone] at hsome
    cases hsome

/-- One dropped SET NX, and a request writes over the reservation of another. -/
theorem not_overOwn_unreserved :
    ¬ ∀ c, Reach (hostWorld ℚ) OneFailure sameOrder c → EveryWrite "k" (OverOwn "k") c.log :=
  fun hall => unreservedRun_overwrites (hall _ unreservedRun_reach)

/-- The request of the run was no owner. -/
theorem not_stillOwner_unreserved :
    ¬ EveryWrite "k" (StillOwner "k") (unreservedRun.get unreservedRun_isSome).log :=
  fun hall => unreservedRun_overwrites
    ((everyWrite_overOwn_iff unreservedRun_reach "k").mpr hall)

end ChaosDemo
