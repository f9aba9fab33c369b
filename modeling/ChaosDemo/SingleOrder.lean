/-
ChaosDemo/SingleOrder.lean

One order for an idempotency key.  Any number of requests with the key, with the same or
with different payloads, and their calls in any order, while no call fails, no clock is
ahead, and

    an owner writes its terminal record, or releases the key, less than
    IDEM_PENDING_TTL_SEC - 1 seconds after the reading its record was built with;
    the first SUCCESS record has not expired.

The second is what the truncated `created_at` costs: with `now - 1 < int(now)`, nobody can
find the record of a punctual owner stale.  So a record is taken over from nobody, and the
one invariant (`KeyInv`) knows three stages:

    no order       →   the owner has saved one   →   its SUCCESS record is there
-/
import ChaosDemo.ProbeRace
import ChaosDemo.ProcessingAnswers
import ChaosDemo.ReplayRoundTrip
import ChaosDemo.SparedRequests

set_option linter.unusedSectionVars false

namespace ChaosDemo

open CallTree Keyspace

variable {K : Type} [Field K] [LinearOrder K] [IsStrictOrderedRing K] [FloorRing K]
variable {ι : Type} [DecidableEq ι]

/-! ### What the log says -/

/-- The clock reading that was followed by the last token. -/
def builtWith : HostHistory K → Option K
  | ⟨.uuid4, .ok _⟩ :: ⟨.time, .ok t⟩ :: _ => some t
  | _ :: h => builtWith h
  | [] => none

/-- The reading with which the record of the granted reservation was built. -/
def builtAt : HostHistory K → Option K
  | [] => none
  | ⟨.redis (.setNxEx (.idem _) _ _), .ok true⟩ :: h => builtWith h
  | _ :: h => builtAt h

/-- The lifetime of a SUCCESS record that was written under the key. -/
def successTtl (k : String) (ev : HostEvent K) : Option ℤ :=
  match ev with
  | ⟨.redis (.setex (.idem k') ttl v), .ok _⟩ =>
      if k' = k ∧ v.state = idemStateSuccess then some ttl else none
  | _ => none

/-- The deadline of the first SUCCESS record of the key. -/
def successDeadline (k : String) : HostLog K ι → Option K
  | [] => none
  | e :: old => (successDeadline k old).or
      ((successTtl k e.event).map fun ttl => e.before.now + ttl)

/-- The order whose document a request with the key has saved with this call. -/
def placedOrder (key : ι → Option String) (k : String) (e : HostEntry K ι) : Option String :=
  match e.event with
  | ⟨.redis (.setex (.order orderId) _ _), .ok _⟩ => if key e.who = some k then some orderId else none
  | _ => none

/-- The orders of the key, the latest first. -/
def placedOrders (key : ι → Option String) (k : String) (l : HostLog K ι) : List String :=
  l.filterMap (placedOrder key k)

/-- No call has failed, no clock is ahead, no owner is late, and the first SUCCESS record has
not expired. -/
structure Punctual (pending : ℤ) (key : ι → Option String) (k : String) (s : HostState K)
    (l : HostLog K ι) : Prop where
  firstTry : ∀ e ∈ l, smooth e.event = true
  clocks : ∀ e ∈ l, onTime e = true
  owners : ∀ i, key i = some k → hasSettled (own i l) = false → ∀ t ∈ builtAt (own i l),
    s.now < t + (pending - 1 : ℤ)
  lasting : ∀ deadline ∈ successDeadline k l, s.now < deadline

section Histories

variable {h : HostHistory K} {e : HostEvent K}

theorem builtWith_cons (he : e.op ≠ .uuid4) : builtWith (e :: h) = builtWith h := by
  rw [builtWith]
  rintro hex t old rfl
  exact absurd rfl he

theorem builtAt_inert (he : inert e = true) : builtAt (e :: h) = builtAt h := by
  rw [builtAt]
  rintro k v ttl rfl
  cases he

/-- The text that is about to be stored was built with the last reading. -/
theorem Building.builtWith {ctx : Ctx K} {k fp : String} {v : Raw} (hb : Building ctx k fp v h) :
    ∃ t hex, builtWith h = some t ∧ v = processingRaw (pyInt t) hex fp ∧ timeEvent t ∈ h ∧
      uuidEvent hex ∈ h := by
  obtain ⟨new, old, t, hex, rfl, hv, hnew⟩ := hb
  refine ⟨t, hex, ?_, hv, by simp, by simp⟩
  induction new with
  | nil => rfl
  | cons e new ih =>
      have hne : e.op ≠ .uuid4 := by
        intro hop
        rcases hnew e List.mem_cons_self with hidle | ⟨x, rfl⟩
        · rw [hop] at hidle
          cases hidle
        · cases hop
      rw [List.cons_append, builtWith_cons hne]
      exact ih fun e' he' => hnew e' (List.mem_cons_of_mem _ he')

theorem event_of_savedOrder {orderId : String} (hs : savedOrder h = some orderId) :
    ∃ ttl doc u, (⟨.redis (.setex (.order orderId) ttl doc), .ok u⟩ : HostEvent K) ∈ h := by
  induction h with
  | nil => cases hs
  | cons e h ih =>
      rw [savedOrder.eq_def] at hs
      split at hs
      · cases hs
      · rename_i oid ttl doc u h' heq
        obtain ⟨rfl, rfl⟩ := List.cons.inj heq
        obtain rfl := Option.some.inj hs
        exact ⟨ttl, doc, u, List.mem_cons_self⟩
      · rename_i heq
        obtain ⟨rfl, rfl⟩ := List.cons.inj heq
        obtain ⟨ttl, doc, u, hmem⟩ := ih hs
        exact ⟨ttl, doc, u, List.mem_cons_of_mem _ hmem⟩

/-- The call leaves what the request has done. -/
structure KeepsKey (e : HostEvent K) (h : HostHistory K) : Prop where
  reservation : reservation (e :: h) = reservation h
  settled : hasSettled (e :: h) = hasSettled h
  saved : savedOrder (e :: h) = savedOrder h
  built : builtAt (e :: h) = builtAt h

theorem keeps_inert (he : inert e = true) : KeepsKey e h :=
  ⟨reservation_inert he, hasSettled_inert he, savedOrder_inert he, builtAt_inert he⟩

theorem sub_one_lt_pyInt (t : K) : t - 1 < (pyInt t : K) := by
  rw [pyInt]
  split
  · exact Int.sub_one_lt_floor t
  · have hceil : t ≤ (⌈t⌉ : K) := Int.le_ceil t
    linarith

end Histories

theorem placed_of_saved {key : ι → Option String} {k orderId : String} {i : ι} {l : HostLog K ι}
    (hkey : key i = some k) (hsaved : savedOrder (own i l) = some orderId) :
    orderId ∈ placedOrders key k l := by
  obtain ⟨ttl, doc, u, hmem⟩ := event_of_savedOrder hsaved
  obtain ⟨e, he, rfl, hev⟩ := mem_own.mp hmem
  refine List.mem_filterMap.mpr ⟨e, he, ?_⟩
  rw [placedOrder, hev]
  exact if_pos hkey

theorem placedOrder_inert {key : ι → Option String} {k : String} {e : HostEntry K ι}
    (he : key e.who = some k → inert e.event = true) : placedOrder key k e = none := by
  rw [placedOrder]
  split
  · rename_i orderId ttl doc u hev
    refine if_neg fun hkey => ?_
    have hinert := he hkey
    rw [hev] at hinert
    cases hinert
  · rfl

/-! ### The invariant -/

/-- The request has the key, and has neither written a terminal record nor released it. -/
structure Holds (key : ι → Option String) (k : String) (i : ι) (l : HostLog K ι) : Prop where
  keyed : key i = some k
  reserved : (reservation (own i l)).isSome = true
  unsettled : hasSettled (own i l) = false

/-- The record of the owner is there, and lives as long as the owner may take. -/
def HeldBy (pending : ℤ) (k : String) (h : HostHistory K) (s : HostState K) : Prop :=
  ∃ t hex fp deadline, builtAt h = some t ∧ uuidEvent hex ∈ h ∧
    reservation h = some (processingRaw (pyInt t) hex fp) ∧
    s.data (.idem k) = some ⟨processingRaw (pyInt t) hex fp, some deadline⟩ ∧
    t + pending ≤ deadline

/-- The texts there are. -/
inductive Known (placed : List String) : Raw → Prop
  | processing (now : ℤ) (hex fp : String) : Known placed (processingRaw now hex fp)
  | success (now : ℤ) (fp orderId : String) : orderId ∈ placed →
      Known placed (successRaw now fp orderId 201 (createdBody orderId))
  | failed (v : Raw) : v.state = idemStateFailed →
      v.data.get "response_status" = .int 503 → Known placed v

theorem Known.mono {placed placed' : List String} {v : Raw} (h : Known placed v)
    (hsub : placed ⊆ placed') : Known placed' v := by
  cases h with
  | processing now hex fp => exact .processing now hex fp
  | success now fp orderId hmem => exact .success now fp orderId (hsub hmem)
  | failed v hstate hstatus => exact .failed v hstate hstatus

/-- How far the key is. -/
inductive KeyStage (key : ι → Option String) (k : String) (s : HostState K) (l : HostLog K ι) : Prop
  | unplaced : placedOrders key k l = [] → successDeadline k l = none → KeyStage key k s l
  | saved (i : ι) (orderId : String) : placedOrders key k l = [orderId] →
      successDeadline k l = none → Holds key k i l → savedOrder (own i l) = some orderId →
      KeyStage key k s l
  | finished (orderId : String) (v : Raw) (deadline : K) : placedOrders key k l = [orderId] →
      successDeadline k l = some deadline → s.data (.idem k) = some ⟨v, some deadline⟩ →
      v.state = idemStateSuccess → KeyStage key k s l

/-- The invariant of a key. -/
structure KeyInv (pending : ℤ) (key : ι → Option String) (k : String) (s : HostState K)
    (l : HostLog K ι) : Prop where
  held : ∀ i, Holds key k i l → HeldBy pending k (own i l) s
  stage : KeyStage key k s l
  texts : ∀ v, s.data.lookup s.now (.idem k) = some v → Known (placedOrders key k l) v

/-- What is known of every run. -/
structure Background (s : HostState K) (l : HostLog K ι) : Prop where
  uuids : UuidInv s l
  past : ∀ e ∈ l, e.before.now ≤ s.now
  unharmed : ∀ e ∈ l, e.event.failed = false
  failed : ∀ e ∈ l, ∀ k ttl v r, e.event = setexEvent k ttl v r → FailsUnavailable v

section Invariant

variable {pending : ℤ} {key : ι → Option String} {k : String} {s s' : HostState K}
  {l : HostLog K ι} {i : ι}

/-- A reading is past. -/
theorem reading_le (hP : Punctual pending key k s l) (hB : Background s l) {t : K}
    (hmem : timeEvent t ∈ own i l) : t ≤ s.now := by
  obtain ⟨e, he, -, hev⟩ := mem_own.mp hmem
  have hclocks : TrueClocks s l := hP.clocks
  exact (hclocks.le he hev).trans (hB.past e he)

namespace KeyInv

/-- The record of an owner has not expired. -/
theorem alive (hinv : KeyInv pending key k s l) (hP : Punctual pending key k s l)
    (hi : Holds key k i l) : ∃ t hex fp, builtAt (own i l) = some t ∧
      uuidEvent hex ∈ own i l ∧ reservation (own i l) = some (processingRaw (pyInt t) hex fp) ∧
      s.data.lookup s.now (.idem k) = some (processingRaw (pyInt t) hex fp) := by
  obtain ⟨t, hex, fp, deadline, hbuilt, huuid, hres, hslot, hle⟩ := hinv.held i hi
  refine ⟨t, hex, fp, hbuilt, huuid, hres, ?_⟩
  have hlate := hP.owners i hi.keyed hi.unsettled t hbuilt
  push_cast at hlate
  rw [Store.lookup, hslot, live_some]
  exact if_pos (alive_some.mpr (by linarith))

/-- There is one owner at most. -/
theorem holds_unique (hinv : KeyInv pending key k s l) (hB : Background s l) {j : ι}
    (hi : Holds key k i l) (hj : Holds key k j l) : i = j := by
  obtain ⟨t, hex, fp, d, -, huuid, -, hslot, -⟩ := hinv.held i hi
  obtain ⟨t', hex', fp', d', -, huuid', -, hslot', -⟩ := hinv.held j hj
  have hraw : processingRaw (pyInt t) hex fp = processingRaw (pyInt t') hex' fp' :=
    congrArg Timed.val (Option.some.inj (hslot.symm.trans hslot'))
  obtain rfl := processingRaw_inj hraw
  obtain ⟨e, he, rfl, hev⟩ := mem_own.mp huuid
  obtain ⟨e', he', rfl, hev'⟩ := mem_own.mp huuid'
  exact hB.uuids.who e he e' he' hex hev hev'

/-- While a request owns the key, the orders of the key are its own. -/
theorem stage_of_holds (hinv : KeyInv pending key k s l) (hB : Background s l)
    (hi : Holds key k i l) :
    placedOrders key k l = (savedOrder (own i l)).toList ∧ successDeadline k l = none := by
  cases hinv.stage with
  | unplaced hplaced hno =>
      refine ⟨?_, hno⟩
      cases hsaved : savedOrder (own i l) with
      | none => exact hplaced
      | some orderId =>
          have hmem := placed_of_saved hi.keyed hsaved
          rw [hplaced] at hmem
          cases hmem
  | saved j orderId hplaced hno hj hsaved =>
      obtain rfl := hinv.holds_unique hB hi hj
      rw [hsaved]
      exact ⟨hplaced, hno⟩
  | finished orderId v deadline _ _ hslot hstate =>
      obtain ⟨t, hex, fp, d, -, -, -, hslot', -⟩ := hinv.held i hi
      have hraw : processingRaw (pyInt t) hex fp = v :=
        congrArg Timed.val (Option.some.inj (hslot'.symm.trans hslot))
      rw [← hraw, processingRaw_state] at hstate
      exact absurd hstate (by decide)

/-- Nobody can have found the record of an owner stale. -/
theorem not_judged (hinv : KeyInv pending key k s l) (hP : Punctual pending key k s l)
    (hB : Background s l) {j : ι} (hj : Holds key k j l) {ctx : Ctx K}
    (hctx : ctx.idemPendingTtlSec = pending) {v : Raw}
    (hlookup : s.data.lookup s.now (.idem k) = some v) : ¬ Removable ctx k v (own i l) := by
  obtain ⟨t, hex, fp, hbuilt, -, -, hslot⟩ := hinv.alive hP hj
  obtain rfl := Option.some.inj (hslot.symm.trans hlookup)
  rintro (⟨new, old, t', createdAt, hown, -, -, hnum, hle⟩ | ⟨-, hstate⟩)
  · have hpast : t' ≤ s.now := by
      refine reading_le hP hB (i := i) ?_
      rw [hown]
      simp
    have hlate := hP.owners j hj.keyed hj.unsettled t hbuilt
    rw [processingRaw_created_at] at hnum
    obtain rfl := Option.some.inj hnum
    rw [Rat.cast_intCast, hctx] at hle
    push_cast at hlate
    linarith [sub_one_lt_pyInt t]
  · rw [processingRaw_state] at hstate
    exact absurd hstate (by decide)

/-! ### One step -/

/-- Time goes on. -/
theorem drift (hinv : KeyInv pending key k s l) (hdata : s'.data = s.data)
    (hnow : s.now ≤ s'.now) : KeyInv pending key k s' l := by
  refine ⟨fun i hi => ?_, ?_, fun v hv => hinv.texts v ?_⟩
  · obtain ⟨t, hex, fp, d, hbuilt, huuid, hres, hslot, hle⟩ := hinv.held i hi
    exact ⟨t, hex, fp, d, hbuilt, huuid, hres, hdata ▸ hslot, hle⟩
  · cases hinv.stage with
    | unplaced hplaced hno => exact .unplaced hplaced hno
    | saved i orderId hplaced hno hi hsaved => exact .saved i orderId hplaced hno hi hsaved
    | finished orderId v deadline hplaced hd hslot hstate =>
        exact .finished orderId v deadline hplaced hd (hdata ▸ hslot) hstate
  · rw [hdata] at hv
    exact live_mono hnow hv

/-- A call after which the request stands where it stood. -/
theorem quiet (hinv : KeyInv pending key k s l) {ev : HostEvent K}
    (hslot : s'.data (.idem k) = s.data (.idem k)) (hnow : s'.now = s.now)
    (hkeeps : key i = some k → KeepsKey ev (own i l))
    (hplaced : placedOrder key k (⟨i, ev, s, s'⟩ : HostEntry K ι) = none)
    (hno : successTtl k ev = none) : KeyInv pending key k s' (⟨i, ev, s, s'⟩ :: l) := by
  have hfacts : ∀ j, key j = some k →
      reservation (own j ((⟨i, ev, s, s'⟩ : HostEntry K ι) :: l)) = reservation (own j l) ∧
      hasSettled (own j ((⟨i, ev, s, s'⟩ : HostEntry K ι) :: l)) = hasSettled (own j l) ∧
      savedOrder (own j ((⟨i, ev, s, s'⟩ : HostEntry K ι) :: l)) = savedOrder (own j l) ∧
      builtAt (own j ((⟨i, ev, s, s'⟩ : HostEntry K ι) :: l)) = builtAt (own j l) ∧
      own j l ⊆ own j ((⟨i, ev, s, s'⟩ : HostEntry K ι) :: l) := by
    intro j hj
    by_cases hij : i = j
    · subst hij
      rw [own_cons_self (⟨i, ev, s, s'⟩ : HostEntry K ι) l]
      obtain ⟨hres, hset, hsaved, hbuilt⟩ := hkeeps hj
      exact ⟨hres, hset, hsaved, hbuilt, List.subset_cons_self _ _⟩
    · rw [own_cons_of_ne (e := (⟨i, ev, s, s'⟩ : HostEntry K ι)) hij]
      exact ⟨rfl, rfl, rfl, rfl, fun _ hmem => hmem⟩
  have hplaced' : placedOrders key k ((⟨i, ev, s, s'⟩ : HostEntry K ι) :: l) =
      placedOrders key k l := List.filterMap_cons_none hplaced
  have hdeadline : successDeadline k ((⟨i, ev, s, s'⟩ : HostEntry K ι) :: l) =
      successDeadline k l := by
    rw [successDeadline, hno]
    exact Option.or_none
  refine ⟨fun j hj => ?_, ?_, fun v hv => ?_⟩
  · obtain ⟨hres, hset, -, hbuilt, hsub⟩ := hfacts j hj.keyed
    obtain ⟨t, hex, fp, d, hbuilt', huuid, hres', hslot', hle⟩ :=
      hinv.held j ⟨hj.keyed, hres ▸ hj.reserved, hset ▸ hj.unsettled⟩
    exact ⟨t, hex, fp, d, hbuilt.trans hbuilt', hsub huuid, hres.trans hres', hslot.trans hslot', hle⟩
  · cases hinv.stage with
    | unplaced hplaced hno => exact .unplaced (hplaced'.trans hplaced) (hdeadline.trans hno)
    | saved j orderId hplaced hno hj hsaved =>
        obtain ⟨hres, hset, hsaved', -, -⟩ := hfacts j hj.keyed
        exact .saved j orderId (hplaced'.trans hplaced) (hdeadline.trans hno)
          ⟨hj.keyed, hres.symm ▸ hj.reserved, hset.trans hj.unsettled⟩ (hsaved'.trans hsaved)
    | finished orderId v deadline hplaced hd hslot' hstate =>
        exact .finished orderId v deadline (hplaced'.trans hplaced) (hdeadline.trans hd)
          (hslot.trans hslot') hstate
  · rw [hplaced']
    apply hinv.texts
    rw [Store.lookup, hslot, hnow] at hv
    exact hv

/-- The key is granted to a request. -/
theorem granted (hinv : KeyInv pending key k s l) (hP : Punctual pending key k s l)
    (hB : Background s l) {ctx : Ctx K} {fp : String} {v : Raw}
    (hbuild : Building ctx k fp v (own i l)) (hnone : s.data.lookup s.now (.idem k) = none)
    (hdata : s'.data = s.data.put (.idem k) v (some (s.now + pending))) :
    KeyInv pending key k s' (⟨i, setNxEvent k v pending (.ok true), s, s'⟩ :: l) := by
  have hnobody : ∀ j, ¬ Holds key k j l := by
    intro j hj
    obtain ⟨t, hex, fp', -, -, -, hlookup⟩ := hinv.alive hP hj
    rw [hnone] at hlookup
    cases hlookup
  obtain ⟨t, hex, hbuilt, rfl, htime, huuid⟩ := hbuild.builtWith
  refine ⟨fun j hj => ?_, ?_, fun w hw => ?_⟩
  · by_cases hij : i = j
    · subst hij
      rw [own_cons_self (⟨i, setNxEvent k _ pending (.ok true), s, s'⟩ : HostEntry K ι) l]
      refine ⟨t, hex, fp, s.now + pending, hbuilt, List.mem_cons_of_mem _ huuid, rfl, ?_, ?_⟩
      · rw [hdata]
        exact Store.put_self ..
      · linarith [reading_le hP hB htime]
    · obtain ⟨hkeyed, hres, hset⟩ := hj
      rw [own_cons_of_ne (e := (⟨i, setNxEvent k _ pending (.ok true), s, s'⟩ : HostEntry K ι)) hij]
        at hres hset
      exact absurd ⟨hkeyed, hres, hset⟩ (hnobody j)
  · have hdeadline : successDeadline k ((⟨i, setNxEvent k (processingRaw (pyInt t) hex fp) pending
        (.ok true), s, s'⟩ : HostEntry K ι) :: l) = successDeadline k l := Option.or_none
    cases hinv.stage with
    | unplaced hplaced hno => exact .unplaced hplaced (hdeadline.trans hno)
    | saved j orderId _ _ hj _ => exact absurd hj (hnobody j)
    | finished orderId w deadline _ hd hslot _ =>
        -- the SUCCESS record would still be there
        rw [Store.lookup, hslot, live_some, if_pos (alive_some.mpr (hP.lasting _ hd))] at hnone
        cases hnone
  · rw [Store.lookup, hdata, Store.put_self, live_some] at hw
    split at hw
    · obtain rfl := Option.some.inj hw
      exact .processing _ hex fp
    · cases hw

/-- The owner saves its order. -/
theorem saves (hinv : KeyInv pending key k s l) (hB : Background s l) (hi : Holds key k i l)
    (hunsaved : savedOrder (own i l) = none) {orderId : String} {ttl : ℤ} {doc : Dict}
    (hslot : s'.data (.idem k) = s.data (.idem k)) (hnow : s'.now = s.now) :
    KeyInv pending key k s'
      (⟨i, ⟨.redis (.setex (.order orderId) ttl doc), .ok ()⟩, s, s'⟩ :: l) := by
  obtain ⟨hplaced, hno⟩ := hinv.stage_of_holds hB hi
  rw [hunsaved] at hplaced
  set e : HostEntry K ι := ⟨i, ⟨.redis (.setex (.order orderId) ttl doc), .ok ()⟩, s, s'⟩ with he
  have hplaced' : placedOrders key k (e :: l) = [orderId] := by
    have hone : placedOrder key k e = some orderId := if_pos hi.keyed
    exact (List.filterMap_cons_some hone).trans (congrArg (orderId :: ·) hplaced)
  have hown : ∀ j, reservation (own j (e :: l)) = reservation (own j l) ∧
      hasSettled (own j (e :: l)) = hasSettled (own j l) ∧
      builtAt (own j (e :: l)) = builtAt (own j l) ∧ own j l ⊆ own j (e :: l) := by
    intro j
    by_cases hij : i = j
    · subst hij
      rw [own_cons_self e l]
      exact ⟨rfl, rfl, rfl, List.subset_cons_self _ _⟩
    · rw [own_cons_of_ne (e := e) hij]
      exact ⟨rfl, rfl, rfl, fun _ hmem => hmem⟩
  refine ⟨fun j hj => ?_, ?_, fun v hv => ?_⟩
  · obtain ⟨hres, hset, hbuilt, hsub⟩ := hown j
    obtain ⟨t, hex, fp, d, hbuilt', huuid, hres', hslot', hle⟩ :=
      hinv.held j ⟨hj.keyed, hres ▸ hj.reserved, hset ▸ hj.unsettled⟩
    exact ⟨t, hex, fp, d, hbuilt.trans hbuilt', hsub huuid, hres.trans hres', hslot.trans hslot', hle⟩
  · obtain ⟨hres, hset, -, -⟩ := hown i
    refine .saved i orderId hplaced' (Option.or_none.trans hno)
      ⟨hi.keyed, hres.symm ▸ hi.reserved, hset.trans hi.unsettled⟩ ?_
    rw [own_cons_self e l]
    rfl
  · rw [Store.lookup, hslot, hnow] at hv
    refine (hinv.texts v hv).mono ?_
    rw [hplaced]
    exact List.nil_subset _

/-- After the owner has settled, nobody owns the key. -/
theorem nobody_after (hinv : KeyInv pending key k s l) (hB : Background s l)
    (hi : Holds key k i l) {ev : HostEvent K} (hsettled : hasSettled (ev :: own i l) = true) (j : ι) :
    ¬ Holds key k j (⟨i, ev, s, s'⟩ :: l) := by
  rintro ⟨hkeyed, hres, hset⟩
  by_cases hij : i = j
  · subst hij
    rw [own_cons_self (⟨i, ev, s, s'⟩ : HostEntry K ι) l, hsettled] at hset
    cases hset
  · rw [own_cons_of_ne (e := (⟨i, ev, s, s'⟩ : HostEntry K ι)) hij] at hres hset
    exact hij (hinv.holds_unique hB hi ⟨hkeyed, hres, hset⟩)

/-- The owner writes its terminal record. -/
theorem finishes (hinv : KeyInv pending key k s l) (hB : Background s l) (hi : Holds key k i l)
    {ttl : ℤ} {v : Raw} (hclosing : Closing (own i l) v) (hfailed : FailsUnavailable v)
    (hdata : s'.data = s.data.put (.idem k) v (some (s.now + ttl))) :
    KeyInv pending key k s' (⟨i, setexEvent k ttl v (.ok ()), s, s'⟩ :: l) := by
  obtain ⟨hplaced, hno⟩ := hinv.stage_of_holds hB hi
  set e : HostEntry K ι := ⟨i, setexEvent k ttl v (.ok ()), s, s'⟩ with he
  have hslot : s'.data (.idem k) = some ⟨v, some (s.now + ttl)⟩ := by
    rw [hdata]
    exact Store.put_self ..
  have hplaced' : placedOrders key k (e :: l) = (savedOrder (own i l)).toList := hplaced
  have hdeadline : successDeadline k (e :: l) =
      (if k = k ∧ v.state = idemStateSuccess then some ttl else none).map
        fun ttl => s.now + (ttl : K) := by
    rw [successDeadline, hno]
    rfl
  have htext : ∀ w, s'.data.lookup s'.now (.idem k) = some w → w = v := by
    intro w hw
    rw [Store.lookup, hslot, live_some] at hw
    split at hw
    · exact (Option.some.inj hw).symm
    · cases hw
  refine ⟨fun j hj => absurd hj (hinv.nobody_after hB hi rfl j), ?_, fun w hw => ?_⟩
  · cases hclosing with
    | success now fp orderId hsaved =>
        rw [hsaved] at hplaced'
        rw [if_pos ⟨rfl, successRaw_state ..⟩] at hdeadline
        exact .finished orderId _ _ hplaced' hdeadline hslot (successRaw_state ..)
    | failed now fp message status body hsaved _ =>
        rw [hsaved] at hplaced'
        rw [if_neg fun h => absurd ((failedRaw_state ..).symm.trans h.2) (by decide)] at hdeadline
        exact .unplaced hplaced' hdeadline
  · obtain rfl := htext w hw
    cases hclosing with
    | success now fp orderId hsaved =>
        refine .success now fp orderId ?_
        rw [hplaced', hsaved]
        exact List.mem_singleton_self _
    | failed now fp message status body _ _ =>
        exact .failed _ (failedRaw_state ..) (hfailed (failedRaw_state ..))

/-- The owner releases the key, before it has saved an order. -/
theorem releases (hinv : KeyInv pending key k s l) (hB : Background s l) (hi : Holds key k i l)
    (hunsaved : savedOrder (own i l) = none) {v : Raw} (hres : reservation (own i l) = some v)
    {b : Bool} (hnow : s'.now = s.now)
    (hslot : s'.data (.idem k) = s.data (.idem k) ∨ s'.data (.idem k) = none) :
    KeyInv pending key k s' (⟨i, cadEvent k v (.ok b), s, s'⟩ :: l) := by
  obtain ⟨hplaced, hno⟩ := hinv.stage_of_holds hB hi
  have hsettled : hasSettled (cadEvent k v (.ok b) :: own i l) = true := by
    show (reservation (own i l) == some v || hasSettled (own i l)) = true
    rw [hres, beq_self_eq_true, Bool.true_or]
  rw [hunsaved] at hplaced
  refine ⟨fun j hj => absurd hj (hinv.nobody_after hB hi hsettled j),
    .unplaced hplaced (Option.or_none.trans hno), fun w hw => ?_⟩
  rcases hslot with hsame | hgone
  · rw [Store.lookup, hsame, hnow] at hw
    exact hinv.texts w hw
  · rw [Store.lookup, hgone] at hw
    cases hw

/-- A record is removed that its reader takes for stale. -/
theorem removes (hinv : KeyInv pending key k s l) (hP : Punctual pending key k s l)
    (hB : Background s l) {ctx : Ctx K} (hctx : ctx.idemPendingTtlSec = pending) {v : Raw}
    (hnores : key i = some k → reservation (own i l) = none)
    (hrem : Removable ctx k v (own i l)) (hlookup : s.data.lookup s.now (.idem k) = some v)
    {b : Bool} (hgone : s'.data (.idem k) = none) :
    KeyInv pending key k s' (⟨i, cadEvent k v (.ok b), s, s'⟩ :: l) := by
  have hnobody : ∀ j, ¬ Holds key k j l := fun j hj => hinv.not_judged hP hB hj hctx hlookup hrem
  refine ⟨fun j hj => ?_, ?_, fun w hw => ?_⟩
  · obtain ⟨hkeyed, hres, hset⟩ := hj
    by_cases hij : i = j
    · subst hij
      rw [own_cons_self (⟨i, cadEvent k v (.ok b), s, s'⟩ : HostEntry K ι) l, reservation_cad,
        hnores hkeyed] at hres
      cases hres
    · rw [own_cons_of_ne (e := (⟨i, cadEvent k v (.ok b), s, s'⟩ : HostEntry K ι)) hij] at hres hset
      exact absurd ⟨hkeyed, hres, hset⟩ (hnobody j)
  · cases hinv.stage with
    | unplaced hplaced hno => exact .unplaced hplaced (Option.or_none.trans hno)
    | saved j orderId _ _ hj _ => exact absurd hj (hnobody j)
    | finished orderId w deadline _ hd hslot hstate =>
        rw [Store.lookup, hslot, live_some, if_pos (alive_some.mpr (hP.lasting _ hd))] at hlookup
        obtain rfl := Option.some.inj hlookup
        rcases hrem with ⟨-, -, -, -, -, -, hproc, -⟩ | ⟨-, hexp⟩
        · exact absurd (hproc.symm.trans hstate) (by decide)
        · exact absurd (hexp.symm.trans hstate) (by decide)
  · rw [Store.lookup, hgone] at hw
    cases hw

/-- A command of a request, answered at its first attempt. -/
theorem redis (hinv : KeyInv pending key k s l) (hP : Punctual pending key k s l)
    (hB : Background s l) {ctx : Ctx K} (hctx : ctx.idemPendingTtlSec = pending) {c : Cmd K}
    (hcall : (orderClient ctx (key i)).mayCall (own i l) (.redis c))
    (hfailed : ∀ k ttl v, c = .setex (.idem k) ttl v → FailsUnavailable v) :
    KeyInv pending key k { s with data := (exec s.now s.data c).2 }
      (⟨i, ⟨.redis c, .ok (exec s.now s.data c).1⟩, s,
        { s with data := (exec s.now s.data c).2 }⟩ :: l) := by
  have hentitled : key i = some k → Entitled (key i) (own i l) → hasSettled (own i l) = false →
      Holds key k i l := by
    intro hkey hent hunset
    rcases hent with hnone | hres | ⟨ev, hmem, hbad⟩
    · rw [hkey] at hnone
      cases hnone
    · exact ⟨hkey, hres, hunset⟩
    · obtain ⟨e, he, -, rfl⟩ := mem_own.mp hmem
      rw [hB.unharmed e he] at hbad
      cases hbad
  -- a request with another key does not touch the record
  have hforeign : ∀ {k'}, key i = some k' → k' ≠ k → key i = some k → False := by
    intro k' hkey' hne hkey
    exact hne (Option.some.inj (hkey'.symm.trans hkey))
  have hother : (∀ k, Key.idem k ∉ c.writes) →
      inert (⟨.redis c, .ok (exec s.now s.data c).1⟩ : HostEvent K) = true →
      successTtl k (⟨.redis c, .ok (exec s.now s.data c).1⟩ : HostEvent K) = none →
      KeyInv pending key k { s with data := (exec s.now s.data c).2 }
        (⟨i, ⟨.redis c, .ok (exec s.now s.data c).1⟩, s,
          { s with data := (exec s.now s.data c).2 }⟩ :: l) := fun hw hinert hno =>
    hinv.quiet (exec_frame s.now s.data c (hw k)) rfl (fun _ => keeps_inert hinert)
      (placedOrder_inert fun _ => hinert) hno
  cases c with
  | setNxEx key' v ttl =>
      cases key' with
      | idem k' =>
          obtain ⟨hkey', rfl, -, -, -, fp, hbuild⟩ := hcall
          by_cases hk : k' = k
          · subst hk
            cases hlookup : s.data.lookup s.now (.idem k') with
            | none =>
                have hexec : exec s.now s.data (.setNxEx (.idem k') v ctx.idemPendingTtlSec) =
                    (true, s.data.put (.idem k') v (some (s.now + ctx.idemPendingTtlSec))) := by
                  simp [exec, hlookup]
                rw [hexec, hctx]
                exact hinv.granted hP hB hbuild hlookup rfl
            | some w =>
                have hexec : exec s.now s.data (.setNxEx (.idem k') v ctx.idemPendingTtlSec) =
                    (false, s.data) := by simp [exec, hlookup]
                rw [hexec]
                exact hinv.quiet rfl rfl (fun _ => keeps_inert rfl) rfl rfl
          · refine hinv.quiet (exec_frame s.now s.data _ ?_) rfl ?_ rfl rfl
            · simpa [Cmd.writes] using fun h => hk h.symm
            · exact fun hkey => (hforeign hkey' hk hkey).elim
      | _ => exact hother hcall rfl rfl
  | setex key' ttl v =>
      cases key' with
      | idem k' =>
          obtain ⟨hkey', -, hunset, hent, hclosing⟩ := hcall
          by_cases hk : k' = k
          · subst hk
            exact hinv.finishes hB (hentitled hkey' hent hunset) hclosing (hfailed k' ttl v rfl) rfl
          · have hslot : (exec s.now s.data (.setex (.idem k') ttl v)).2 (.idem k) =
                s.data (.idem k) :=
              exec_frame s.now s.data _ (by simpa [Cmd.writes] using fun h => hk h.symm)
            exact hinv.quiet hslot rfl (fun hkey => (hforeign hkey' hk hkey).elim) rfl
              (if_neg fun h => hk h.1)
      | order orderId =>
          have hslot : (exec s.now s.data (.setex (.order orderId) ttl v)).2 (.idem k) =
              s.data (.idem k) := exec_frame s.now s.data _ (by simp [Cmd.writes])
          by_cases hkey : key i = some k
          · obtain ⟨hunsaved, hunset, hent⟩ := hcall
            exact hinv.saves hB (hentitled hkey hent hunset) hunsaved hslot rfl
          · exact hinv.quiet hslot rfl (fun h => absurd h hkey) (if_neg hkey) rfl
      | _ => exact hother hcall rfl rfl
  | compareAndDelete k' raw =>
      obtain ⟨hkey', hor⟩ := hcall
      by_cases hk : k' = k
      · subst hk
        by_cases hlookup : s.data.lookup s.now (.idem k') = some raw
        · have hexec : exec s.now s.data (.compareAndDelete k' raw) =
              (true, s.data.erase (.idem k')) := if_pos hlookup
          rw [hexec]
          have hgone : (s.data.erase (.idem k')) (.idem k') = none := Store.erase_self ..
          rcases hor with ⟨hnores, hrem⟩ | ⟨hres, -, hunsaved, hunset⟩
          · exact hinv.removes hP hB hctx (fun _ => hnores) hrem hlookup hgone
          · have hi : Holds key k' i l := ⟨hkey', by rw [hres]; rfl, hunset⟩
            exact hinv.releases hB hi hunsaved hres rfl (.inr hgone)
        · have hexec : exec s.now s.data (.compareAndDelete k' raw) = (false, s.data) :=
            if_neg hlookup
          rw [hexec]
          rcases hor with ⟨hnores, -⟩ | ⟨hres, -, hunsaved, hunset⟩
          · refine hinv.quiet rfl rfl (fun _ => ⟨reservation_cad .., ?_, rfl, rfl⟩) rfl rfl
            show (reservation (own i l) == some raw || hasSettled (own i l)) = _
            rw [hnores]
            rfl
          · have hi : Holds key k' i l := ⟨hkey', by rw [hres]; rfl, hunset⟩
            exact hinv.releases hB hi hunsaved hres rfl (.inl rfl)
      · refine hinv.quiet (exec_frame s.now s.data _ ?_) rfl ?_ rfl rfl
        · simpa [Cmd.writes] using fun h => hk h.symm
        · exact fun hkey => (hforeign hkey' hk hkey).elim
  | _ => exact hother hcall rfl rfl

end KeyInv

end Invariant

/-! ### Runs -/

theorem hostWorld_serves_spared {P : HostState K → HostLog K ι → Prop}
    (hfirst : ∀ s l, P s l → ∀ e ∈ l, smooth e.event = true) :
    Serves (hostWorld K) P fun _ => sparedHost := by
  intro i s l o x r s' hs hP
  have hreply : HostReply o r := hostReply_of_serve hs
  refine ⟨hreply, ?_⟩
  have hfine : (⟨o, r⟩ : HostEvent K).failed = false :=
    not_failed_of_smooth hreply (hfirst s' _ hP _ List.mem_cons_self)
  cases r with
  | ok v => exact ⟨v, rfl⟩
  | error e => cases hfine

theorem serve_data {s s' : HostState K} {o : HostOp K} {x : HostChoice K} {r : Except Exc o.Ret}
    (ho : ∀ c, o ≠ .redis c) (hs : (hostWorld K).serve s o x = some (r, s')) :
    s'.data = s.data := by
  cases served_of_serve hs with
  | done c => exact absurd rfl (ho c)
  | dropped c e => exact absurd rfl (ho c)
  | lost c e => exact absurd rfl (ho c)
  | uuid hex _ => rfl
  | quiet o r _ _ => rfl

section Run

variable {pending : ℤ} {ctx : ι → Ctx K} {startedAt : ι → K} {command : ι → CreateOrderCommand}
  {k : String} {s₀ : HostState K} {c : Config (HostSig K) Exc ServiceResult (HostState K) ι}

theorem background_of_reach {P : HostState K → HostLog K ι → Prop}
    (hfirst : ∀ s l, P s l → ∀ e ∈ l, smooth e.event = true)
    (hreach : Reach (hostWorld K) P (ordersAt ctx startedAt command s₀) c) :
    Background c.state c.log := by
  have htraced := hreach.traced rfl
  refine ⟨uuidInv_of_reach hreach rfl, fun e he => htraced.before_le rising_now he, ?_, ?_⟩
  · intro e he
    obtain ⟨new, old, hsplit⟩ := List.append_of_mem he
    rw [hsplit] at htraced
    obtain ⟨-, x, hs⟩ := htraced.before
    exact not_failed_of_smooth (hostReply_of_serve hs) (hfirst _ _ hreach.holds e he)
  · intro e he k ttl v r hev
    obtain ⟨new, old, hsplit⟩ := List.append_of_mem he
    have hcall := hreach.allowed (hostWorld_serves_spared hfirst) rfl
      (fun i => orderRequest_spared (ctx i) (startedAt i) (command i)) new e old hsplit
    rw [hev] at hcall
    exact hcall

/-- The invariant holds in every run of requests that starts without a record. -/
theorem keyInv_of_reach (hpending : ∀ i, (ctx i).idemPendingTtlSec = pending)
    (hempty : s₀.data.lookup s₀.now (.idem k) = none)
    (hreach : Reach (hostWorld K) (Punctual pending (fun i => (command i).key?) k)
      (ordersAt ctx startedAt command s₀) c) :
    KeyInv pending (fun i => (command i).key?) k c.state c.log := by
  have hbackground : ∀ c', Reach (hostWorld K) (Punctual pending (fun i => (command i).key?) k)
      (ordersAt ctx startedAt command s₀) c' → Background c'.state c'.log := fun c' hc' =>
    background_of_reach (fun s l hP => hP.firstTry) hc'
  have hreach' := hreach.and_invariant hbackground
  let Inv : HostState K → HostLog K ι → Prop := KeyInv pending (fun i => (command i).key?) k
  refine (hreach'.invariant (hostWorld_serves_orders _ ctx fun i => (command i).key?) rfl
    (fun i => orderRequest_obeys (ctx i) (startedAt i) (command i)) (fun _ => ?_) ?_ ?_ :
      Inv c.state c.log)
  · refine ⟨fun i hi => ?_, .unplaced rfl rfl, fun v hv => ?_⟩
    · cases hi.reserved
    · rw [show (ordersAt ctx startedAt command s₀).state = s₀ from rfl, hempty] at hv
      cases hv
  · intro s l t s' hinv _ _ hd
    obtain ⟨hle, rfl⟩ := drift_cases hd
    exact hinv.drift rfl hle
  · intro s l i o x r s' hinv hP hP' hcall hs
    by_cases ho : ∃ c, o = .redis c
    · obtain ⟨cmd, rfl⟩ := ho
      rcases serve_redis hs with ⟨rfl, rfl⟩ | ⟨e, rfl, -⟩
      · refine hinv.redis hP.1 hP.2 (hpending i) hcall fun k ttl v heq => ?_
        subst heq
        exact hP'.2.failed _ List.mem_cons_self k ttl v _ rfl
      · cases hP'.1.firstTry _ List.mem_cons_self
    · have hnot : ∀ c, o ≠ .redis c := fun c hc => ho ⟨c, hc⟩
      have hinert : inert (⟨o, r⟩ : HostEvent K) = true := by
        cases o with
        | redis c => exact absurd rfl (hnot c)
        | _ => rfl
      refine hinv.quiet (congrFun (serve_data hnot hs) _) (serve_now hs)
        (fun _ => keeps_inert hinert) (placedOrder_inert fun _ => hinert) ?_
      cases o with
      | redis c => exact absurd rfl (hnot c)
      | _ => rfl

/-- What a key is worth: its requests have saved one order at most, and whoever is told that
the order is there already is told its id. -/
structure OneOrderPerKey (key : ι → Option String) (k : String)
    (c : Config (HostSig K) Exc ServiceResult (HostState K) ι) : Prop where
  atMost : (placedOrders key k c.log).length ≤ 1
  replayed : ∀ i body, key i = some k → c.thread i = .ofExcept (.ok ⟨200, body⟩) →
    body.get "idempotent" = .bool true →
    ∃ orderId, placedOrders key k c.log = [orderId] ∧ body.get "order_id" = .str orderId

theorem KeyInv.atMost {key : ι → Option String} {s : HostState K} {l : HostLog K ι}
    (hinv : KeyInv pending key k s l) : (placedOrders key k l).length ≤ 1 := by
  cases hinv.stage with
  | unplaced hplaced _ => simp [hplaced]
  | saved i orderId hplaced _ _ _ => simp [hplaced]
  | finished orderId v deadline hplaced _ _ _ => simp [hplaced]

/-- What is answered 200 from a text that there is, names an order that was placed. -/
theorem Known.answers {placed : List String} {raw : Raw} (hknown : Known placed raw)
    {ctx : Ctx K} {h : HostHistory K} {r : Record} (hnormal : NormalOf ctx k raw r h)
    (hterm : r.isTerminal = true) {body : Dict} (hbuild : buildReplayResponse r = .ok (200, body)) :
    ∃ orderId ∈ placed, body.get "order_id" = .str orderId := by
  obtain ⟨ts, stale, rfl, hjudged⟩ := hnormal
  have hfresh : raw.state ≠ idemStateProcessing → stale = false := by
    intro hne
    cases stale with
    | false => rfl
    | true =>
        obtain ⟨-, -, -, -, -, -, hproc, -⟩ := hjudged rfl
        exact absurd hproc hne
  have hstate : (⟨normalizeFields raw.data ts stale, some raw⟩ : Record).get "state" =
      .str (if stale then idemStateExpired else raw.state) := normalizeFields_state _ ts stale
  cases hknown with
  | processing now hex fp =>
      rw [Record.isTerminal, hstate, processingRaw_state] at hterm
      cases stale <;> cases hterm
  | success now fp orderId hmem =>
      obtain rfl := hfresh (by rw [successRaw_state]; decide)
      rw [successRaw_state] at hstate
      have hbody : (⟨normalizeFields (successRaw now fp orderId 201 (createdBody orderId)).data ts
          false, some (successRaw now fp orderId 201 (createdBody orderId))⟩ : Record).get
            "response_body" = .obj (createdBody orderId) :=
        normalizeFields_body (successRaw_get ..) ts false
      refine ⟨orderId, hmem, ?_⟩
      rw [buildReplayResponse, hstate, hbody] at hbuild
      obtain rfl := (Prod.mk.inj (Except.ok.inj hbuild)).2
      rw [Dict.get_set_of_ne (by decide), Dict.get_setdefault_of_ne (by decide)]
      rfl
  | failed raw hfailed hstatus =>
      obtain rfl := hfresh (by rw [hfailed]; decide)
      rw [if_neg Bool.false_ne_true, hfailed] at hstate
      have hcode := normalizeFields_status hstatus ts false
      have hcode' : (⟨normalizeFields raw.data ts false, some raw⟩ : Record).get
          "response_status" = .int 503 := hcode
      rw [buildReplayResponse, hstate, hcode'] at hbuild
      exact absurd (Prod.mk.inj (Except.ok.inj hbuild)).1 (by decide)

/-- **At most one order for a key.**  Any requests, with the key or without, whose calls come
in any order. -/
theorem oneOrder_of_punctual (hpending : ∀ i, (ctx i).idemPendingTtlSec = pending)
    (hempty : s₀.data.lookup s₀.now (.idem k) = none)
    (hreach : Reach (hostWorld K) (Punctual pending (fun i => (command i).key?) k)
      (ordersAt ctx startedAt command s₀) c) : OneOrderPerKey (fun i => (command i).key?) k c := by
  have hinv := keyInv_of_reach hpending hempty hreach
  refine ⟨hinv.atMost, fun i body hkey hres hidem => ?_⟩
  obtain ⟨hs, hT, hanswer, -⟩ := order_post hreach hres
  generalize hresult : (⟨200, body⟩ : ServiceResult) = result at hanswer
  cases hanswer with
  | created orderId _ =>
      have hstatus : (200 : ℤ) = 201 := congrArg ServiceResult.statusCode hresult
      exact absurd hstatus (by decide)
  | faulted f _ _ =>
      rw [show body = f.toResponse from congrArg ServiceResult.body hresult] at hidem
      cases hidem
  | turnedDown status body' _ hstatus _ =>
      obtain rfl : (200 : ℤ) = status := congrArg ServiceResult.statusCode hresult
      rcases hstatus with h | h | h <;> exact absurd h (by decide)
  | replayed r status body' _ _ hreplayed hbuild =>
      obtain ⟨rfl, rfl⟩ : (200 : ℤ) = status ∧ body = body' := by
        cases hresult
        exact ⟨rfl, rfl⟩
      obtain ⟨k', hk', ⟨raw, hgot, hnormal⟩, hterm⟩ := hT.replayed r hreplayed
      obtain rfl : k' = k := Option.some.inj (hk'.symm.trans hkey)
      obtain ⟨e, he, -, hev⟩ := mem_own.mp hgot
      obtain ⟨newer, old, hsplit⟩ := List.append_of_mem he
      obtain ⟨c', hreach', hstate, hlog, -⟩ := hreach.before rfl hsplit
      -- the text was there when it was read
      have hlookup := lookup_of_read hreach hsplit hev
      have hinv' := keyInv_of_reach hpending hempty hreach'
      rw [hstate, hlog] at hinv'
      obtain ⟨orderId, hmem, horder⟩ := (hinv'.texts raw hlookup).answers hnormal hterm hbuild
      refine ⟨orderId, ?_, horder⟩
      have hmem' : orderId ∈ placedOrders (fun i => (command i).key?) k' c.log := by
        rw [hsplit, placedOrders, List.filterMap_append]
        apply List.mem_append_right
        obtain ⟨x, hx, hxo⟩ := List.mem_filterMap.mp hmem
        exact List.mem_filterMap.mpr ⟨x, List.mem_cons_of_mem _ hx, hxo⟩
      have hlen := hinv.atMost
      cases hplaced : placedOrders (fun i => (command i).key?) k' c.log with
      | nil =>
          rw [hplaced] at hmem'
          cases hmem'
      | cons x rest =>
          rw [hplaced] at hmem' hlen
          cases rest with
          | nil => rw [List.mem_singleton.mp hmem']
          | cons y rest => simp at hlen

end Run

/-! ### Two requests -/

instance (pending : ℤ) (key : Bool → Option String) (k : String) (s : HostState ℚ)
    (l : HostLog ℚ Bool) : Decidable (Punctual pending key k s l) :=
  decidable_of_iff
    ((∀ e ∈ l, smooth e.event = true) ∧ (∀ e ∈ l, onTime e = true) ∧
      (∀ i, key i = some k → hasSettled (own i l) = false → ∀ t ∈ builtAt (own i l),
        s.now < t + (pending - 1 : ℤ)) ∧ ∀ deadline ∈ successDeadline k l, s.now < deadline)
    ⟨fun h => ⟨h.1, h.2.1, h.2.2.1, h.2.2.2⟩, fun h => ⟨h.1, h.2, h.3, h.4⟩⟩

/-- The key of both. -/
def sharedKey (_ : Bool) : Option String := CreateOrderCommand.key? ⟨some "a", 1, some "k"⟩

/-- Request `true` is refused the key, and waits while request `false` places the order. -/
def sharedKeyRun : Option (Config (HostSig ℚ) Exc ServiceResult (HostState ℚ) Bool) :=
  sameOrder.runWhile (hostWorld ℚ)
    (Punctual plainCtx.idemPendingTtlSec sharedKey "k")
    [.call false (.reading 0), .call false (.fresh "a"), .call true (.reading 0),
      .call true (.fresh "b"), .call false .done, .call false .done, .call true .done,
      .call true .done, .call true .done, .call true .done, .call true (.reading 0),
      .call true (.reading 0), .call false (.reading (1 / 100)), .call false (.reading 0),
      .call false .done, .call false .done, .call false (.reading 1), .call false (.fresh "c"),
      .call false .done, .call false .done, .call false (.reading 0), .call false .done,
      .call false .done, .drift (1 / 10 : ℚ), .call true .done, .call true .done]

/-- The request has been told that its order is there already. -/
def toldAgain : Host ℚ ServiceResult → Bool
  | .ret ⟨status, body⟩ => status == 200 && match Dict.get body "idempotent" with
      | .bool b => b
      | _ => false
  | _ => false

theorem answer_of_toldAgain {p : Host ℚ ServiceResult} (h : toldAgain p = true) :
    ∃ body, p = .ofExcept (.ok ⟨200, body⟩) ∧ body.get "idempotent" = .bool true := by
  cases p with
  | ret result =>
      obtain ⟨status, body⟩ := result
      obtain ⟨hstatus, hbody⟩ := (Bool.and_eq_true _ _).mp h
      obtain rfl := eq_of_beq hstatus
      refine ⟨body, rfl, ?_⟩
      cases hidem : Dict.get body "idempotent" with
      | bool b =>
          rw [hidem] at hbody
          exact congrArg Json.bool hbody
      | _ =>
          rw [hidem] at hbody
          cases hbody
  | _ => cases h

theorem sharedKeyRun_checks : (sharedKeyRun.any fun c => toldAgain (c.thread true)) = true := by
  decide +kernel

theorem oneOrder_of_punctual_sharedKey : ∃ c body, sharedKeyRun = some c ∧
    OneOrderPerKey sharedKey "k" c ∧ c.thread true = .ofExcept (.ok ⟨200, body⟩) ∧
    ∃ orderId, placedOrders sharedKey "k" c.log = [orderId] ∧
      body.get "order_id" = .str orderId := by
  obtain ⟨c, hrun, hchecks⟩ := (Option.any_eq_true _ _).mp sharedKeyRun_checks
  have hstart : Punctual plainCtx.idemPendingTtlSec sharedKey "k" sameOrder.state
      sameOrder.log := by decide +kernel
  have hreach := Reach.of_runWhile (.start hstart) hrun
  have hempty : sameOrder.state.data.lookup sameOrder.state.now (.idem "k") = none := rfl
  have hone : OneOrderPerKey sharedKey "k" c :=
    oneOrder_of_punctual (fun _ => rfl) hempty hreach
  obtain ⟨body, hthread, hidem⟩ := answer_of_toldAgain hchecks
  exact ⟨c, body, hrun, hone, hthread, hone.replayed true body rfl hthread hidem⟩

end ChaosDemo
