/-
ChaosDemo/ProcessingAnswers.lean

What stands behind the answer "processing".  A request that was refused the key
waits for a result, and `create_order` makes one answer of whatever is not a
result: the record is still PROCESSING, or it has expired, or it is gone
(`missing`).

So the answer is backed by another request exactly when the last read of the key
has found a PROCESSING record that had not expired.  That such a record belongs
to a request which has not ended is the invariant half of the argument: an owner
that has ended has written a terminal record or given its text back, and neither
leaves the text under the key.
-/
import ChaosDemo.Handover
import ChaosDemo.TerminalWrites

set_option linter.unusedSectionVars false

namespace ChaosDemo

open CallTree Keyspace

variable {K : Type} [Field K] [LinearOrder K] [IsStrictOrderedRing K] [FloorRing K]
variable {ι : Type} [DecidableEq ι]

/-! ### Answers and reads -/

/-- 202 with the status processing. -/
def SaysProcessing (result : ServiceResult) : Prop :=
  result.statusCode = 202 ∧ Dict.get result.body "status" = .str "processing"

/-- `e` is the last read of the key by `i`, with the calls `newer` after it. -/
def LastRead (k : String) (i : ι) (newer : HostLog K ι) (e : HostEntry K ι) : Prop :=
  e.who = i ∧ (∃ found, e.event = getEvent k found) ∧
    ∀ x ∈ newer, x.who = i → ∀ found, x.event ≠ getEvent k found

/-- One of these clock readings says that the record `v` is too old. -/
def Outdated (ctx : Ctx K) (v : Raw) (since : HostHistory K) : Prop :=
  ∃ t createdAt, timeEvent t ∈ since ∧ (v.data.get "created_at").number? = some createdAt ∧
    (ctx.idemPendingTtlSec : K) ≤ t - (createdAt : K)

/-- The last read of `i` found a PROCESSING record that had not expired. -/
def FoundProcessing (ctx : Ctx K) (k : String) (i : ι) (l : HostLog K ι) : Prop :=
  ∃ newer e old v, l = newer ++ e :: old ∧ LastRead k i newer e ∧
    e.event = getEvent k (some v) ∧ v.state = idemStateProcessing ∧
    ¬ Outdated ctx v (own i newer)

/-- At the call `e`, made after the calls `old`, the record `v` is one that another
request than `i` has stored, and that request had not ended; or it was there
before the run. -/
def OfAnother (c₀ : Config (HostSig K) Exc ServiceResult (HostState K) ι) (k : String) (v : Raw)
    (i : ι) (e : HostEntry K ι) (old : HostLog K ι) : Prop :=
  (∃ g ∈ old, g.who ≠ i ∧ (∃ ttl, Stores g k v ttl) ∧
    ∃ c₁, Reach (hostWorld K) FirstTry c₀ c₁ ∧ c₁.state = e.before ∧ c₁.log = old ∧
      ∃ o rest, c₁.thread g.who = .call o rest) ∨
  ∃ deadline, c₀.state.data (.idem k) = some ⟨v, deadline⟩

/-- At the last read of `i` the key held a PROCESSING record, not expired, of another
request that had not ended. -/
def Backed (c₀ : Config (HostSig K) Exc ServiceResult (HostState K) ι) (ctx : Ctx K) (k : String)
    (i : ι) (l : HostLog K ι) : Prop :=
  ∃ newer e old v, l = newer ++ e :: old ∧ LastRead k i newer e ∧
    e.before.data.lookup e.before.now (.idem k) = some v ∧ v.state = idemStateProcessing ∧
    ¬ Outdated ctx v (own i newer) ∧ OfAnother c₀ k v i e old

/-! ### What a request has done -/

section Histories

variable {h : HostHistory K}

theorem reservation_of_granted {k : String} {v : Raw} {ttl : ℤ}
    (hmem : setNxEvent k v ttl (.ok true) ∈ h) : (reservation h).isSome = true := by
  induction h with
  | nil => cases hmem
  | cons e h ih =>
      rcases List.mem_cons.mp hmem with rfl | hold
      · rfl
      · rw [reservation.eq_def]
        split
        · rename_i heq
          cases heq
        · rfl
        · rename_i heq
          cases heq
          exact ih hold

theorem granted_of_reservation {v : Raw} (hr : reservation h = some v) :
    ∃ k ttl, setNxEvent k v ttl (.ok true) ∈ h := by
  induction h with
  | nil => cases hr
  | cons e h ih =>
      rw [reservation.eq_def] at hr
      split at hr
      · cases hr
      · rename_i k w ttl h' heq
        obtain ⟨rfl, rfl⟩ := List.cons.inj heq
        obtain rfl := Option.some.inj hr
        exact ⟨k, ttl, List.mem_cons_self⟩
      · rename_i heq
        obtain ⟨rfl, rfl⟩ := List.cons.inj heq
        obtain ⟨k, ttl, hmem⟩ := ih hr
        exact ⟨k, ttl, List.mem_cons_of_mem _ hmem⟩

/-- A request has settled with a terminal write, or by giving its text back. -/
theorem settled_cases (hs : hasSettled h = true) : ∃ new ev old, h = new ++ ev :: old ∧
    ((∃ k ttl v u, ev = setexEvent k ttl v (.ok u)) ∨
      ∃ k raw b, ev = cadEvent k raw (.ok b) ∧ reservation old = some raw) := by
  induction h with
  | nil => cases hs
  | cons e h ih =>
      have hlater : hasSettled h = true → ∃ new ev old, e :: h = new ++ ev :: old ∧
          ((∃ k ttl v u, ev = setexEvent k ttl v (.ok u)) ∨
            ∃ k raw b, ev = cadEvent k raw (.ok b) ∧ reservation old = some raw) := by
        intro hrest
        obtain ⟨new, ev, old, rfl, hev⟩ := ih hrest
        exact ⟨e :: new, ev, old, rfl, hev⟩
      rw [hasSettled.eq_def] at hs
      split at hs
      · cases hs
      · rename_i k ttl v u h' heq
        obtain ⟨rfl, rfl⟩ := List.cons.inj heq
        exact ⟨[], _, h, rfl, .inl ⟨k, ttl, v, u, rfl⟩⟩
      · rename_i k raw b h' heq
        obtain ⟨rfl, rfl⟩ := List.cons.inj heq
        rcases (Bool.or_eq_true _ _).mp hs with hown | hrest
        · exact ⟨[], _, h, rfl, .inr ⟨k, raw, b, rfl, eq_of_beq hown⟩⟩
        · exact hlater hrest
      · rename_i heq
        obtain ⟨rfl, rfl⟩ := List.cons.inj heq
        exact hlater hs

/-- An answer "processing" goes to a request without a reservation. -/
theorem unreserved_of_processing {key : Option String} {hs : ServiceHistory K}
    {result : ServiceResult} (hend : Ending key (.ok result) hs) (hanswers : SaysProcessing result) :
    (standingOf key hs).reserved = none := by
  obtain ⟨hanswer, -⟩ := hend
  obtain ⟨hstatus, hbody⟩ := hanswers
  cases hanswer with
  | created orderId _ => cases hstatus
  | replayed r status body _ hnone _ _ => exact hnone
  | faulted f _ _ => cases hbody
  | turnedDown status body _ _ hnone => exact hnone hbody

end Histories

/-! ### Owners that have ended -/

section Run

variable {ctx : ι → Ctx K} {startedAt : ι → K} {command : ι → CreateOrderCommand}
  {s₀ : HostState K} {c : Config (HostSig K) Exc ServiceResult (HostState K) ι}
  (hreach : Reach (hostWorld K) FirstTry (ordersAt ctx startedAt command s₀) c)

include hreach

theorem own_not_failed {i : ι} {ev : HostEvent K} (hmem : ev ∈ own i c.log) :
    ev.failed = false := by
  obtain ⟨e, he, -, rfl⟩ := mem_own.mp hmem
  exact not_failed_of_log hreach rfl he (hreach.holds e he)

/-- A reservation that took effect was granted. -/
theorem granted_of_stores {k : String} {v : Raw} {ttl : ℤ} {g : HostEntry K ι} (hg : g ∈ c.log)
    (hstores : Stores g k v ttl) : g.event = setNxEvent k v ttl (.ok true) := by
  obtain ⟨newer, old, hsplit⟩ := List.append_of_mem hg
  obtain ⟨⟨r, hev⟩, hfree, -⟩ := hstores
  obtain ⟨rfl, -⟩ := exec_of_log hreach rfl hsplit hev (hreach.holds g hg)
  rw [hev]
  simp [exec, hfree]

/-- A request is granted one reservation. -/
theorem grant_first {k k' : String} {v v' : Raw} {ttl ttl' : ℤ} {newer old : HostLog K ι}
    {g : HostEntry K ι} (hsplit : c.log = newer ++ g :: old) {r : Except Exc Bool}
    (hg : g.event = setNxEvent k v ttl r) :
    setNxEvent k' v' ttl' (.ok true) ∉ own g.who old := by
  intro hmem
  have hcall := order_allowed hreach hsplit
  rw [hg] at hcall
  obtain ⟨-, -, hnone, -⟩ := hcall
  have hsome := reservation_of_granted hmem
  rw [hnone] at hsome
  cases hsome

/-- All the grants of a request are of one text. -/
theorem grant_unique {k k' : String} {v v' : Raw} {ttl ttl' : ℤ} {g g' : HostEntry K ι}
    (hmem : g ∈ c.log) (hmem' : g' ∈ c.log) (hg : g.event = setNxEvent k v ttl (.ok true))
    (hg' : g'.event = setNxEvent k' v' ttl' (.ok true)) (hwho : g'.who = g.who) : v' = v := by
  obtain ⟨newer, old, hsplit⟩ := List.append_of_mem hmem
  rw [hsplit] at hmem'
  rcases List.mem_append.mp hmem' with hnew | hrest
  · obtain ⟨a, b, rfl⟩ := List.append_of_mem hnew
    have hsplit' : c.log = a ++ g' :: (b ++ g :: old) := by simpa using hsplit
    have hearlier : setNxEvent k v ttl (.ok true) ∈ own g'.who (b ++ g :: old) :=
      mem_own.mpr ⟨g, by simp, hwho.symm, hg⟩
    exact absurd hearlier (grant_first hreach hsplit' hg')
  · rcases List.mem_cons.mp hrest with rfl | hold
    · rw [hg] at hg'
      cases hg'
      rfl
    · have hearlier : setNxEvent k' v' ttl' (.ok true) ∈ own g.who old :=
        mem_own.mpr ⟨g', hold, hwho, hg'⟩
      exact absurd hearlier (grant_first hreach hsplit hg)

/-- What a request has settled with, it has done after its reservation. -/
theorem settled_after {k : String} {v : Raw} {ttl : ℤ} {since older : HostLog K ι}
    {g : HostEntry K ι} (hsplit : c.log = since ++ g :: older)
    (hgrant : g.event = setNxEvent k v ttl (.ok true))
    (hsettled : hasSettled (own g.who c.log) = true) :
    ∃ y later between, since = later ++ y :: between ∧ y.who = g.who ∧
      ((∃ ttl w u, y.event = setexEvent k ttl w (.ok u)) ∨ ∃ b, y.event = cadEvent k v (.ok b)) := by
  obtain ⟨new, ev, old, hown, hev⟩ := settled_cases hsettled
  obtain ⟨newer', y, old', hlog, hwho, rfl, -, rfl⟩ := own_eq_append hown
  have hcall := order_allowed hreach hlog
  rw [hwho] at hcall
  have hkey : (command g.who).key? = some k := by
    have hgcall := order_allowed hreach hsplit
    rw [hgrant] at hgcall
    exact hgcall.1
  -- at that point it had a reservation, which is the one of `g`
  obtain ⟨w, hw⟩ : ∃ w, reservation (own g.who old') = some w := by
    apply Option.isSome_iff_exists.mp
    rcases hev with ⟨k', ttl', w, u, hy⟩ | ⟨k', raw, b, hy, hres⟩
    · rw [hy] at hcall
      obtain ⟨hkey', -, -, hent, -⟩ := hcall
      rcases hent with hnone | hsome | ⟨ev, hmem, hfailed⟩
      · rw [hnone] at hkey'
        cases hkey'
      · exact hsome
      · have hmem' : ev ∈ own g.who c.log := by
          rw [hown]
          exact List.mem_append_right _ (List.mem_cons_of_mem _ hmem)
        rw [own_not_failed hreach hmem'] at hfailed
        cases hfailed
    · rw [hres]
      rfl
  obtain ⟨k', ttl', hmem⟩ := granted_of_reservation hw
  obtain ⟨g', hg', hgwho, hgev⟩ := mem_own.mp hmem
  have hevent : (∃ ttl w u, y.event = setexEvent k ttl w (.ok u)) ∨
      ∃ b, y.event = cadEvent k v (.ok b) := by
    rcases hev with ⟨k'', ttl'', w', u, hy⟩ | ⟨k'', raw, b, hy, hres⟩
    · rw [hy] at hcall
      obtain rfl := Option.some.inj (hkey.symm.trans hcall.1)
      exact .inl ⟨ttl'', w', u, hy⟩
    · rw [hy] at hcall
      obtain rfl := Option.some.inj (hkey.symm.trans hcall.1)
      obtain rfl := Option.some.inj (hres.symm.trans hw)
      have hgmem : g ∈ c.log := by
        rw [hsplit]
        simp
      have hgmem' : g' ∈ c.log := by
        rw [hlog]
        exact List.mem_append_right _ (List.mem_cons_of_mem _ hg')
      obtain rfl := grant_unique hreach hgmem hgmem' hgrant hgev hgwho
      exact .inr ⟨b, hy⟩
  have hne : y ≠ g := by
    rintro rfl
    rw [hgrant] at hevent
    rcases hevent with ⟨ttl, w, u, heq⟩ | ⟨b, heq⟩ <;> cases heq
  rcases List.append_eq_append_iff.mp (hlog.symm.trans hsplit) with
    ⟨mid, hmid, hrest⟩ | ⟨mid, hmid, hrest⟩
  · rcases mid with - | ⟨y', mid⟩
    · exact absurd (List.cons.inj hrest).1 hne
    · obtain ⟨rfl, -⟩ := List.cons.inj hrest
      exact ⟨y, newer', mid, hmid, hwho, hevent⟩
  · rcases mid with - | ⟨g'', mid⟩
    · exact absurd (List.cons.inj hrest).1.symm hne
    · obtain ⟨rfl, rfl⟩ := List.cons.inj hrest
      have hearlier : setNxEvent k' w ttl' (.ok true) ∈ own g.who (mid ++ y :: old') :=
        mem_own.mpr ⟨g', by simp [hg'], hgwho, hgev⟩
      exact absurd hearlier (grant_first hreach hsplit hgrant)

/-- An owner whose text is where it put it has not settled. -/
theorem unsettled_of_stored {k : String} {v : Raw} {ttl : ℤ} {since older : HostLog K ι}
    {g : HostEntry K ι} (hsplit : c.log = since ++ g :: older) (hstores : Stores g k v ttl)
    (hlive : c.state.data.lookup c.state.now (.idem k) = some v)
    (hsame : ∀ y ∈ since, y.after.data (.idem k) = y.before.data (.idem k)) :
    hasSettled (own g.who c.log) = false := by
  by_contra hsettled
  have hgmem : g ∈ c.log := by
    rw [hsplit]
    simp
  obtain ⟨y, later, between, rfl, -, hev⟩ := settled_after hreach hsplit
    (granted_of_stores hreach hgmem hstores) (Bool.not_eq_false _ ▸ hsettled)
  have hsplit_y : c.log = later ++ y :: (between ++ g :: older) := by simpa using hsplit
  have htraced := hreach.traced rfl
  rw [hsplit_y] at htraced
  have hslot : c.state.data (.idem k) = y.after.data (.idem k) :=
    htraced.unchanged (steady_slot (.idem k)) fun z hz => hsame z (by simp [hz])
  have hbefore : y.after.data (.idem k) = y.before.data (.idem k) := hsame y (by simp)
  obtain ⟨x, hx, halive, rfl⟩ := live_eq_some.mp hlive
  have hsmooth : smooth y.event = true := by
    apply hreach.holds
    rw [hsplit_y]
    simp
  rcases hev with ⟨ttl', w, u, hev⟩ | ⟨b, hev⟩
  · obtain ⟨ttl'', w', hafter, hterm⟩ :=
      slot_of_writes hreach hsplit_y ⟨ttl', w, _, hev, .inl rfl⟩
    obtain rfl := Option.some.inj (hx.symm.trans (hslot.trans hafter))
    obtain ⟨fp, hbuild⟩ := building_of_stores hreach hsplit hstores
    exact not_terminal (.inl hbuild.state) hterm
  · obtain ⟨-, hafter⟩ := exec_of_log hreach rfl hsplit_y hev hsmooth
    have hle : y.before.now ≤ c.state.now := htraced.before_le rising_now (by simp)
    have hlookup : y.before.data.lookup y.before.now (.idem k) = some x.val := by
      rw [Store.lookup, ← hbefore, ← hslot, hx, live_some]
      exact if_pos (x.alive_mono hle halive)
    have hgone : y.after.data (.idem k) = none := by
      rw [hafter, exec, if_pos hlookup]
      exact Store.erase_self
    rw [hslot, hgone] at hx
    cases hx

/-- **An owner whose text is where it put it has not ended.** -/
theorem running_of_stored {k : String} {v : Raw} {ttl : ℤ} {since older : HostLog K ι}
    {g : HostEntry K ι} (hsplit : c.log = since ++ g :: older) (hstores : Stores g k v ttl)
    (hlive : c.state.data.lookup c.state.now (.idem k) = some v)
    (hsame : ∀ y ∈ since, y.after.data (.idem k) = y.before.data (.idem k)) :
    ∃ o rest, c.thread g.who = .call o rest := by
  have hunsettled := unsettled_of_stored hreach hsplit hstores hlive hsame
  have hgmem : g ∈ c.log := by
    rw [hsplit]
    simp
  have hsome : (reservation (own g.who c.log)).isSome = true :=
    reservation_of_granted (mem_own.mpr ⟨g, hgmem, rfl, granted_of_stores hreach hgmem hstores⟩)
  have hreserved : ∀ {hs}, Tracks (ctx g.who) (command g.who).key? hs (own g.who c.log) →
      (standingOf (command g.who).key? hs).reserved.isSome = true := by
    intro hs hT
    rw [hT.reserved] at hsome
    cases hr : (standingOf (command g.who).key? hs).reserved with
    | none =>
        rw [hr] at hsome
        cases hsome
    | some r => rfl
  rcases ht : c.thread g.who with result | e | ⟨o, rest⟩
  · obtain ⟨hs, hT, -, hover⟩ := order_post hreach (show c.thread g.who = .ofExcept (.ok result) from ht)
    rcases hT.settled (hover (hreserved hT)) (hreserved hT) with hset | ⟨ev, hmem, hfailed, -⟩
    · rw [hunsettled] at hset
      cases hset
    · rw [own_not_failed hreach hmem] at hfailed
      cases hfailed
  · -- no exception gets out as long as no call fails
    exfalso
    obtain ⟨hs, hT, hend⟩ := order_post hreach (show c.thread g.who = .ofExcept (.error e) from ht)
    rcases hend with hstage | ⟨hnone, -, -⟩
    · rcases hT.failures with ⟨x, -, hesc⟩ | ⟨hnot, -⟩
      · obtain ⟨ev, hmem, hfailed⟩ : ∃ ev ∈ own g.who c.log, ev.failed = true := by
          rcases hesc with ⟨-, cmd, -, hmem⟩ | ⟨stage, hmem⟩
          · exact ⟨_, hmem, rfl⟩
          · exact ⟨_, hmem, rfl⟩
        rw [own_not_failed hreach hmem] at hfailed
        cases hfailed
      · exact hnot e hstage.1
    · have hsome' := hreserved hT
      rw [hnone] at hsome'
      cases hsome'
  · exact ⟨o, rest, rfl⟩

/-! ### The answers -/

/-- A record that is read is one of a running request, or older than the run. -/
theorem ofAnother_of_read {k : String} {v : Raw} {i : ι} {newer old : HostLog K ι}
    {e : HostEntry K ι} (hsplit : c.log = newer ++ e :: old)
    (hlookup : e.before.data.lookup e.before.now (.idem k) = some v)
    (hproc : v.state = idemStateProcessing) (hnone : reservation (own i c.log) = none) :
    OfAnother (ordersAt ctx startedAt command s₀) k v i e old := by
  obtain ⟨c₁, hreach₁, hstate, hlog, -⟩ := hreach.before rfl hsplit
  obtain ⟨x, hx, halive, rfl⟩ := live_eq_some.mp hlookup
  have htraced := hreach₁.traced rfl
  rw [hstate] at htraced
  rcases htraced.last_change (steady_slot (.idem k)) with
    ⟨hstart, -⟩ | ⟨since, g, older, hlog₁, hslot, hchange, hrest⟩
  · exact .inr ⟨x.expireAt, hstart.symm.trans hx⟩
  · rw [hx] at hslot
    rcases change_cases hreach₁ hlog₁ hchange with
      ⟨fp, w, hstores, -⟩ | hwrites | ⟨w, r, -, -, hafter⟩
    · have hval : x = ⟨w, some (g.before.now + (ctx g.who).idemPendingTtlSec)⟩ :=
        Option.some.inj (hslot.trans hstores.2.2)
      have hw : w = x.val := by rw [hval]
      subst hw
      refine .inl ⟨g, ?_, ?_, ⟨_, hstores⟩, c₁, hreach₁, hstate, hlog, ?_⟩
      · rw [← hlog, hlog₁]
        simp
      · -- `i` was granted nothing
        rintro rfl
        have hmem : g ∈ c.log := by
          rw [hsplit, ← hlog, hlog₁]
          simp
        have hsome := reservation_of_granted
          (mem_own.mpr ⟨g, hmem, rfl, granted_of_stores hreach hmem hstores⟩)
        rw [hnone] at hsome
        cases hsome
      · refine running_of_stored hreach₁ hlog₁ hstores ?_ hrest
        rw [hstate]
        exact hlookup
    · obtain ⟨ttl, w, hafter, hterm⟩ := slot_of_writes hreach₁ hlog₁ hwrites
      obtain rfl := Option.some.inj (hslot.trans hafter)
      exact absurd hterm (not_terminal (.inl hproc))
    · rw [hafter] at hslot
      cases hslot

theorem foundProcessing_of_backed {i : ι} {k : String}
    (hbacked : Backed (ordersAt ctx startedAt command s₀) (ctx i) k i c.log) :
    FoundProcessing (ctx i) k i c.log := by
  obtain ⟨newer, e, old, v, hsplit, hlast, hlookup, hproc, hfresh, -⟩ := hbacked
  obtain ⟨-, ⟨found, hev⟩, -⟩ := id hlast
  have hfound := lookup_of_read hreach hsplit hev
  rw [hlookup] at hfound
  exact ⟨newer, e, old, v, hsplit, hlast, hfound ▸ hev, hproc, hfresh⟩

/-- **When an answer "processing" is backed.**  In every interleaving of any requests
whose calls succeed, a request that answers 202 with the status processing is
backed by a PROCESSING record of another request that has not ended, at its last
read of the key, exactly when that read has found a PROCESSING record that had
not expired. -/
theorem backed_iff_foundProcessing {i : ι} {k : String} {result : ServiceResult}
    (ht : c.thread i = .ret result) (hanswers : SaysProcessing result) :
    Backed (ordersAt ctx startedAt command s₀) (ctx i) k i c.log ↔
      FoundProcessing (ctx i) k i c.log := by
  refine ⟨foundProcessing_of_backed hreach, ?_⟩
  rintro ⟨newer, e, old, v, hsplit, hlast, hev, hproc, hfresh⟩
  have hlookup := lookup_of_read hreach hsplit hev
  have hnone : reservation (own i c.log) = none := by
    obtain ⟨hs, hT, hend⟩ := order_post hreach (show c.thread i = .ofExcept (.ok result) from ht)
    rw [hT.reserved, unreserved_of_processing hend hanswers]
    rfl
  exact ⟨newer, e, old, v, hsplit, hlast, hlookup, hproc, hfresh,
    ofAnother_of_read hreach hsplit hlookup hproc hnone⟩

end Run

/-! ### A record that ran out -/

/-- The settings of `plainCtx`, with rounds to poll. -/
def pollingCtx : Ctx ℚ := { plainCtx with maxPolls := 12 }

/-- Two requests for one order with the key `k`, on an empty store. -/
def waitingOrders : Config (HostSig ℚ) Exc ServiceResult (HostState ℚ) Bool :=
  ordersAt (fun _ => pollingCtx) (fun _ => 0) (fun _ => ⟨some "a", 1, some "k"⟩)
    ⟨fun _ => none, 0, []⟩

/-- Request `true` is refused the key by the reservation of request `false`, which runs
out before `true` reads it. -/
def runOutRun : Option (Config (HostSig ℚ) Exc ServiceResult (HostState ℚ) Bool) :=
  waitingOrders.run (hostWorld ℚ)
    [.call false (.reading 0), .call false (.fresh "a"), .call false .done, .call false .done,
      .drift (14 : ℚ), .call true (.reading 14), .call true (.fresh "b"), .call true .done,
      .call true .done, .drift (16 : ℚ), .call true .done, .call true .done,
      .call true (.reading 16), .call true (.reading 16), .call true .done, .call true .done]

theorem runOutRun_isSome : runOutRun.isSome = true := by decide +kernel

theorem runOutRun_reach :
    Reach (hostWorld ℚ) FirstTry waitingOrders (runOutRun.get runOutRun_isSome) := by
  have hsmooth : ((runOutRun.get runOutRun_isSome).log.all fun e => smooth e.event) = true := by
    decide +kernel
  refine Reach.of_run (Q := fun l => ∀ e ∈ l, smooth e.event = true) ?_ (.start ?_)
    (Option.some_get runOutRun_isSome).symm (List.all_eq_true.mp hsmooth)
  · exact fun new l h e he => h e (List.mem_append_right new he)
  · exact fun e he => absurd he List.not_mem_nil

/-- Whether the request has answered "processing". -/
def answersProcessing : Prog (HostSig ℚ) Exc ServiceResult → Bool
  | .ret result => result.statusCode == 202 && Dict.get result.body "status" == .str "processing"
  | _ => false

theorem runOutRun_answers : ∃ result,
    (runOutRun.get runOutRun_isSome).thread true = .ret result ∧ SaysProcessing result := by
  have hends : answersProcessing ((runOutRun.get runOutRun_isSome).thread true) = true := by
    decide +kernel
  unfold answersProcessing at hends
  split at hends
  · next result hthread =>
      obtain ⟨hstatus, hbody⟩ := (Bool.and_eq_true _ _).mp hends
      exact ⟨result, hthread, eq_of_beq hstatus, eq_of_beq hbody⟩
  · cases hends

/-- Whether this is a read that found a text. -/
def findsText (e : HostEntry ℚ Bool) : Bool :=
  match e.event with
  | ⟨.redis (.get (.idem _)), .ok (some _)⟩ => true
  | _ => false

theorem runOutRun_unfound : ¬ FoundProcessing pollingCtx "k" true
    (runOutRun.get runOutRun_isSome).log := by
  have hnone : ((runOutRun.get runOutRun_isSome).log.all fun e => !findsText e) = true := by
    decide +kernel
  rintro ⟨newer, e, old, v, hsplit, -, hev, -⟩
  have he := List.all_eq_true.mp hnone e (by rw [hsplit]; simp)
  unfold findsText at he
  rw [hev] at he
  cases he

/-- A request answers that the order is being processed, and nobody holds the key. -/
theorem not_backed_runOut :
    ¬ ∀ c i result, Reach (hostWorld ℚ) FirstTry waitingOrders c → c.thread i = .ret result →
      SaysProcessing result → Backed waitingOrders pollingCtx "k" i c.log := by
  intro hall
  obtain ⟨result, ht, hanswers⟩ := runOutRun_answers
  exact runOutRun_unfound
    (foundProcessing_of_backed runOutRun_reach (hall _ true result runOutRun_reach ht hanswers))

theorem backed_iff_runOut :
    ¬ Backed waitingOrders pollingCtx "k" true (runOutRun.get runOutRun_isSome).log := by
  obtain ⟨result, ht, hanswers⟩ := runOutRun_answers
  exact fun hbacked =>
    runOutRun_unfound ((backed_iff_foundProcessing runOutRun_reach ht hanswers).mp hbacked)

end ChaosDemo
