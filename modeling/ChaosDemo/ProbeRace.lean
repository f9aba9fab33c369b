/-
ChaosDemo/ProbeRace.lean

`allow_request` reads open_until with one command and takes the probe with
another.  Whether the breaker is still half-open when the `SET NX` takes effect
depends on what the other clients do in between.

Two things must be right for it: the client's own `GET` must have shown a
positive open_until (`get_state` also answers HALF_OPEN when open_until is 0 and
the probe key is there), and nobody may have written open_until since that `GET`.
`acquiredHalfOpen_iff` says that these two are exactly what is needed, in every
run; in `raceRun` the second one fails and a request is admitted while the
breaker is open.
-/
import ChaosDemo.BreakerClient

set_option linter.unusedSectionVars false

namespace ChaosDemo

open CallTree Keyspace

variable {K : Type} [Field K] [LinearOrder K] [IsStrictOrderedRing K] [FloorRing K]
variable {ι : Type} [DecidableEq ι]

/-! ### Since the client asked -/

/-- `e` is a `GET` of open_until by client `i`. -/
def askedBy (keys : BreakerKeys) (i : ι) (e : HostEntry K ι) : Bool :=
  decide (e.who = i) && e.event.op.asks keys

/-- The calls served since client `i` read open_until. -/
def sinceAsked (keys : BreakerKeys) (i : ι) (l : HostLog K ι) : HostLog K ι :=
  l.takeWhile fun e => !askedBy keys i e

/-- What `get_open_until` makes of the answer to a `GET`. -/
def openUntilAnswer : HostEvent K → K
  | ⟨.redis (.get (.openUntil _)), .ok r⟩ => r.getD 0
  | _ => 0

/-- The open_until that client `i` saw last. -/
def openUntilSeen (keys : BreakerKeys) (i : ι) (l : HostLog K ι) : K :=
  match l.find? (askedBy keys i) with
  | some e => openUntilAnswer e.event
  | none => 0

/-- Nobody has written open_until since client `i` read it. -/
def Unwritten (keys : BreakerKeys) (i : ι) (l : HostLog K ι) : Prop :=
  ∀ x ∈ sinceAsked keys i l, x.after.data (.openUntil keys) = x.before.data (.openUntil keys)

/-- The call `e`, made after the calls `old`, took effect while the breaker was
half-open, and it had been neither re-opened nor closed since the client read
its state. -/
def AcquiredHalfOpen (keys : BreakerKeys) (e : HostEntry K ι) (old : HostLog K ι) : Prop :=
  0 < e.before.openUntil keys ∧ e.before.openUntil keys ≤ e.before.now ∧
    Unwritten keys e.who old

/-- A clock reading is not ahead of the true time. -/
def onTime (e : HostEntry K ι) : Bool :=
  match e.event with
  | ⟨.time, .ok t⟩ => decide (t ≤ e.before.now)
  | _ => true

/-- No clock of a client is ahead of the server's. -/
def TrueClocks (_ : HostState K) (l : HostLog K ι) : Prop := ∀ e ∈ l, onTime e = true

theorem TrueClocks.le {s : HostState K} {l : HostLog K ι} (h : TrueClocks s l)
    {e : HostEntry K ι} (he : e ∈ l) {t : K} (hev : e.event = timeEvent t) : t ≤ e.before.now := by
  have hon := h e he
  rw [onTime, hev] at hon
  exact of_decide_eq_true hon

section Asked

variable {keys : BreakerKeys} {i : ι} {new old : HostLog K ι} {g : HostEntry K ι} {r : Option K}

theorem asks_of_openUntilEvent (hg : g.event = openUntilEvent keys r) :
    g.event.op.asks keys = true := by
  rw [hg]
  show decide (keys = keys) = true
  exact decide_eq_true rfl

/-- Where the last `GET` is known, so is what came since. -/
theorem sinceAsked_append (old : HostLog K ι) (hi : g.who = i) (hg : g.event = openUntilEvent keys r)
    (hnew : ∀ x ∈ new, askedBy keys i x = false) :
    sinceAsked keys i (new ++ g :: old) = new ∧
      openUntilSeen keys i (new ++ g :: old) = r.getD 0 := by
  have hasked : askedBy keys i g = true := by
    rw [askedBy, asks_of_openUntilEvent hg, decide_eq_true hi]
    rfl
  constructor
  · have htake : ∀ x ∈ new, (!askedBy keys i x) = true := by
      intro x hx
      rw [hnew x hx]
      rfl
    rw [sinceAsked, List.takeWhile_append_of_pos htake, List.takeWhile_cons_of_neg, List.append_nil]
    simp [hasked]
  · have hnone : new.find? (askedBy keys i) = none := by
      apply List.find?_eq_none.mpr
      intro x hx
      simp [hnew x hx]
    rw [openUntilSeen, List.find?_append, hnone, List.find?_cons_of_pos hasked]
    show openUntilAnswer g.event = r.getD 0
    rw [hg]
    rfl

theorem Untimed.openUntil_eq {s : HostState K} (hs : Untimed keys s) :
    s.openUntil keys = ((s.data (.openUntil keys)).map Timed.val).getD 0 := by
  rw [HostState.openUntil, Store.lookup]
  cases hslot : s.data (.openUntil keys) with
  | none => rfl
  | some x =>
      have halive : x.alive s.now = true := by
        rw [Timed.alive, hs x hslot]
      rw [live_some, if_pos halive]
      rfl

/-- A `GET` that was answered shows what is stored, and leaves it. -/
theorem served_openUntil {s s' : HostState K} {x : HostChoice K}
    (h : (hostWorld K).serve s (.redis (.get (.openUntil keys))) x = some (.ok r, s')) :
    r.getD 0 = s.openUntil keys ∧ s' = s := by
  rcases serve_redis h with ⟨hr, rfl⟩ | ⟨e, hr, -⟩
  · obtain rfl := Except.ok.inj hr
    exact ⟨rfl, rfl⟩
  · cases hr

end Asked

/-! ### Runs -/

theorem probeClient_serves (P : HostState K → HostLog K ι → Prop) (ctx : ι → Ctx K)
    (keys : BreakerKeys) : Serves (hostWorld K) P fun i => probeClient (ctx i) keys :=
  fun _ _ _ _ _ _ _ hs _ => hostReply_of_serve hs

section Runs

variable {P : HostState K → HostLog K ι → Prop} {ctx : ι → Ctx K}
  {rule : ι → CircuitBreakerRule K} {calls : ι → List BreakerCall} {s₀ : HostState K}
  {c : Config (HostSig K) Exc Unit (HostState K) ι} {keys : BreakerKeys}

theorem breakersAt_obeys (ctx : ι → Ctx K) (rule : ι → CircuitBreakerRule K)
    (calls : ι → List BreakerCall) (s : HostState K) (keys : BreakerKeys) (i : ι) :
    Obeys (probeClient (ctx i) keys) ((breakersAt ctx rule calls s).thread i)
      (fun _ _ => True) [] := by
  apply run_client
  intro hprobe
  cases hprobe

/-- What a call in the log did to the probe key. -/
theorem probeStep_of_reach (keys : BreakerKeys)
    (hreach : Reach (hostWorld K) P (breakersAt ctx rule calls s₀) c)
    {new old : HostLog K ι} {e : HostEntry K ι} (hsplit : c.log = new ++ e :: old) :
    ProbeStep (ctx e.who) keys (own e.who old) e.before e.event e.after := by
  have hcall := hreach.allowed (probeClient_serves P ctx keys) rfl
    (fun i => breakersAt_obeys ctx rule calls s₀ keys i) new e old hsplit
  have htraced := hreach.traced rfl
  rw [hsplit] at htraced
  obtain ⟨-, x, hs⟩ := htraced.before
  exact (served_of_serve hs).probeStep hcall

theorem untimed_of_reach (hreach : Reach (hostWorld K) P (breakersAt ctx rule calls s₀) c)
    (hstart : Untimed keys s₀) : Untimed keys c.state := by
  let Inv : HostState K → HostLog K ι → Prop := fun s _ => Untimed keys s
  refine (hreach.invariant (probeClient_serves P ctx keys) rfl
    (fun i => breakersAt_obeys ctx rule calls s₀ keys i) (fun _ => hstart) ?_ ?_ : Inv _ _)
  · intro s l d s' hinv _ _ hd
    obtain ⟨-, rfl⟩ := drift_cases hd
    exact hinv
  · intro s l i o x r s' hinv _ _ hcall hs
    exact (served_of_serve hs).untimed hcall hinv

end Runs

/-- **When a probe is admitted while the breaker is half-open.**  In every run,
and for every `SET NX` on the probe key that was granted: the breaker was
half-open at that moment and untouched since the client read its state, exactly
if the client saw a positive open_until and nobody has written it since. -/
theorem acquiredHalfOpen_iff {ctx : ι → Ctx K} {rule : ι → CircuitBreakerRule K}
    {calls : ι → List BreakerCall} {s₀ : HostState K}
    {c : Config (HostSig K) Exc Unit (HostState K) ι} (keys : BreakerKeys)
    (hstart : Untimed keys s₀)
    (hreach : Reach (hostWorld K) TrueClocks (breakersAt ctx rule calls s₀) c)
    {new old : HostLog K ι} {e : HostEntry K ι} (hsplit : c.log = new ++ e :: old)
    (hacquires : acquires keys e.event = true) :
    AcquiredHalfOpen keys e old ↔ 0 < openUntilSeen keys e.who old ∧ Unwritten keys e.who old := by
  obtain ⟨c₁, hreach₁, hstate, rfl, -⟩ := hreach.before rfl hsplit
  -- the protocol lets the client acquire only after it asked
  have hasked : Asked keys (own e.who c₁.log) := by
    have hstep := probeStep_of_reach keys hreach hsplit
    generalize he : e.event = ev at hstep hacquires
    cases hstep with
    | acquired _ _ hasked _ _ _ => exact hasked
    | released _ ks _ _ _ _ => cases hacquires
    | kept _ _ _ hno => exact absurd hacquires (by simp [hno])
  obtain ⟨hnew, r, hold, t, hown, hsince, htime, hle⟩ := hasked
  obtain ⟨between, g, before, hlog, hwho, hevent, rfl, rfl⟩ := own_eq_append hown
  have hbetween : ∀ x ∈ between, askedBy keys e.who x = false := by
    intro x hx
    by_cases hi : x.who = e.who
    · have hmem : x.event ∈ own e.who between := mem_own.mpr ⟨x, hx, hi, rfl⟩
      rw [askedBy, hsince x.event hmem, Bool.and_false]
    · rw [askedBy, decide_eq_false hi, Bool.false_and]
  obtain ⟨htake, hseen⟩ := sinceAsked_append before hwho hevent hbetween
  rw [← hlog] at htake hseen
  -- what the client saw is what is stored, if nobody has written since
  have hsame : Unwritten keys e.who c₁.log → r.getD 0 = e.before.openUntil keys := by
    intro hunwritten
    have htraced := hreach₁.traced rfl
    rw [hlog] at htraced
    obtain ⟨c₂, hreach₂, hstate₂, -, -⟩ := hreach₁.before rfl hlog
    have hslot : c₁.state.data (.openUntil keys) = g.after.data (.openUntil keys) := by
      have hsteady : Steady (hostWorld K) fun s : HostState K => s.data (.openUntil keys) :=
        fun s d s' hd => congrFun (steady_data s d s' hd) _
      apply htraced.unchanged hsteady
      intro x hx
      exact hunwritten x (htake ▸ hx)
    obtain ⟨-, x, hserve⟩ := htraced.before
    obtain ⟨who, ev, b, a⟩ := g
    dsimp only at hevent hserve hslot hstate₂
    subst hevent
    obtain ⟨hr, rfl⟩ := served_openUntil hserve
    rw [hr, ← hstate]
    have hu₁ : Untimed keys c₁.state := untimed_of_reach hreach₁ hstart
    have hu₂ : Untimed keys a := hstate₂ ▸ untimed_of_reach hreach₂ hstart
    rw [hu₁.openUntil_eq, hu₂.openUntil_eq, hslot]
  constructor
  · rintro ⟨hpos, -, hunwritten⟩
    refine ⟨?_, hunwritten⟩
    rw [hseen, hsame hunwritten]
    exact hpos
  · rintro ⟨hpos, hunwritten⟩
    have heq := hsame hunwritten
    rw [hseen, heq] at hpos
    refine ⟨hpos, ?_, hunwritten⟩
    -- the clock reading is in the past
    obtain ⟨x, hx, -, htime⟩ := mem_own.mp htime
    have hmem : x ∈ c₁.log := by
      rw [hlog]
      exact List.mem_append_right _ (List.mem_cons_of_mem _ hx)
    calc e.before.openUntil keys = r.getD 0 := heq.symm
      _ ≤ t := hle
      _ ≤ x.before.now := hreach₁.holds.le hmem htime
      _ ≤ c₁.state.now := (hreach₁.traced rfl).before_le rising_now hmem
      _ = e.before.now := by rw [hstate]

/-! ### The race -/

/-- A store in which open_until has run out. -/
def halfOpenState (keys : BreakerKeys) (openUntil now : ℚ) : HostState ℚ :=
  ⟨Store.put (fun _ => none) (.openUntil keys) openUntil none, now, []⟩

theorem halfOpenState_untimed (keys : BreakerKeys) (openUntil now : ℚ) :
    Untimed keys (halfOpenState keys openUntil now) := by
  intro x hx
  rw [halfOpenState] at hx
  dsimp only at hx
  rw [Store.put_self] at hx
  cases hx
  rfl

/-- Client `true` finds the breaker half-open; before it asks for the probe,
client `false`, which has the probe, records its failure. -/
def raceRun : Option (Config (HostSig ℚ) Exc Unit (HostState ℚ) Bool) :=
  (breakersAt (fun _ => defaultCtx) (fun _ => buildDefaultRule defaultCtx)
    (fun _ => [.allowRequest, .record .failure]) (halfOpenState .legacy 5 10)).run (hostWorld ℚ)
    [.call false (.reading 10), .call false .done, .call false .done,
      .call true (.reading 10), .call true .done,
      .call false (.reading 10), .call false .done, .call false .done, .call true .done]

theorem raceRun_isSome : raceRun.isSome = true := by decide +kernel

theorem raceRun_reach : Reach (hostWorld ℚ) TrueClocks
    (breakersAt (fun _ => defaultCtx) (fun _ => buildDefaultRule defaultCtx)
      (fun _ => [.allowRequest, .record .failure]) (halfOpenState .legacy 5 10))
    (raceRun.get raceRun_isSome) := by
  have htimes : ((raceRun.get raceRun_isSome).log.all onTime) = true := by decide +kernel
  refine Reach.of_run (Q := fun l => ∀ e ∈ l, onTime e = true) ?_ (.start ?_)
    (Option.some_get raceRun_isSome).symm ?_
  · exact fun new l h e he => h e (List.mem_append_right new he)
  · exact fun e he => absurd he List.not_mem_nil
  · exact List.all_eq_true.mp htimes

/-- **A request is admitted while the breaker is open.** -/
theorem admitted_while_open : ∃ c : Config (HostSig ℚ) Exc Unit (HostState ℚ) Bool,
    Reach (hostWorld ℚ) TrueClocks
      (breakersAt (fun _ => defaultCtx) (fun _ => buildDefaultRule defaultCtx)
        (fun _ => [.allowRequest, .record .failure]) (halfOpenState .legacy 5 10)) c ∧
      ∃ e old, c.log = e :: old ∧ acquires .legacy e.event = true ∧
        e.before.now < e.before.openUntil .legacy ∧ ¬ AcquiredHalfOpen .legacy e old := by
  have hne : (raceRun.get raceRun_isSome).log ≠ [] := by
    intro hnil
    have hlength : (raceRun.get raceRun_isSome).log.length = 9 := by decide +kernel
    rw [hnil] at hlength
    cases hlength
  have hlate : (((raceRun.get raceRun_isSome).log.head?.any fun e =>
      acquires .legacy e.event && decide (e.before.now < e.before.openUntil .legacy))) = true := by
    decide +kernel
  refine ⟨_, raceRun_reach, ?_⟩
  generalize (raceRun.get raceRun_isSome).log = l at hne hlate
  obtain ⟨e, old, rfl⟩ := List.exists_cons_of_ne_nil hne
  have hboth : acquires .legacy e.event = true ∧ e.before.now < e.before.openUntil .legacy := by
    simpa using hlate
  refine ⟨e, old, rfl, hboth.1, hboth.2, ?_⟩
  rintro ⟨-, hle, -⟩
  exact absurd hle (not_le.mpr hboth.2)

/-- In the same run client `false` was admitted as the rule asks for: it saw 5, and
nobody wrote open_until before its `SET NX`. -/
theorem acquiredHalfOpen_first : ∃ new e old, (raceRun.get raceRun_isSome).log = new ++ e :: old ∧
    new.length = 6 ∧ AcquiredHalfOpen .legacy e old := by
  have hfirst : ((((raceRun.get raceRun_isSome).log.drop 6).head?.any fun e =>
      acquires .legacy e.event && decide (e.who = false))) = true := by decide +kernel
  have hseen : 0 < openUntilSeen .legacy false ((raceRun.get raceRun_isSome).log.drop 7) := by
    decide +kernel
  have hlength : ((raceRun.get raceRun_isSome).log.take 6).length = 6 := by decide +kernel
  have hsince : (sinceAsked .legacy false ((raceRun.get raceRun_isSome).log.drop 7)).length = 0 := by
    decide +kernel
  have hreach := raceRun_reach
  have hsplit := List.take_append_drop 6 (raceRun.get raceRun_isSome).log
  rw [← List.drop_drop (i := 1)] at hseen hsince
  cases hdrop : (raceRun.get raceRun_isSome).log.drop 6 with
  | nil =>
      rw [hdrop] at hfirst
      cases hfirst
  | cons e old =>
      rw [hdrop] at hfirst hseen hsince hsplit
      have hboth : acquires .legacy e.event = true ∧ e.who = false := by simpa using hfirst
      refine ⟨_, e, old, hsplit.symm, hlength, ?_⟩
      apply (acquiredHalfOpen_iff .legacy ?_ hreach hsplit.symm hboth.1).mpr
      · rw [hboth.2]
        have hnil : sinceAsked .legacy false old = [] := List.eq_nil_of_length_eq_zero hsince
        refine ⟨hseen, fun x hx => ?_⟩
        rw [hnil] at hx
        cases hx
      · exact halfOpenState_untimed .legacy 5 10

end ChaosDemo
