/-
ChaosDemo/BreakerClient.lean

Clients of a circuit breaker on one server, interleaved call by call.  A client
has its own `CircuitBreaker` instance and makes any calls on it in turn; a call
that raises is its last one, as in `create_order`.

The probe key carries no owner, so who holds the probe is a fact about the
clients' histories alone:

    Asked keys h     the client's last GET of open_until, and a clock reading
                     before it that was not below the answer
    holding keys h   the client's SET NX was granted and it has sent no DEL

`probeClient` is what every client keeps to: it asks for the probe only after
`Asked`, and deletes the probe key only while `holding`.
-/
import ChaosDemo.BreakerProtocol
import ChaosDemo.StoreClient

set_option linter.unusedSectionVars false

namespace ChaosDemo

open CallTree Keyspace

variable {K : Type} [Field K] [LinearOrder K] [IsStrictOrderedRing K] [FloorRing K]
variable {ι : Type}

/-! ### Clients -/

/-- A call on a breaker instance. -/
inductive BreakerCall
  | allowRequest
  | record (action : Action)

/-- The calls of a client on its instance, whatever it makes of the results. -/
def CircuitBreaker.run (ctx : Ctx K) : List BreakerCall → CircuitBreaker K → Host K Unit
  | [], _ => pure ()
  | .allowRequest :: calls, b => do
      let (_, b) ← b.allowRequest ctx
      b.run ctx calls
  | .record action :: calls, b => do
      let (_, b) ← b.record ctx action
      b.run ctx calls

/-- Clients with an instance of their own each. -/
def breakersAt (ctx : ι → Ctx K) (rule : ι → CircuitBreakerRule K) (calls : ι → List BreakerCall)
    (s : HostState K) : Config (HostSig K) Exc Unit (HostState K) ι :=
  ⟨s, fun i => (CircuitBreaker.init (rule i)).run (ctx i) (calls i), []⟩

/-! ### Events -/

/-- The `SET NX` on the probe key was granted. -/
def acquires (keys : BreakerKeys) : HostEvent K → Bool
  | ⟨.redis (.setNxEx (.probe keys') _ _), .ok true⟩ => decide (keys' = keys)
  | _ => false

/-- The `DEL` of the probe key. -/
def HostOp.releases (keys : BreakerKeys) : HostOp K → Bool
  | .redis (.delete ks) => decide (Key.probe keys ∈ ks)
  | _ => false

/-- The `GET` of open_until. -/
def HostOp.asks (keys : BreakerKeys) : HostOp K → Bool
  | .redis (.get (.openUntil keys')) => decide (keys' = keys)
  | _ => false

/-- The client is between its granted `SET NX` and its `DEL`. -/
def holding (keys : BreakerKeys) : HostHistory K → Bool
  | [] => false
  | e :: h =>
      if acquires keys e then true
      else if e.op.releases keys then false
      else holding keys h

/-- The last `GET` of open_until answered `r`, and a clock reading before it was
not below. -/
def Asked (keys : BreakerKeys) (h : HostHistory K) : Prop :=
  ∃ new r old t, h = new ++ openUntilEvent keys r :: old ∧
    (∀ e ∈ new, e.op.asks keys = false) ∧ timeEvent t ∈ old ∧ r.getD 0 ≤ t

theorem holding_cons {keys : BreakerKeys} {h : HostHistory K} {e : HostEvent K}
    (hh : holding keys h = true) (he : e.op.releases keys = false) :
    holding keys (e :: h) = true := by
  show (if acquires keys e then true
    else if e.op.releases keys then false else holding keys h) = true
  rw [he, hh]
  simp

theorem Asked.cons {keys : BreakerKeys} {h : HostHistory K} {e : HostEvent K}
    (hasked : Asked keys h) (he : e.op.asks keys = false) : Asked keys (e :: h) := by
  obtain ⟨new, r, old, t, rfl, hnew, hmem, hle⟩ := hasked
  refine ⟨e :: new, r, old, t, rfl, ?_, hmem, hle⟩
  intro e' he'
  rcases List.mem_cons.mp he' with rfl | hold
  · exact he
  · exact hnew e' hold

/-! ### The protocol -/

/-- A client of the breakers. -/
def probeClient (ctx : Ctx K) (keys : BreakerKeys) : Protocol (HostSig K) Exc where
  mayCall h o := match o with
    | .redis (.setNxEx (.probe keys') _ ex) =>
        keys' = keys → ex = ctx.circuitProbeTtlSec ∧ Asked keys h
    | .redis (.setNxEx _ _ _) => False
    | .redis (.setex _ _ _) => False
    | .redis (.delete ks) => Key.probe keys ∈ ks → holding keys h = true
    | .redis c => Key.probe keys ∉ c.writes
    | _ => True
  mayReply _ o r := HostReply o r

section Protocol

variable {ctx : Ctx K} {keys : BreakerKeys} {rule : CircuitBreakerRule K} {h : HostHistory K}
  {I : HostHistory K → Prop}

theorem probeClient_hosted (ctx : Ctx K) (keys : BreakerKeys) : Hosted (probeClient ctx keys) :=
  fun _ _ _ hr => hr

/-- What holds until the client deletes the probe key. -/
def Unreleased (keys : BreakerKeys) (I : HostHistory K → Prop) : Prop :=
  ∀ h e, e.op.releases keys = false → I h → I (e :: h)

theorem probeClient_undisturbed (hI : ∀ h e, e.op.idle = true → I h → I (e :: h)) :
    Undisturbed (probeClient ctx keys) I := by
  intro h o hh ho
  refine ⟨?_, fun r _ => hI h _ ho hh⟩
  cases o with
  | redis c => cases ho
  | _ => trivial

theorem idle_quiet {o : HostOp K} (ho : o.idle = true) :
    o.releases keys = false ∧ o.asks keys = false := by
  cases o with
  | redis c => cases ho
  | _ => exact ⟨rfl, rfl⟩

/-- Reading a key of the breaker. -/
theorem readKey_client (ctx : Ctx K) (keys : BreakerKeys) (hI : ∀ h e, e.op.releases keys = false → e.op.asks keys = false →
      I h → I (e :: h)) {k : Key} (hk : ∀ h r, I h → I (⟨.redis (.get k), r⟩ :: h)) (hh : I h) :
    Obeys (probeClient ctx keys) (readKey ctx k) (fun res h' => I h' ∧
      ∀ v, res = .ok v → ∃ h₀, h' = ⟨.redis (.get k), .ok v⟩ :: h₀ ∧ I h₀) h := by
  refine readKey_obeys (probeClient_hosted ctx keys) ctx ?_ ?_ hh
  · apply probeClient_undisturbed
    intro h e he hh
    exact hI h e (idle_quiet he).1 (idle_quiet he).2 hh
  · intro h hh
    refine ⟨?_, fun r _ => hk h r hh⟩
    show Key.probe keys ∉ (Cmd.get k).writes
    simp [Cmd.writes]

theorem getOpenUntil_asks (hI : Unreleased keys I) {t : K} (ht : timeEvent t ∈ h) (hh : I h) :
    Obeys (probeClient ctx keys) (getOpenUntil ctx rule) (fun res h' => I h' ∧ ∀ u, res = .ok u →
      ∃ r h₀, u = r.getD 0 ∧ h' = openUntilEvent (breakerKeys ctx rule) r :: h₀ ∧
        timeEvent t ∈ h₀) h := by
  have hread := readKey_client ctx keys (I := fun h => I h ∧ timeEvent t ∈ h)
    (k := .openUntil (breakerKeys ctx rule))
    (fun h e he _ hh => ⟨hI h e he hh.1, List.mem_cons_of_mem e hh.2⟩)
    (fun h r hh => ⟨hI h _ rfl hh.1, List.mem_cons_of_mem _ hh.2⟩) ⟨hh, ht⟩
  apply hread.bind
  · rintro r h₁ ⟨⟨h₁I, -⟩, hok⟩
    refine ⟨h₁I, fun u hu => ?_⟩
    obtain ⟨h₀, hh, -, hmem⟩ := hok r rfl
    exact ⟨r, h₀, (Except.ok.inj hu).symm, hh, hmem⟩
  · rintro e h₁ ⟨⟨h₁I, -⟩, -⟩
    refine ⟨h₁I, fun u hu => ?_⟩
    cases hu

/-- HALF_OPEN is concluded from a clock reading and the `GET` after it. -/
theorem getState_asks (hI : Unreleased keys I) (hh : I h) :
    Obeys (probeClient ctx keys) (getState ctx rule) (fun res h' => I h' ∧
      (res = .ok .halfOpen → breakerKeys ctx rule = keys → Asked keys h')) h := by
  have hidle : Undisturbed (probeClient ctx keys) I :=
    probeClient_undisturbed fun h e he hh => hI h e (idle_quiet he).1 hh
  rw [getState]
  apply (time_obeys (probeClient_hosted ctx keys) hidle hh).bind
  · rintro t h₁ ⟨t', ht, rfl, h₁I⟩
    obtain rfl : t = t' := Except.ok.inj ht
    apply (getOpenUntil_asks hI List.mem_cons_self h₁I).bind
    · rintro u h₂ ⟨h₂I, hread⟩
      obtain ⟨r, h₀, rfl, rfl, hmem⟩ := hread u rfl
      split
      · exact ⟨h₂I, fun hres => by cases hres⟩
      · rename_i hle
        have hasked : breakerKeys ctx rule = keys →
            Asked keys (openUntilEvent (breakerKeys ctx rule) r :: h₀) := by
          rintro rfl
          exact ⟨[], r, h₀, t, rfl, by simp, hmem, not_lt.mp hle⟩
        split
        · exact ⟨h₂I, fun _ => hasked⟩
        · -- the probe key decides; reading it leaves the answer the last one
          have hread' := readKey_client ctx keys
            (I := fun h => I h ∧ (breakerKeys ctx rule = keys → Asked keys h))
            (k := .probe (breakerKeys ctx rule))
            (fun h e he hask hh => ⟨hI h e he hh.1, fun hkeys => (hh.2 hkeys).cons hask⟩)
            (fun h r hh => ⟨hI h _ rfl hh.1, fun hkeys => (hh.2 hkeys).cons rfl⟩) ⟨h₂I, hasked⟩
          have hactive : Obeys (probeClient ctx keys) (isProbeActive ctx rule) (fun _ h' =>
              I h' ∧ (breakerKeys ctx rule = keys → Asked keys h'))
              (openUntilEvent (breakerKeys ctx rule) r :: h₀) :=
            hread'.bind (fun _ _ hres => hres.1) fun _ _ hres => hres.1
          apply hactive.bind
          · rintro active h₃ ⟨h₃I, hasked⟩
            exact ⟨h₃I, fun _ => hasked⟩
          · rintro e h₃ ⟨h₃I, -⟩
            exact ⟨h₃I, fun hres => by cases hres⟩
    · rintro e h₂ ⟨h₂I, -⟩
      exact ⟨h₂I, fun hres => by cases hres⟩
  · rintro e h₁ ⟨t, ht, -⟩
    cases ht

/-- An instance that believes it holds the probe does. -/
def Trusted (ctx : Ctx K) (keys : BreakerKeys) (b : CircuitBreaker K) (h : HostHistory K) : Prop :=
  b.probeAcquired = true → breakerKeys ctx b.rule = keys → holding keys h = true

theorem Trusted.unreleased (ctx : Ctx K) (keys : BreakerKeys) (b : CircuitBreaker K) :
    Unreleased keys (Trusted ctx keys b) :=
  fun _ _ he hh hprobe hkeys => holding_cons (hh hprobe hkeys) he

theorem allowRequest_client {b : CircuitBreaker K} (hh : Trusted ctx keys b h) :
    Obeys (probeClient ctx keys) (b.allowRequest ctx) (fun res h' =>
      ∀ admitted b', res = .ok (admitted, b') → Trusted ctx keys b' h') h := by
  rw [CircuitBreaker.allowRequest]
  apply (getState_asks (Trusted.unreleased ctx keys b) hh).bind
  · rintro st h₁ ⟨h₁I, hasked⟩
    have hkept : ∀ admitted st', ∀ a b', (.ok (admitted, { b with lastState := st' }) :
        Except Exc (Bool × CircuitBreaker K)) = .ok (a, b') → Trusted ctx keys b' h₁ := by
      intro admitted st' a b' hres
      cases hres
      exact h₁I
    cases st with
    | closed => exact hkept true .closed
    | opened => exact hkept false .opened
    | halfOpen =>
        dsimp only
        apply (Obeys.perform (P := probeClient ctx keys) (o := .redis (.setNxEx
          (.probe (breakerKeys ctx b.rule)) () ctx.circuitProbeTtlSec)) (Q := fun res h' =>
            h' = acquireEvent (breakerKeys ctx b.rule) ctx.circuitProbeTtlSec res :: h₁)
          ?_ fun r _ => rfl).bind
        · rintro acquired h₂ rfl
          cases acquired with
          | false =>
              intro a b' hres
              cases hres
              exact Trusted.unreleased ctx keys b _ _ rfl h₁I
          | true =>
              intro a b' hres
              cases hres
              intro _ hkeys
              show (if acquires keys _ then true else _) = true
              rw [if_pos]
              simpa [acquires] using hkeys
        · intro e h₂ _ a b' hres
          cases hres
        · exact fun hkeys => ⟨rfl, hasked rfl hkeys⟩
  · intro e h₁ _ a b' hres
    cases hres

/-- A client may record an outcome; it deletes the probe key when it holds it. -/
theorem probeClient_settling (ctx : Ctx K) (keys : BreakerKeys) (rule : CircuitBreakerRule K) :
    Settling (probeClient ctx keys) ctx rule
      (fun h => breakerKeys ctx rule = keys → holding keys h = true) (fun _ => True)
      fun _ _ => True := by
  have hkeep : Unreleased (K := K) keys
      fun h => breakerKeys ctx rule = keys → holding keys h = true :=
    fun h e he hh hkeys => holding_cons (hh hkeys) he
  have hends : ∀ {α : Type} (r : Except Exc α) (h : HostHistory K),
      Ends (fun _ => True) (fun _ _ => True) r h := by
    intro α r h
    cases r <;> trivial
  refine ⟨?_, ?_, ?_, ?_⟩
  · intro h hh
    refine (readKey_client ctx keys (fun h e he _ hh => hkeep h e he hh)
      (fun h r hh => hkeep h _ rfl hh) hh).mono ?_
    rintro (e | v) h' ⟨h'I, -⟩
    · trivial
    · exact h'I
  · intro h hh
    refine ⟨trivial, fun r _ => ?_⟩
    cases r with
    | error e => trivial
    | ok t => exact hkeep h _ rfl hh
  · intro h ks hh hhead htail
    refine ⟨fun hmem => ?_, fun r _ => hends r _⟩
    -- the only probe key among them is the first
    rcases ks with - | ⟨k, ks⟩
    · cases hhead
    · obtain rfl : k = .probe (breakerKeys ctx rule) := Option.some.inj hhead
      rcases List.mem_cons.mp hmem with heq | hwindow
      · exact hh (Key.probe.inj heq).symm
      · obtain ⟨w, hw⟩ := htail _ hwindow
        cases hw
  · intro h o _ ho
    refine ⟨?_, fun r _ => hends r _⟩
    cases o with
    | redis c =>
        cases c with
        | set k v =>
            obtain rfl : k = .openUntil (breakerKeys ctx rule) := ho
            show Key.probe keys ∉ [Key.openUntil (breakerKeys ctx rule)]
            simp
        | zremrangebyscore w keys' m =>
            show Key.probe keys ∉ [Key.window w keys']
            simp
        | zcard w keys' => exact List.not_mem_nil
        | circuitBreaker keys' a =>
            show Key.probe keys ∉
              [Key.window .failures keys', .window .totals keys', .openUntil keys']
            simp
        | _ => cases ho
    | _ => trivial

/-- **A client keeps to `probeClient`**, whatever calls it makes. -/
theorem run_client (calls : List BreakerCall) {b : CircuitBreaker K}
    (hh : Trusted ctx keys b h) :
    Obeys (probeClient ctx keys) (b.run ctx calls) (fun _ _ => True) h := by
  induction calls generalizing b h with
  | nil => trivial
  | cons call calls ih =>
      cases call with
      | allowRequest =>
          rw [CircuitBreaker.run]
          apply (allowRequest_client hh).bind
          · rintro ⟨admitted, b'⟩ h₁ htrusted
            exact ih (htrusted admitted b' rfl)
          · exact fun _ _ _ => trivial
      | record action =>
          rw [CircuitBreaker.run]
          apply ((probeClient_settling ctx keys b.rule).record action hh fun _ => trivial).bind
          · rintro ⟨result, b'⟩ h₁ ⟨-, hleft⟩
            apply ih
            intro hprobe
            rw [(hleft result b' rfl).2] at hprobe
            cases hprobe
          · exact fun _ _ _ => trivial

end Protocol

/-! ### What a client's call does to the probe key and to open_until -/

/-- What the call of a client with history `h` can do to the probe key. -/
inductive ProbeStep (ctx : Ctx K) (keys : BreakerKeys) (h : HostHistory K) (s : HostState K) :
    HostEvent K → HostState K → Prop
  | acquired (s' : HostState K) (r : Except Exc Bool) : Asked keys h →
      s.data.lookup s.now (.probe keys) = none → r ≠ .ok false →
      s'.data (.probe keys) = some ⟨(), some (s.now + ctx.circuitProbeTtlSec)⟩ →
      ProbeStep ctx keys h s (acquireEvent keys ctx.circuitProbeTtlSec r) s'
  | released (s' : HostState K) (ks : List Key) (r : Except Exc ℕ) : Key.probe keys ∈ ks →
      holding keys h = true → s'.data (.probe keys) = none →
      ProbeStep ctx keys h s ⟨.redis (.delete ks), r⟩ s'
  | kept (ev : HostEvent K) (s' : HostState K) :
      s'.data (.probe keys) = s.data (.probe keys) → acquires keys ev = false →
      ProbeStep ctx keys h s ev s'

/-- No deadline on open_until, as `close`, `reopen` and the script leave it. -/
def Untimed (keys : BreakerKeys) (s : HostState K) : Prop :=
  ∀ x, s.data (.openUntil keys) = some x → x.expireAt = none

section Steps

variable {ctx : Ctx K} {keys : BreakerKeys} {h : HostHistory K} {s s' : HostState K}

theorem acquires_error (o : HostOp K) (e : Exc) : acquires keys ⟨o, .error e⟩ = false := by
  cases o with
  | redis c =>
      cases c with
      | setNxEx k v ttl => cases k <;> rfl
      | _ => rfl
  | _ => rfl

/-- A command that reached the server, whether its reply came back or not. -/
theorem probeStep_of_exec {c : Cmd K} {r : Except Exc c.Ret}
    (hr : r = .ok (exec s.now s.data c).1 ∨ ∃ e, r = .error e)
    (hcall : (probeClient ctx keys).mayCall h (.redis c)) :
    ProbeStep ctx keys h s ⟨.redis c, r⟩ { s with data := (exec s.now s.data c).2 } := by
  have hframe : Key.probe keys ∉ c.writes → acquires keys ⟨.redis c, r⟩ = false →
      ProbeStep ctx keys h s ⟨.redis c, r⟩ { s with data := (exec s.now s.data c).2 } :=
    fun hw hacq => .kept _ _ (exec_frame s.now s.data c hw) hacq
  cases c with
  | setNxEx k v ttl =>
      cases k with
      | probe keys' =>
          by_cases hkeys : keys' = keys
          · subst hkeys
            obtain ⟨rfl, hasked⟩ := hcall rfl
            cases hlookup : s.data.lookup s.now (.probe keys') with
            | none =>
                have hexec : exec s.now s.data (.setNxEx (.probe keys') v ctx.circuitProbeTtlSec) =
                    (true, s.data.put (.probe keys') v (some (s.now + ctx.circuitProbeTtlSec))) := by
                  simp [exec, hlookup]
                rw [hexec] at hr ⊢
                refine .acquired _ r hasked hlookup ?_ Store.put_self
                rintro rfl
                rcases hr with hr | ⟨e, hr⟩ <;> cases hr
            | some v' =>
                have hexec : exec s.now s.data (.setNxEx (.probe keys') v ctx.circuitProbeTtlSec) =
                    (false, s.data) := by
                  simp [exec, hlookup]
                rw [hexec] at hr ⊢
                refine .kept _ _ rfl ?_
                rcases hr with rfl | ⟨e, rfl⟩ <;> rfl
          · apply hframe
            · simpa [Cmd.writes] using Ne.symm hkeys
            · rcases r with e | - | -
              · rfl
              · rfl
              · simpa [acquires] using hkeys
      | _ => exact hcall.elim
  | setex k ttl v => exact hcall.elim
  | delete ks =>
      by_cases hmem : Key.probe keys ∈ ks
      · exact .released _ ks r hmem (hcall hmem) ((Store.foldl_erase ks s.data _).trans (if_pos hmem))
      · exact hframe hmem rfl
  | _ => exact hframe hcall rfl

/-- **What a client can do to the probe key**: take it where there is none, or
delete it while holding it. -/
theorem Served.probeStep {ev : HostEvent K} (hs : Served s ev s')
    (hcall : (probeClient ctx keys).mayCall h ev.op) : ProbeStep ctx keys h s ev s' := by
  cases hs with
  | done c => exact probeStep_of_exec (.inl rfl) hcall
  | dropped c e => exact .kept _ _ rfl (acquires_error _ e)
  | lost c e => exact probeStep_of_exec (.inr ⟨e, rfl⟩) hcall
  | uuid hex _ => exact .kept _ _ rfl rfl
  | quiet o r hredis huuid =>
      refine .kept _ _ rfl ?_
      cases o with
      | redis c => exact absurd rfl (hredis c)
      | _ => rfl

theorem untimed_exec {c : Cmd K} (hcall : (probeClient ctx keys).mayCall h (.redis c))
    (hs : Untimed keys s) : Untimed keys { s with data := (exec s.now s.data c).2 } := by
  have hframe : Key.openUntil keys ∉ c.writes →
      Untimed keys { s with data := (exec s.now s.data c).2 } :=
    fun hw x hx => hs x ((exec_frame s.now s.data c hw).symm.trans hx)
  have hput : ∀ (data : Data K) v, Untimed keys { s with data := data.put (.openUntil keys) v none } := by
    intro data v x hx
    obtain rfl := Option.some.inj (Store.put_self.symm.trans hx)
    rfl
  cases c with
  | set k v =>
      by_cases hk : k = .openUntil keys
      · subst hk
        exact hput s.data v
      · exact hframe (by simpa [Cmd.writes] using Ne.symm hk)
  | setNxEx k v ttl =>
      cases k with
      | probe keys' => exact hframe (by simp [Cmd.writes])
      | _ => exact hcall.elim
  | setex k ttl v => exact hcall.elim
  | delete ks =>
      intro x hx
      have hslot : ks.foldl Store.erase s.data (.openUntil keys) = some x := hx
      rw [Store.foldl_erase] at hslot
      split at hslot
      · cases hslot
      · exact hs x hslot
  | circuitBreaker keys' a =>
      by_cases hkeys : keys' = keys
      · subst hkeys
        show Untimed keys' { s with data := (circuitBreakerLua s.now s.data keys' a).2 }
        rw [circuitBreakerLua]
        dsimp only
        split
        · exact hput _ _
        · intro x hx
          have hsame := addOutcome_frame s.now s.data keys' a (k := .openUntil keys') (by simp)
          exact hs x (hsame.symm.trans hx)
      · exact hframe (by simpa [Cmd.writes] using Ne.symm hkeys)
  | get k => exact hframe List.not_mem_nil
  | compareAndDelete k v => exact hframe (by simp [Cmd.writes])
  | zremrangebyscore w keys' m => exact hframe (by simp [Cmd.writes])
  | zcard w keys' => exact hframe List.not_mem_nil

theorem Served.untimed {ev : HostEvent K} (hs : Served s ev s')
    (hcall : (probeClient ctx keys).mayCall h ev.op) (huntimed : Untimed keys s) :
    Untimed keys s' := by
  cases hs with
  | done c => exact untimed_exec hcall huntimed
  | dropped c e => exact huntimed
  | lost c e => exact untimed_exec hcall huntimed
  | uuid hex _ => exact huntimed
  | quiet o r hredis huuid => exact huntimed

end Steps

end ChaosDemo
