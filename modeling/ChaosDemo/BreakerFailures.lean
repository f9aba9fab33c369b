/-
ChaosDemo/BreakerFailures.lean

What becomes of a failing command of the breaker.  The reads are made again by
the retry policy, everything else is made once, and nothing is caught: a call
on the breaker that returns has repeated every failed command with success
(`Recovered`), and one that raises raises what a command raised (`Raised`).
-/
import ChaosDemo.BreakerProtocol

set_option linter.unusedSectionVars false

namespace ChaosDemo

open CallTree

variable {K : Type} [Field K] [LinearOrder K] [IsStrictOrderedRing K] [FloorRing K]

/-! ### The commands of a breaker -/

/-- The keys of a breaker. -/
def Key.ofBreaker : Key → Bool
  | .idem _ => false
  | .order _ => false
  | .openUntil _ => true
  | .probe _ => true
  | .window _ _ => true

/-- The commands on the keys of a breaker. -/
def Cmd.ofBreaker : Cmd K → Bool
  | .get k => k.ofBreaker
  | .set k _ => k.ofBreaker
  | .setNxEx k _ _ => k.ofBreaker
  | .setex k _ _ => k.ofBreaker
  | .delete ks => ks.all Key.ofBreaker
  | .compareAndDelete _ _ => false
  | .zremrangebyscore _ _ _ => true
  | .zcard _ _ => true
  | .circuitBreaker _ _ => true

/-- Of the server a breaker uses its own keys only. -/
def breakerCalls : Protocol (HostSig K) Exc where
  mayCall _ o := ∀ c, o = .redis c → c.ofBreaker = true
  mayReply _ o r := HostReply o r

/-- Every failed command of a breaker was made again with success. -/
def Recovered (h : HostHistory K) : Prop :=
  ∀ new c x old, h = new ++ ⟨.redis c, .error x⟩ :: old → c.ofBreaker = true →
    ∃ v, (⟨.redis c, .ok v⟩ : HostEvent K) ∈ new

/-- A command of a breaker raised `e`. -/
def Raised (e : Exc) (h : HostHistory K) : Prop :=
  e.fromServer = true ∧ ∃ c, c.ofBreaker = true ∧ (⟨.redis c, .error e⟩ : HostEvent K) ∈ h

section Histories

variable {h : HostHistory K} {e : HostEvent K}

theorem Recovered.nil : Recovered ([] : HostHistory K) := by
  intro new c x old hsplit
  simp at hsplit

/-- A call that did not fail leaves nothing new to recover. -/
theorem Recovered.cons (hr : Recovered h)
    (he : ∀ c x, c.ofBreaker = true → e ≠ ⟨.redis c, .error x⟩) : Recovered (e :: h) := by
  intro new c x old hsplit hc
  rcases new with - | ⟨e', new⟩
  · exact absurd (List.cons.inj hsplit).1 (he c x hc)
  · obtain ⟨v, hmem⟩ := hr new c x old (List.cons.inj hsplit).2 hc
    exact ⟨v, List.mem_cons_of_mem _ hmem⟩

theorem Raised.cons {x : Exc} (hr : Raised x h) (e : HostEvent K) : Raised x (e :: h) := by
  obtain ⟨hx, c, hc, hmem⟩ := hr
  exact ⟨hx, c, hc, List.mem_cons_of_mem _ hmem⟩

end Histories

/-! ### Reading -/

section Breaker

variable {ctx : Ctx K} {rule : CircuitBreakerRule K} {h : HostHistory K}

/-- Only the command `c₀` may still have to be made again. -/
def RecoveredBut (c₀ : Cmd K) (h : HostHistory K) : Prop :=
  ∀ new c x old, h = new ++ ⟨.redis c, .error x⟩ :: old → c.ofBreaker = true →
    c = c₀ ∨ ∃ v, (⟨.redis c, .ok v⟩ : HostEvent K) ∈ new

theorem RecoveredBut.cons {c₀ : Cmd K} (hr : RecoveredBut c₀ h) {e : HostEvent K}
    (he : ∀ c x, e = ⟨.redis c, .error x⟩ → c = c₀) : RecoveredBut c₀ (e :: h) := by
  intro new c x old hsplit hc
  rcases new with - | ⟨e', new⟩
  · exact .inl (he c x (List.cons.inj hsplit).1)
  · rcases hr new c x old (List.cons.inj hsplit).2 hc with heq | ⟨v, hmem⟩
    · exact .inl heq
    · exact .inr ⟨v, List.mem_cons_of_mem _ hmem⟩

/-- The command that was missing has succeeded. -/
theorem RecoveredBut.recovered {c₀ : Cmd K} (hr : RecoveredBut c₀ h) (v : c₀.Ret) :
    Recovered (⟨.redis c₀, .ok v⟩ :: h) := by
  intro new c x old hsplit hc
  rcases new with - | ⟨e', new⟩
  · cases (List.cons.inj hsplit).1
  · obtain ⟨rfl, hold⟩ := List.cons.inj hsplit
    rcases hr new c x old hold hc with rfl | ⟨v', hmem⟩
    · exact ⟨v, List.mem_cons_self⟩
    · exact ⟨v', List.mem_cons_of_mem _ hmem⟩

theorem breakerCalls_hosted : Hosted (breakerCalls : Protocol (HostSig K) Exc) :=
  fun _ _ _ hr => hr

/-- What a call leaves alone that does not fail. -/
theorem breakerCalls_undisturbed {I : HostHistory K → Prop}
    (hI : ∀ h e, (∀ c, e.op ≠ .redis c) → I h → I (e :: h)) : Undisturbed breakerCalls I := by
  intro h o hh ho
  have hnot : ∀ c, o ≠ .redis c := by
    rintro c rfl
    cases ho
  exact ⟨fun c hc => absurd hc (hnot c), fun r _ => hI h _ hnot hh⟩

/-- The rule for `_read`. -/
theorem readKey_recovers {k : Key} (hk : k.ofBreaker = true) (hh : Recovered h) :
    Obeys breakerCalls (readKey ctx k) (Ends Recovered Raised) h := by
  refine RetryPolicy.executeFrom_obeys breakerCalls_hosted _ (I := RecoveredBut (.get k))
    (F := fun e h => RecoveredBut (.get k) h ∧ Raised e h) ?_ ?_ (fun _ _ hF => hF.1)
    (fun _ _ hF => hF.2) _ _ (fun new c x old hsplit hc => .inr (hh new c x old hsplit hc))
  · intro e
    apply breakerCalls_undisturbed
    rintro h ev hev ⟨hrec, hraised⟩
    refine ⟨hrec.cons ?_, hraised.cons ev⟩
    rintro c x rfl
    exact absurd rfl (hev c)
  · intro h₁ hrec
    refine .perform ?_ fun r hr => ?_
    · rintro c hc
      cases hc
      exact hk
    · cases r with
      | ok v => exact hrec.recovered v
      | error e =>
          refine ⟨hrec.cons ?_, hr e rfl, .get k, hk, List.mem_cons_self⟩
          rintro c x heq
          cases heq
          rfl

/-! ### The breaker -/

/-- A call of a breaker recovers what failed before it, or raises. -/
theorem perform_recovers {o : HostOp K} (ho : ∀ c, o = .redis c → c.ofBreaker = true)
    (hplain : (∀ c, o ≠ .redis c) → ∀ r, HostReply o r → ∃ v, r = .ok v) (hh : Recovered h) :
    (breakerCalls : Protocol (HostSig K) Exc).mayCall h o ∧
      ∀ r, (breakerCalls : Protocol (HostSig K) Exc).mayReply h o r →
        Ends Recovered Raised r (⟨o, r⟩ :: h) := by
  refine ⟨ho, fun r hr => ?_⟩
  cases r with
  | ok v =>
      apply hh.cons
      rintro c x - heq
      cases heq
  | error e =>
      cases o with
      | redis c => exact ⟨hr e rfl, c, ho c rfl, List.mem_cons_self⟩
      | _ =>
          obtain ⟨v, hv⟩ := hplain (by simp) (.error e) hr
          cases hv

/-- A record call is made of such calls. -/
theorem breakerCalls_settling (ctx : Ctx K) (rule : CircuitBreakerRule K) :
    Settling breakerCalls ctx rule Recovered Recovered Raised := by
  refine ⟨?_, ?_, ?_, ?_⟩
  · intro h hh
    exact readKey_recovers rfl hh
  · intro h hh
    exact perform_recovers (fun c hc => by cases hc) (fun _ r hr => hr) hh
  · intro h ks hh hhead htail
    refine perform_recovers ?_ (fun hnot => absurd rfl (hnot _)) hh
    rintro c hc
    cases hc
    show ks.all Key.ofBreaker = true
    rcases ks with - | ⟨k, ks⟩
    · rfl
    · obtain rfl := Option.some.inj hhead
      rw [List.all_cons, Bool.and_eq_true, List.all_eq_true]
      refine ⟨rfl, fun k' hk' => ?_⟩
      obtain ⟨w, rfl⟩ := htail k' hk'
      rfl
  · intro h o hh ho
    refine perform_recovers ?_ ?_ hh
    · rintro c rfl
      cases c <;> first | rfl | cases ho
      rfl
    · intro hnot r hr
      cases o with
      | redis c => exact absurd rfl (hnot c)
      | time => exact hr
      | uuid4 => exact hr
      | _ => cases ho

/-- **`record_success` and `record_failure`.** -/
theorem record_recovers (ctx : Ctx K) (b : CircuitBreaker K) (action : Action)
    (hh : Recovered h) : Obeys breakerCalls (b.record ctx action) (Ends Recovered Raised) h :=
  ((breakerCalls_settling ctx b.rule).record action (fun _ => hh) fun _ => hh).mono
    fun _ _ hres => hres.1

theorem getState_recovers (ctx : Ctx K) (rule : CircuitBreakerRule K) (hh : Recovered h) :
    Obeys breakerCalls (getState ctx rule) (Ends Recovered Raised) h := by
  have htime := perform_recovers (o := .time) (fun c hc => by cases hc) (fun _ r hr => hr) hh
  rw [getState]
  apply Settling.ends_bind (.perform htime.1 htime.2)
  intro now h₁ hh₁
  have hopen : Obeys breakerCalls (getOpenUntil ctx rule) (Ends Recovered Raised) h₁ :=
    Settling.ends_bind (readKey_recovers rfl hh₁) fun _ _ hh₂ => hh₂
  apply Settling.ends_bind hopen
  intro openUntil h₂ hh₂
  split
  · exact hh₂
  · split
    · exact hh₂
    · have hactive : Obeys breakerCalls (isProbeActive ctx rule) (Ends Recovered Raised) h₂ :=
        Settling.ends_bind (readKey_recovers rfl hh₂) fun _ _ hh₃ => hh₃
      exact Settling.ends_bind hactive fun _ _ hh₃ => hh₃

/-- **`allow_request`.** -/
theorem allowRequest_recovers (ctx : Ctx K) (b : CircuitBreaker K) (hh : Recovered h) :
    Obeys breakerCalls (b.allowRequest ctx) (Ends Recovered Raised) h := by
  rw [CircuitBreaker.allowRequest]
  apply Settling.ends_bind (getState_recovers ctx b.rule hh)
  intro st h₁ hh₁
  cases st with
  | closed => exact hh₁
  | opened => exact hh₁
  | halfOpen =>
      have hacquire := perform_recovers (o := .redis (.setNxEx (.probe (breakerKeys ctx b.rule)) ()
        ctx.circuitProbeTtlSec)) (fun c hc => by cases hc; rfl)
        (fun hnot => absurd rfl (hnot _)) hh₁
      apply Settling.ends_bind (.perform hacquire.1 hacquire.2)
      intro acquired h₂ hh₂
      split
      · exact hh₂
      · exact hh₂

end Breaker

end ChaosDemo
