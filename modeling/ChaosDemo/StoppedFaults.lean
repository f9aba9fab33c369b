/-
ChaosDemo/StoppedFaults.lean

A stop is complete, precise and permanent.  `clear_fault`, `stop_experiment` and
`clear_all_faults` do not delete an experiment: they write it back with another status
and a new time to live, one experiment after the other, while its key may expire and
other calls may stop it as well.

What carries the proof is what a call has been shown (ChaosDemo/FaultStops.lean): once
no experiment to be stopped runs under an id, none does from then on (`Settled`), since
only a call that creates an experiment stores one as running.  A call that stops
experiments has been shown this of every id when it returns.
-/
import ChaosDemo.FaultRuns

set_option linter.unusedSectionVars false

namespace ChaosDemo

open CallTree Keyspace ChaosExperimentStore ChaosObserver FaultInjection

variable {K : Type} [Field K] [LinearOrder K] [IsStrictOrderedRing K]

/-! ### The same fault -/

/-- Two records of one experiment, which differ in the status and the time of the last
update at most. -/
def SameFault (e e' : ChaosExperiment K) : Prop := e.stoppedAt 0 = e'.stoppedAt 0

namespace SameFault

variable {e e' e'' : ChaosExperiment K}

theorem refl (e : ChaosExperiment K) : SameFault e e := rfl

theorem trans (h : SameFault e e') (h' : SameFault e' e'') : SameFault e e'' := Eq.trans h h'

theorem stopped (e : ChaosExperiment K) (now : K) : SameFault e (e.stoppedAt now) := rfl

theorem id_eq (h : SameFault e e') : e'.id = e.id :=
  (congrArg (fun x : ChaosExperiment K => x.id) h).symm

theorem faultType_eq (h : SameFault e e') : e'.faultType = e.faultType :=
  (congrArg (fun x : ChaosExperiment K => x.faultType) h).symm

end SameFault

/-- What a call stops does not depend on the status. -/
theorem FaultCall.stops_of_same (call : FaultCall K) {e e' : ChaosExperiment K}
    (h : SameFault e e') (hstop : call.stops e) : call.stops e' := by
  cases call with
  | stopExperiment experimentId => exact h.id_eq.trans hstop
  | clearFault faultType => exact h.faultType_eq.trans hstop
  | clearAllFaults => trivial
  | getFault faultType => exact h.faultType_eq.trans hstop
  | beforeRequest request => exact h.faultType_eq.trans hstop
  | _ => exact hstop.elim

/-! ### Quiet ids -/

/-- No experiment to be stopped is seen running under `id`. -/
def Quiet (stops : ChaosExperiment K → Prop) (s : FaultState K) (id : String) : Prop :=
  ∀ experiment, s.seen id = some experiment → experiment.status = chaosStatusRunning →
    ¬ stops experiment

section Quiet

variable {stops : ChaosExperiment K → Prop} {s s' : FaultState K} {id : String}
  {env : FaultEnv K}

/-- An id stays quiet while time passes and stopped experiments are stored. -/
theorem Quiet.step (hq : Quiet stops s id) (hnow : s.chaos.now ≤ s'.chaos.now)
    (hslot : s'.slot id = s.slot id ∨ ∃ (v : ChaosExperiment K) (t : Option K),
      s'.slot id = some ⟨v, t⟩ ∧ v.status ≠ chaosStatusRunning) : Quiet stops s' id := by
  intro experiment hseen hrun
  obtain ⟨e, he, halive, rfl⟩ := FaultState.seen_eq_some.mp hseen
  rcases hslot with hsame | ⟨v, t, hput, hstopped⟩
  · have hbefore : s.seen id = some e.val :=
      FaultState.seen_eq_some.mpr ⟨e, hsame.symm.trans he, e.alive_mono hnow halive, rfl⟩
    exact hq e.val hbefore hrun
  · obtain rfl := Option.some.inj (hput.symm.trans he)
    exact absurd hrun hstopped

/-- What is shown is shown by one event. -/
theorem Shown.event {h : ChaosHistory K} (hs : Shown stops h id) :
    ∃ ev ∈ h, Shown stops [ev] id := by
  cases hs with
  | gone hmem => exact ⟨_, hmem, .gone List.mem_cons_self⟩
  | spared experiment hmem hnot => exact ⟨_, hmem, .spared experiment List.mem_cons_self hnot⟩
  | stopped ttl experiment hmem hnot =>
      exact ⟨_, hmem, .stopped ttl experiment List.mem_cons_self hnot⟩
  | unlisted ids hmem hnot => exact ⟨_, hmem, .unlisted ids List.mem_cons_self hnot⟩

/-- A command that finds an experiment finds what is there. -/
theorem seen_of_served (ev : Event (ChaosSig K) Exc) {experiment : ChaosExperiment K}
    (hs : s.serve env (.chaos ev.op) = (ev.reply, s')) (hread : ReadAt [ev] id experiment) :
    s'.seen id = some experiment ∧ s' = s := by
  obtain rfl := List.mem_singleton.mp hread
  obtain ⟨hreply, rfl⟩ := Prod.mk.inj hs
  exact ⟨Except.ok.inj hreply, rfl⟩

/-- What a command shows is so after it. -/
theorem quiet_of_served {ev : Event (ChaosSig K) Exc}
    (hs : s.serve env (.chaos ev.op) = (ev.reply, s')) (hshown : Shown stops [ev] id) :
    Quiet stops s' id := by
  intro experiment hseen hrun hstop
  cases hshown with
  | gone hmem =>
      obtain rfl := List.mem_singleton.mp hmem
      obtain ⟨hreply, rfl⟩ := Prod.mk.inj hs
      have hnone : s.seen id = none := Except.ok.inj hreply
      have hcontra : (none : Option (ChaosExperiment K)) = some experiment :=
        hnone.symm.trans hseen
      cases hcontra
  | spared found hmem hnot =>
      obtain ⟨hfound, -⟩ := seen_of_served _ hs hmem
      obtain rfl := Option.some.inj (hfound.symm.trans hseen)
      exact hnot ⟨hrun, hstop⟩
  | stopped ttl v hmem hnot =>
      obtain rfl := List.mem_singleton.mp hmem
      have hslot := s.serve_slot env (.chaos (.setex (.experiment id) ttl v)) id
      rw [hs] at hslot
      obtain ⟨e, he, -, rfl⟩ := FaultState.seen_eq_some.mp hseen
      by_cases httl : 0 < ttl
      · have hput : s'.slot id = some ⟨v, some (s.chaos.now + ttl)⟩ := by
          rw [← (Prod.mk.inj hs).2]
          simp only [ChaosState.serve, if_pos httl]
          exact Listed.put_slots_self
        obtain rfl := Option.some.inj (hput.symm.trans he)
        exact hnot hrun
      · -- such a command is refused
        have hreply := (Prod.mk.inj hs).1
        simp only [ChaosState.serve, if_neg httl] at hreply
        cases hreply
  | unlisted ids hmem hnot =>
      obtain rfl := List.mem_singleton.mp hmem
      obtain ⟨hreply, rfl⟩ := Prod.mk.inj hs
      have hids : (s.chaos.data.keys s.chaos.now).filterMap ChaosPattern.experiments.match? = ids :=
        Except.ok.inj hreply
      have hkey : ChaosKey.experiment id ∈ s.chaos.data.keys s.chaos.now := by
        refine Listed.mem_keys.mpr ?_
        show (s.seen id).isSome = true
        rw [show s.seen id = some experiment from hseen]
        rfl
      rw [← hids] at hnot
      exact hnot (List.mem_filterMap.mpr ⟨_, hkey, rfl⟩)

end Quiet

/-! ### Runs without a new experiment -/

variable {ι : Type} [DecidableEq ι]

theorem chaosEvent_eq_some {ev : Event (FaultSig K) Exc} {ev' : Event (ChaosSig K) Exc}
    (h : chaosEvent ev = some ev') : ev = ⟨.chaos ev'.op, ev'.reply⟩ := by
  obtain ⟨o, r⟩ := ev
  cases o with
  | chaos o =>
      obtain rfl := Option.some.inj h
      rfl
  | _ => cases h

/-- An event in the history of a client, after one more command of the run. -/
theorem mem_chaosPart_cons {j : ι} {e : FaultEntry K ι} {l : FaultLog K ι}
    {ev : Event (ChaosSig K) Exc} (h : ev ∈ chaosPart (own j (e :: l))) :
    ev ∈ chaosPart (own j l) ∨ e.event = ⟨.chaos ev.op, ev.reply⟩ := by
  by_cases hj : e.who = j
  · subst hj
    rw [own_cons_self] at h
    obtain ⟨ev', hmem, heq⟩ := List.mem_filterMap.mp h
    rcases List.mem_cons.mp hmem with rfl | hmem
    · exact .inr (chaosEvent_eq_some heq)
    · exact .inl (List.mem_filterMap.mpr ⟨ev', hmem, heq⟩)
  · rw [own_cons_of_ne hj] at h
    exact .inl h

/-- What holds along a run in which nothing is created. -/
structure Settled (stops : ChaosExperiment K → Prop) (s : FaultState K) (l : FaultLog K ι) :
    Prop where
  kept : ∀ j id experiment, ReadAt (chaosPart (own j l)) id experiment →
    ∃ e, s.slot id = some e ∧ SameFault experiment e.val
  quiet : ∀ j id, Shown stops (chaosPart (own j l)) id → Quiet stops s id

section Runs

variable {env : FaultEnv K} {settings : FaultSettings K} {calls : ι → FaultCall K}
  {s₀ : FaultState K}

/-- The runs of calls that create nothing. -/
abbrev FaultReach (env : FaultEnv K) (settings : FaultSettings K) (calls : ι → FaultCall K)
    (s₀ : FaultState K) (c : FaultConfig K ι) : Prop :=
  Reach (faultWorld env) (fun _ _ => True) (faultCallsAt settings calls s₀) c

theorem faultWorld_serves (env : FaultEnv K) (calls : ι → FaultCall K) :
    Serves (faultWorld env) (fun (s : FaultState K) (_ : FaultLog K ι) => True ∧ s.Named)
      fun i => faultClient (calls i).stops (calls i).drops := by
  intro i s l o x r s' hs hP
  have hserve := faultWorld_serve hs
  cases o with
  | chaos o =>
      cases o with
      | get k =>
          cases k with
          | experiment id =>
              intro experiment hr
              have hread : s'.seen id = some experiment := (seen_of_served
                ⟨.get (.experiment id), .ok (some experiment)⟩ (hr ▸ hserve)
                List.mem_cons_self).1
              obtain ⟨e, he, -, rfl⟩ := FaultState.seen_eq_some.mp hread
              exact hP.2 id e he
          | report id => trivial
      | _ => trivial
  | _ => trivial

theorem FaultReach.with_names (hnamed : s₀.Named) {c : FaultConfig K ι}
    (hreach : FaultReach env settings calls s₀ c) :
    Reach (faultWorld env) (fun (s : FaultState K) (_ : FaultLog K ι) => True ∧ s.Named)
      (faultCallsAt settings calls s₀) c :=
  Reach.and_invariant hreach fun _ h => named_of_reach hnamed h

/-- **Step and run.**  What a call has been shown stays so. -/
theorem settled_of_reach (hcalls : ∀ j, (calls j).creates = false) (hnamed : s₀.Named)
    (stops : ChaosExperiment K → Prop) {c : FaultConfig K ι}
    (hreach : FaultReach env settings calls s₀ c) : Settled stops c.state c.log := by
  let Inv : FaultState K → FaultLog K ι → Prop := Settled stops
  show Inv c.state c.log
  refine (hreach.with_names hnamed).invariant (faultWorld_serves env calls) rfl
    (fun j => FaultCall.obeys settings (hcalls j) []) ?_ ?_ ?_
  · intro _
    constructor
    · intro j id experiment hread
      cases hread
    · intro j id hshown
      obtain ⟨ev, hmem, -⟩ := hshown.event
      cases hmem
  · intro s l t s' hinv _ _ hd
    obtain ⟨hnow, hslots, -⟩ := faultWorld_drift hd
    constructor
    · intro j id experiment hread
      rw [hslots]
      exact hinv.kept j id experiment hread
    · exact fun j id hshown => (hinv.quiet j id hshown).step hnow (.inl (hslots id))
  · intro s l i o x r s' hinv hP hP' hcall hs
    have hserve := faultWorld_serve hs
    -- what a SETEX of an experiment writes, and over what
    have hwrite : ∀ id (ttl : ℤ) (v : ChaosExperiment K),
        o = .chaos (.setex (.experiment id) ttl v) →
        v.status ≠ chaosStatusRunning ∧ ∃ e, s.slot id = some e ∧ SameFault e.val v := by
      rintro id ttl v rfl
      obtain ⟨-, experiment, now, hread, rfl⟩ := hcall
      obtain ⟨e, he, hsame⟩ := hinv.kept i id experiment hread
      refine ⟨?_, e, he, Eq.trans (Eq.symm hsame) (SameFault.stopped experiment now)⟩
      show chaosStatusStopped ≠ chaosStatusRunning
      decide
    have hslots : ∀ id, s'.slot id = s.slot id ∨ ∃ (e : Timed (ChaosExperiment K) K) (v : _)
        (t : Option K), s.slot id = some e ∧ s'.slot id = some ⟨v, t⟩ ∧ SameFault e.val v ∧
          v.status ≠ chaosStatusRunning := by
      intro id
      rcases s.serve_slot env o id with hsame | ⟨ttl, v, ho, -, hput⟩
      · rw [hserve] at hsame
        exact .inl hsame
      · rw [hserve] at hput
        obtain ⟨hstopped, e, he, hfault⟩ := hwrite id ttl v ho
        exact .inr ⟨e, v, _, he, hput, hfault, hstopped⟩
    have hnow : s.chaos.now ≤ s'.chaos.now := by
      have hle := s.serve_now env o ?_
      · rwa [hserve] at hle
      · rintro seconds rfl
        exact hcall
    have hkeep : ∀ id experiment, (∃ e, s.slot id = some e ∧ SameFault experiment e.val) →
        ∃ e, s'.slot id = some e ∧ SameFault experiment e.val := by
      rintro id experiment ⟨e, he, hfault⟩
      rcases hslots id with hsame | ⟨e', v, t, he', hput, hfault', -⟩
      · exact ⟨e, hsame.trans he, hfault⟩
      · obtain rfl := Option.some.inj (he'.symm.trans he)
        exact ⟨_, hput, hfault.trans hfault'⟩
    constructor
    · intro j id experiment hread
      rcases mem_chaosPart_cons hread with hold | hevent
      · exact hkeep id experiment (hinv.kept j id experiment hold)
      · obtain ⟨rfl, hr⟩ := Event.mk.inj hevent
        obtain rfl := eq_of_heq hr
        obtain ⟨hseen, -⟩ := seen_of_served
          ⟨.get (.experiment id), .ok (some experiment)⟩ hserve List.mem_cons_self
        obtain ⟨e, he, -, rfl⟩ := FaultState.seen_eq_some.mp hseen
        exact ⟨e, he, SameFault.refl _⟩
    · intro j id hshown
      obtain ⟨ev, hmem, hone⟩ := hshown.event
      rcases mem_chaosPart_cons hmem with hold | hevent
      · have hquiet := hinv.quiet j id (hone.mono fun x hx => by
          rwa [List.mem_singleton.mp hx])
        refine hquiet.step hnow ?_
        rcases hslots id with hsame | ⟨-, v, t, -, hput, -, hstopped⟩
        · exact .inl hsame
        · exact .inr ⟨v, t, hput, hstopped⟩
      · obtain ⟨rfl, hr⟩ := Event.mk.inj hevent
        obtain rfl := eq_of_heq hr
        exact quiet_of_served hserve hone

/-! ### What a stop leaves alone -/

/-- The experiments that a call does not stop and the fault keys that it does not drop
are exactly as they were. -/
structure Precise (call : FaultCall K) (s s' : FaultState K) : Prop where
  experiments : ∀ id e, s.slot id = some e → ¬ call.stops e.val → s'.slot id = some e
  faults : ∀ t, ¬ call.drops t → s'.faults.slots t = s.faults.slots t

theorem Precise.trans {call : FaultCall K} {s s' s'' : FaultState K} (h : Precise call s s')
    (h' : Precise call s' s'') : Precise call s s'' where
  experiments id e he hnot := h'.experiments id e (h.experiments id e he hnot) hnot
  faults t ht := (h'.faults t ht).trans (h.faults t ht)

/-- Every command of a run is precise for the call that gives it. -/
theorem precise_of_split (hcalls : ∀ j, (calls j).creates = false) (hnamed : s₀.Named)
    {c : FaultConfig K ι} (hreach : FaultReach env settings calls s₀ c)
    {new old : FaultLog K ι} {e : FaultEntry K ι} (hsplit : c.log = new ++ e :: old) :
    Precise (calls e.who) e.before e.after := by
  obtain ⟨c', hreach', hstate, hlog, -⟩ := Reach.before hreach rfl hsplit
  have hsettled := settled_of_reach hcalls hnamed (calls e.who).stops hreach'
  have hnames := named_of_reach hnamed hreach'
  rw [hstate] at hsettled hnames
  rw [hlog] at hsettled
  have hcall := (hreach.with_names hnamed).allowed (faultWorld_serves env calls) rfl
    (fun j => FaultCall.obeys settings (hcalls j) []) new e old hsplit
  have htraced := Reach.traced hreach rfl
  rw [hsplit] at htraced
  obtain ⟨-, x, hs⟩ := htraced.before
  have hserve := faultWorld_serve hs
  constructor
  · intro id slot hslot hnot
    rcases e.before.serve_slot env e.event.op id with hsame | ⟨ttl, v, ho, -, -⟩
    · rw [hserve] at hsame
      exact hsame.trans hslot
    · -- only an experiment that is to be stopped is written
      exfalso
      rw [ho] at hcall
      obtain ⟨hchosen, -⟩ := hcall
      rcases hchosen with ⟨experiment, hread, hstop⟩ | hall
      · obtain ⟨slot', hslot', hfault⟩ := hsettled.kept e.who id experiment hread
        obtain rfl := Option.some.inj (hslot'.symm.trans hslot)
        exact hnot ((calls e.who).stops_of_same hfault hstop)
      · exact hnot (hall slot.val (hnames id slot hslot))
  · intro t ht
    have hsame := e.before.serve_faults env e.event.op t ?_ ?_
    · rwa [hserve] at hsame
    · intro ttl record ho
      rw [ho] at hcall
      exact hcall
    · intro ts ho hmem
      rw [ho] at hcall
      exact ht (hcall t hmem)

/-- So is a call that runs alone, however the time passes. -/
theorem precise_of_alone (hcalls : ∀ j, (calls j).creates = false) (hnamed : s₀.Named)
    {c : FaultConfig K ι} (hreach : FaultReach env settings calls s₀ c) {i : ι}
    (halone : ∀ e ∈ c.log, e.who = i) : Precise (calls i) s₀ c.state := by
  refine (Reach.traced hreach rfl).keeps (A := Precise (calls i) s₀) ?_ ?_ ?_
  · exact ⟨fun _ _ he _ => he, fun _ _ => rfl⟩
  · intro s t s' hd hs
    obtain ⟨-, hslots, -, hfaults⟩ := faultWorld_drift hd
    exact hs.trans ⟨fun id e he _ => (hslots id).trans he, fun t _ => by rw [hfaults]⟩
  · intro e he hs
    obtain ⟨new, old, hsplit⟩ := List.append_of_mem he
    have hstep := precise_of_split hcalls hnamed hreach hsplit
    rw [halone e he] at hstep
    exact hs.trans hstep

/-! ### What a stop has done for good -/

/-- The call `i` has returned in `c₁`, and the run has gone on to `c₂`. -/
structure StoppedForGood (call : FaultCall K) (i : ι) (s₀ : FaultState K)
    (c₁ c₂ : FaultConfig K ι) : Prop where
  /-- No command since has found one of the experiments running. -/
  unseen : ∀ new e old, c₂.log = new ++ e :: old → c₁.log <:+ old → ∀ id experiment,
    e.event = ⟨.chaos (.get (.experiment id)), .ok (some experiment)⟩ →
      experiment.status = chaosStatusRunning → ¬ call.stops experiment
  /-- No request that was prepared since is left with one of them. -/
  unmatched : ∀ j, own j c₁.log = [] → ∀ active outcome,
    c₂.thread j = .ret (.prepared active outcome) → ∀ experiment ∈ active,
      ¬ call.stops experiment
  /-- The commands of the call have left everything else as it was. -/
  precise : ∀ e ∈ c₂.log, e.who = i → Precise call e.before e.after
  /-- So has the call as a whole, when no other was under way. -/
  alone : (∀ e ∈ c₁.log, e.who = i) → Precise call s₀ c₁.state

/-- No experiment that the call stops is seen running by a command after its return. -/
theorem unseen_of_stop (hcalls : ∀ j, (calls j).creates = false) (hnamed : s₀.Named)
    {c₁ c₂ : FaultConfig K ι} (h₁ : FaultReach env settings calls s₀ c₁)
    (h₂ : Reach (faultWorld env) (fun _ _ => True) c₁ c₂) {i : ι}
    (hstop : (calls i).isStop = true) {answer : FaultAnswer K}
    (hdone : c₁.thread i = .ret answer) {new old : FaultLog K ι} {e : FaultEntry K ι}
    (hsplit : c₂.log = new ++ e :: old) (hold : c₁.log <:+ old) {id : String}
    {experiment : ChaosExperiment K}
    (hevent : e.event = ⟨.chaos (.get (.experiment id)), .ok (some experiment)⟩)
    (hrun : experiment.status = chaosStatusRunning) : ¬ (calls i).stops experiment := by
  -- what the call had learnt when it returned
  have hpost : ChaosReturns [] (calls i).Learnt (.ok answer) (own i c₁.log) :=
    (h₁.with_names hnamed).post (faultWorld_serves env calls) rfl
      (fun j => FaultCall.obeys settings (hcalls j) []) hdone
  have hlearnt := (hpost.2 answer rfl).shown hstop id
  -- what the command has found
  have hreach : FaultReach env settings calls s₀ c₂ := Reach.trans h₁ h₂
  obtain ⟨c', hreach', hstate, hlog, -⟩ := Reach.before hreach rfl hsplit
  have htraced := Reach.traced hreach rfl
  rw [hsplit] at htraced
  obtain ⟨-, x, hs⟩ := htraced.before
  rw [hevent] at hs
  obtain ⟨hseen, hsame⟩ := seen_of_served
    ⟨.get (.experiment id), .ok (some experiment)⟩ (faultWorld_serve hs) List.mem_cons_self
  rw [hsame, ← hstate] at hseen
  rcases hlearnt with hshown | hnever
  · have hquiet := (settled_of_reach hcalls hnamed (calls i).stops hreach').quiet i id ?_
    · exact hquiet experiment hseen hrun
    · rw [hlog]
      obtain ⟨mid, rfl⟩ := hold
      refine hshown.mono (chaosPart_subset ?_)
      rw [own_append]
      exact List.subset_append_right _ _
  · obtain ⟨slot, hslot, -, rfl⟩ := FaultState.seen_eq_some.mp hseen
    exact hnever slot.val (named_of_reach hnamed hreach' id slot hslot)

/-- **A stop is complete, precise and permanent**, whatever expires and whatever other
calls stop in between. -/
theorem stop_for_good (env : FaultEnv K) (settings : FaultSettings K)
    (calls : ι → FaultCall K) (hcalls : ∀ j, (calls j).creates = false)
    (hwritten : Written env settings s₀) {c₁ c₂ : FaultConfig K ι}
    (h₁ : FaultReach env settings calls s₀ c₁)
    (h₂ : Reach (faultWorld env) (fun _ _ => True) c₁ c₂) {i : ι}
    (hstop : (calls i).isStop = true) {answer : FaultAnswer K}
    (hdone : c₁.thread i = .ret answer) : StoppedForGood (calls i) i s₀ c₁ c₂ := by
  have hnamed := hwritten.named
  have hreach : FaultReach env settings calls s₀ c₂ := Reach.trans h₁ h₂
  refine ⟨fun new e old hsplit hold id experiment hevent hrun =>
    unseen_of_stop hcalls hnamed h₁ h₂ hstop hdone hsplit hold hevent hrun, ?_, ?_,
    precise_of_alone hcalls hnamed h₁⟩
  · intro j hidle active outcome hthread experiment hmem
    have hpost : ChaosReturns [] (calls j).Learnt (.ok (.prepared active outcome))
        (own j c₂.log) :=
      (hreach.with_names hnamed).post (faultWorld_serves env calls) rfl
        (fun j => FaultCall.obeys settings (hcalls j) []) hthread
    have hlisted := (hpost.2 _ rfl).listed active outcome rfl
    -- the request has read the experiment since the call returned
    obtain ⟨ev, hev, heq⟩ := List.mem_filterMap.mp (hlisted.read experiment hmem)
    obtain ⟨e, he, hwho, rfl⟩ := mem_own.mp hev
    obtain ⟨new, hnew⟩ := h₂.log_suffix
    have hin : e ∈ new := by
      rw [hnew] at he
      rcases List.mem_append.mp he with hin | hold
      · exact hin
      · have hown : e.event ∈ own j c₁.log := mem_own.mpr ⟨e, hold, hwho, rfl⟩
        rw [hidle] at hown
        cases hown
    obtain ⟨newer, older, rfl⟩ := List.append_of_mem hin
    have hsplit : c₂.log = newer ++ e :: (older ++ c₁.log) := by
      rw [hnew]
      simp
    exact unseen_of_stop hcalls hnamed h₁ h₂ hstop hdone hsplit (List.suffix_append _ _)
      (chaosEvent_eq_some heq) (hlisted.running experiment hmem)
  · intro e he hwho
    obtain ⟨new, old, hsplit⟩ := List.append_of_mem he
    have hstep := precise_of_split hcalls hnamed hreach hsplit
    rwa [hwho] at hstep

end Runs

/-! ### A stop between two requests -/

def chaosSettings : FaultSettings ℚ := { faultMaxDropRate := 1 }

def lowEnv : FaultEnv ℚ := { quietEnv with spread := fun _ lo _ => lo }

/-- An experiment that slows requests down, and a legacy fault that drops them. -/
def twoCreations : Fin 2 → FaultCall ℚ
  | 0 => .createExperiment "n" "h" [("endpoint", .str "*")] "latency" [("latency_ms", .int 50)] 60
  | 1 => .injectFault "drop" [("drop_rate", .int 1)] none

/-- The first is stopped, and a request comes. -/
def clearThenRequest : Fin 2 → FaultCall ℚ
  | 0 => .clearFault "latency"
  | 1 => .beforeRequest ⟨"/orders", "POST"⟩

/-- `n` commands of a client. -/
def faultSteps (i : Fin 2) (n : ℕ) : List (Move (faultWorld lowEnv) (Fin 2)) :=
  List.replicate n (.call i ())

def createdRun : Option (FaultConfig ℚ (Fin 2)) :=
  (faultCallsAt chaosSettings twoCreations (.initial 0)).run (faultWorld lowEnv)
    (faultSteps 0 7 ++ faultSteps 1 8)

theorem createdRun_isSome : createdRun.isSome = true := by decide +kernel

/-- Five seconds pass between the listing and the stop. -/
def clearedRun : Option (FaultConfig ℚ (Fin 2)) :=
  (faultCallsAt chaosSettings clearThenRequest (createdRun.get createdRun_isSome).state).run
    (faultWorld lowEnv) (faultSteps 0 4 ++ .drift (5 : ℚ) :: faultSteps 0 10)

theorem clearedRun_isSome : clearedRun.isSome = true := by decide +kernel

def preparedRun : Option (FaultConfig ℚ (Fin 2)) :=
  (clearedRun.get clearedRun_isSome).run (faultWorld lowEnv)
    (.drift (9 : ℚ) :: faultSteps 1 14)

theorem preparedRun_isSome : preparedRun.isSome = true := by decide +kernel

/-- The fault types that a request was left with. -/
def matchedTypes (c : FaultConfig ℚ (Fin 2)) (i : Fin 2) : Option (List String) :=
  match (c.thread i).value? with
  | some (.prepared active _) => some (active.map (·.faultType))
  | _ => none

theorem stop_for_good_latency :
    StoppedForGood (clearThenRequest 0) 0 (createdRun.get createdRun_isSome).state
      (clearedRun.get clearedRun_isSome) (preparedRun.get preparedRun_isSome) ∧
    matchedTypes (preparedRun.get preparedRun_isSome) 1 = some ["drop"] := by
  have hwritten : Written lowEnv chaosSettings (createdRun.get createdRun_isSome).state :=
    ⟨Fin 2, inferInstance, twoCreations, 0, _, Reach.of_run (Q := fun _ => True)
      (fun _ _ h => h) (.start trivial) (Option.some_get createdRun_isSome).symm trivial, rfl⟩
  have h₁ : FaultReach lowEnv chaosSettings clearThenRequest
      (createdRun.get createdRun_isSome).state (clearedRun.get clearedRun_isSome) :=
    Reach.of_run (Q := fun _ => True) (fun _ _ h => h) (.start trivial)
      (Option.some_get clearedRun_isSome).symm trivial
  have h₂ : Reach (faultWorld lowEnv) (fun _ _ => True) (clearedRun.get clearedRun_isSome)
      (preparedRun.get preparedRun_isSome) :=
    Reach.of_run (Q := fun _ => True) (fun _ _ h => h) (.start trivial)
      (Option.some_get preparedRun_isSome).symm trivial
  have hdone : (((clearedRun.get clearedRun_isSome).thread 0).value?).isSome = true := by
    decide +kernel
  obtain ⟨answer, hanswer⟩ := Option.isSome_iff_exists.mp hdone
  have hcalls : ∀ j, (clearThenRequest j).creates = false := by decide +kernel
  exact ⟨stop_for_good lowEnv chaosSettings clearThenRequest hcalls hwritten h₁ h₂ rfl
    (Prog.value?_eq_some.mp hanswer), by decide +kernel⟩

end ChaosDemo
