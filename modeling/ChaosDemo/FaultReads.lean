/-
ChaosDemo/FaultReads.lean

Reading a fault.  `list_faults` only reads.  `get_fault` reads the key `fault:<type>`, and
where it finds nothing it takes the fault for over and stops what is left of it: every
running experiment of the type, whether the legacy API has created it or not.

So the others are safe as long as the key is there.  It has a time to live of its own,
and may be gone before them or never have been written: `getFault_spares_iff` says that
they are left alone, however time passes during the call, exactly when the key lives at
least as long as each of them.
-/
import ChaosDemo.StoppedFaults

set_option linter.unusedSectionVars false

namespace ChaosDemo

open CallTree Keyspace ChaosExperimentStore ChaosObserver FaultInjection

variable {K : Type} [Field K] [LinearOrder K] [IsStrictOrderedRing K]

/-! ### What is promised -/

/-- A running experiment that the legacy API has not created. -/
structure Independent (s : FaultState K) (id : String) (e : Timed (ChaosExperiment K) K) :
    Prop where
  slot : s.slot id = some e
  alive : e.alive s.chaos.now = true
  running : e.val.status = chaosStatusRunning
  other : e.val.legacyApi = false

/-- `get_fault`, called in `s`, leaves the status and the parameters of the independent
experiments alone. -/
def GetFaultSpares (env : FaultEnv K) (settings : FaultSettings K) (s : FaultState K)
    (faultType : String) : Prop :=
  ∀ c : FaultConfig K Unit, FaultReach env settings (fun _ => .getFault faultType) s c →
    ∀ id e, Independent s id e → ∃ e', c.state.slot id = some e' ∧
      e'.val.status = e.val.status ∧ e'.val.params = e.val.params

/-- `list_faults` changes nothing. -/
def ListFaultsReads (env : FaultEnv K) (settings : FaultSettings K) (s : FaultState K) : Prop :=
  ∀ c : FaultConfig K Unit, FaultReach env settings (fun _ => .listFaults) s c →
    c.state.chaos.data = s.chaos.data ∧ c.state.chaos.ledger = s.chaos.ledger ∧
      c.state.faults = s.faults

/-- The fault key lives as long as any independent experiment of the type. -/
def Outlived (s : FaultState K) (faultType : String) : Prop :=
  ∀ id e, Independent s id e → e.val.faultType = faultType →
    ∃ f, s.faults.slots faultType = some f ∧ ∀ now, e.alive now = true → f.alive now = true

/-! ### Reading only -/

/-- A command that only reads. -/
def FaultOp.reads : FaultOp K → Prop
  | .chaos (.get _) => True
  | .chaos (.keys _) => True
  | .getFault _ => True
  | .keysFaults => True
  | _ => False

theorem FaultState.serve_reads (env : FaultEnv K) (s : FaultState K) {o : FaultOp K}
    (ho : o.reads) : (s.serve env o).2 = s := by
  cases o with
  | chaos o =>
      cases o with
      | get k => rfl
      | keys pattern => rfl
      | _ => exact ho.elim
  | getFault t => rfl
  | keysFaults => rfl
  | _ => exact ho.elim

/-- The calls of the chaos package that only read. -/
def ChaosOp.reads : ChaosOp K → Prop
  | .get _ => True
  | .keys _ => True
  | _ => False

theorem listEach_reads (includeStopped : Bool) (ids : List String) :
    (listEach includeStopped ids : Chaos K _).Only ChaosOp.reads := by
  induction ids with
  | nil => trivial
  | cons id ids ih =>
      refine .bind (.perform trivial) fun raw => .bind ih fun rest => ?_
      cases raw with
      | none => trivial
      | some experiment => exact .ite trivial trivial

theorem readEach_reads (faultTypes : List String) :
    (readEach faultTypes : Faults K _).Only FaultOp.reads := by
  induction faultTypes with
  | nil => trivial
  | cons faultType faultTypes ih =>
      refine .bind (.perform trivial) fun raw => .bind ih fun rest => ?_
      cases raw <;> trivial

theorem listFaults_reads : (listFaults : Faults K _).Only FaultOp.reads := by
  refine .bind (.perform trivial) fun _ => .bind (readEach_reads _) fun _ => .ite ?_ trivial
  have hlist : (listLegacyFaults : Chaos K _).Only ChaosOp.reads :=
    .bind (.bind (.perform trivial) fun ids => listEach_reads false (pySorted ids))
      fun _ => trivial
  refine .bind (hlist.interp fun o ho => .perform ?_) fun _ => trivial
  cases o with
  | get k => trivial
  | keys pattern => trivial
  | _ => exact ho.elim

theorem listFaults_changes_nothing (env : FaultEnv K) (settings : FaultSettings K)
    (s : FaultState K) : ListFaultsReads env settings s := by
  intro c hreach
  let reader : Protocol (FaultSig K) Exc := ⟨fun _ o => FaultOp.reads o, fun _ _ _ => True⟩
  let Inv : FaultState K → FaultLog K Unit → Prop := fun s' _ =>
    s'.chaos.data = s.chaos.data ∧ s'.chaos.ledger = s.chaos.ledger ∧ s'.faults = s.faults
  have hserves : Serves (faultWorld env) (fun (_ : FaultState K) (_ : FaultLog K Unit) => True)
      fun _ => reader := fun _ _ _ _ _ _ _ _ _ => trivial
  have honly : (FaultCall.program settings .listFaults).Only FaultOp.reads :=
    .bind listFaults_reads fun _ => trivial
  show Inv c.state c.log
  refine Reach.invariant hreach (Q := fun _ _ _ => True) hserves rfl
    (fun _ => Obeys.of_only honly (fun _ _ ho => ho) []) ?_ ?_ ?_
  · exact fun _ => ⟨rfl, rfl, rfl⟩
  · intro s₁ l t s₂ hinv _ _ hd
    obtain ⟨-, rfl⟩ : s₁.chaos.now ≤ t ∧
        { s₁ with chaos := { s₁.chaos with now := t } } = s₂ := by
      simpa [faultWorld] using hd
    exact hinv
  · intro s₁ l i o x r s₂ hinv _ _ hcall hs
    have hsame := s₁.serve_reads env hcall
    rw [faultWorld_serve hs] at hsame
    rw [show s₂ = s₁ from hsame]
    exact hinv

/-! ### As long as the key is there -/

/-- `get_fault` gives no command to the chaos package before it has missed the key. -/
def missesFirst (faultType : String) : Protocol (FaultSig K) Exc where
  mayCall h o := match o with
    | .chaos _ => (⟨.getFault faultType, .ok none⟩ : Event (FaultSig K) Exc) ∈ h
    | _ => True
  mayReply _ _ _ := True

theorem ofChaos_missesFirst {α : Type} {faultType : String} (p : Chaos K α) {h : FaultHistory K}
    (hmiss : (⟨.getFault faultType, .ok none⟩ : Event (FaultSig K) Exc) ∈ h) :
    Obeys (missesFirst faultType) (Faults.ofChaos p) (fun _ _ => True) h := by
  induction p generalizing h with
  | ret a => trivial
  | raise e => trivial
  | call o k ih =>
      refine ⟨hmiss, fun r _ => ?_⟩
      cases r with
      | ok v => exact ih (.ok v) (List.mem_cons_of_mem _ hmiss)
      | error e => exact ih (.error e) (List.mem_cons_of_mem _ hmiss)

theorem getFault_missesFirst (settings : FaultSettings K) (faultType : String) :
    Obeys (missesFirst faultType) (FaultCall.program settings (.getFault faultType))
      (fun _ _ => True) [] := by
  refine ⟨trivial, fun r _ => ?_⟩
  rcases r with e | - | record
  · trivial
  · have hmiss : (⟨.getFault faultType, .ok none⟩ : Event (FaultSig K) Exc) ∈
        [(⟨.getFault faultType, .ok none⟩ : Event (FaultSig K) Exc)] := List.mem_singleton.mpr rfl
    apply Obeys.bind (Q := fun _ _ => True)
    · apply (ofChaos_missesFirst (stopLegacyFault faultType) hmiss).bind
      · exact fun _ _ _ => trivial
      · exact fun _ _ _ => trivial
    · exact fun _ _ _ => trivial
    · exact fun _ _ _ => trivial
  · trivial

section Alone

variable {env : FaultEnv K} {settings : FaultSettings K} {s₀ : FaultState K} {faultType : String}

/-- What holds while `get_fault` runs from `s₀`: the independent experiments are as they
were, none of the type is read, and none is alive any more once the key was missed. -/
structure Sparing (s₀ : FaultState K) (faultType : String) (s : FaultState K)
    (l : FaultLog K Unit) : Prop where
  now : s₀.chaos.now ≤ s.chaos.now
  slot : ∀ id e, Independent s₀ id e → s.slot id = some e
  key : s.faults.slots faultType = s₀.faults.slots faultType
  unread : ∀ id experiment e, ReadAt (chaosPart (own () l)) id experiment →
    Independent s₀ id e → experiment.faultType ≠ faultType
  missed : (⟨.getFault faultType, .ok none⟩ : Event (FaultSig K) Exc) ∈ own () l →
    ∀ id e, Independent s₀ id e → e.val.faultType = faultType → e.alive s.chaos.now = false

/-- **Step.** -/
theorem Sparing.call (hnamed : s₀.Named) (houtlived : Outlived s₀ faultType)
    {s s' : FaultState K} {l : FaultLog K Unit} {o : FaultOp K} {r : Except Exc o.Ret}
    (h : Sparing s₀ faultType s l)
    (hclient : (faultClient (FaultCall.getFault faultType : FaultCall K).stops
      (FaultCall.getFault faultType : FaultCall K).drops).mayCall (own () l) o)
    (hfirst : (missesFirst faultType).mayCall (own () l) o) (hs : s.serve env o = (r, s')) :
    Sparing s₀ faultType s' (⟨(), ⟨o, r⟩, s, s'⟩ :: l) := by
  have hown : own () (⟨(), ⟨o, r⟩, s, s'⟩ :: l : FaultLog K Unit) = ⟨o, r⟩ :: own () l :=
    own_cons_self _ l
  have hnow : s.chaos.now ≤ s'.chaos.now := by
    have hle := s.serve_now env o ?_
    · rwa [hs] at hle
    · rintro seconds rfl
      exact hclient
  have hslot : ∀ id e, Independent s₀ id e → s'.slot id = some e := by
    intro id e he
    rcases s.serve_slot env o id with hsame | ⟨ttl, v, rfl, -, -⟩
    · rw [hs] at hsame
      exact hsame.trans (h.slot id e he)
    · -- an experiment is stopped only after it was read, and is of the type
      exfalso
      obtain ⟨hchosen, -⟩ := hclient
      rcases hchosen with ⟨experiment, hread, hstop⟩ | hall
      · exact h.unread id experiment e hread he hstop
      · have htype : faultType ++ "'" = faultType :=
          hall { e.val with faultType := faultType ++ "'" } (hnamed id e he.slot)
        have hlength := congrArg String.length htype
        simp at hlength
  refine ⟨h.now.trans hnow, hslot, ?_, ?_, ?_⟩
  · have hsame := s.serve_faults env o faultType ?_ ?_
    · rw [hs] at hsame
      exact hsame.trans h.key
    · rintro ttl record rfl
      exact hclient
    · rintro ts rfl hmem
      exact hclient _ hmem
  · intro id experiment e hread he htype
    rcases mem_chaosPart_cons hread with hold | hevent
    · exact h.unread id experiment e hold he htype
    · obtain ⟨rfl, hr⟩ := Event.mk.inj hevent
      obtain rfl := eq_of_heq hr
      obtain ⟨hseen, rfl⟩ := seen_of_served
        ⟨.get (.experiment id), .ok (some experiment)⟩ hs List.mem_cons_self
      obtain ⟨e', he', halive, rfl⟩ := FaultState.seen_eq_some.mp hseen
      obtain rfl := Option.some.inj ((h.slot id e he).symm.trans he')
      have hdead := h.missed hfirst id e he htype
      rw [halive] at hdead
      cases hdead
  · intro hmem id e he htype
    rw [hown] at hmem
    have hdead : e.alive s.chaos.now = false := by
      rcases List.mem_cons.mp hmem with hnew | hold
      · obtain ⟨rfl, hr⟩ := Event.mk.inj hnew
        obtain rfl := eq_of_heq hr
        obtain ⟨f, hf, hlives⟩ := houtlived id e he htype
        have hgone : s.faults.lookup s.chaos.now faultType = none :=
          Except.ok.inj (Prod.mk.inj hs).1
        cases halive : e.alive s.chaos.now with
        | false => rfl
        | true =>
            -- the key is there as long as the experiment
            have hfound : s.faults.lookup s.chaos.now faultType = some f.val :=
              live_eq_some.mpr ⟨f, h.key.trans hf, hlives _ halive, rfl⟩
            rw [hgone] at hfound
            cases hfound
      · exact h.missed hold id e he htype
    cases halive : e.alive s'.chaos.now with
    | false => rfl
    | true => exact absurd (e.alive_mono hnow halive) (by simp [hdead])

/-- **Run.** -/
theorem sparing_of_outlived (hnamed : s₀.Named) (houtlived : Outlived s₀ faultType)
    {c : FaultConfig K Unit}
    (hreach : FaultReach env settings (fun _ => .getFault faultType) s₀ c) :
    Sparing s₀ faultType c.state c.log := by
  let Inv : FaultState K → FaultLog K Unit → Prop := Sparing s₀ faultType
  have hserves : Serves (faultWorld env)
      (fun (s : FaultState K) (_ : FaultLog K Unit) => True ∧ s.Named) fun _ =>
      ⟨fun h o => (faultClient (FaultCall.getFault faultType : FaultCall K).stops
          (FaultCall.getFault faultType : FaultCall K).drops).mayCall h o ∧
          (missesFirst faultType).mayCall h o,
        fun h o r => (faultClient (FaultCall.getFault faultType : FaultCall K).stops
          (FaultCall.getFault faultType : FaultCall K).drops).mayReply h o r ∧ True⟩ :=
    fun i s l o x r s' hs hP =>
      ⟨faultWorld_serves env (fun _ : Unit => FaultCall.getFault faultType) i s l o x r s' hs hP,
        trivial⟩
  have hclient := fun _ : Unit => FaultCall.obeys settings
    (show (FaultCall.getFault faultType : FaultCall K).creates = false from rfl) []
  show Inv c.state c.log
  refine (hreach.with_names hnamed).invariant hserves rfl
    (fun i => (hclient i).and (getFault_missesFirst settings faultType)) ?_ ?_ ?_
  · intro _
    refine ⟨le_refl _, fun id e he => he.slot, rfl, ?_, ?_⟩
    · intro id experiment e hread
      cases hread
    · intro hmem
      cases hmem
  · intro s l t s' hinv _ _ hd
    obtain ⟨hnow, hslots, -, hfaults⟩ := faultWorld_drift hd
    refine ⟨hinv.now.trans hnow, ?_, ?_, hinv.unread, ?_⟩
    · exact fun id e he => (hslots id).trans (hinv.slot id e he)
    · rw [hfaults]
      exact hinv.key
    · intro hmem id e he htype
      have hdead := hinv.missed hmem id e he htype
      cases halive : e.alive s'.chaos.now with
      | false => rfl
      | true => exact absurd (e.alive_mono hnow halive) (by simp [hdead])
  · intro s l i o x r s' hinv _ _ hcall hs
    exact hinv.call hnamed houtlived hcall.1 hcall.2 (faultWorld_serve hs)

/-! ### When the key is gone -/

theorem eval_ofChaos {α : Type} (env : FaultEnv K) (p : Chaos K α) (s : FaultState K) :
    (Faults.ofChaos p).eval (FaultState.serve env) s =
      ((p.eval (ChaosState.serve env.toChaosEnv) s.chaos).1,
        { s with chaos := (p.eval (ChaosState.serve env.toChaosEnv) s.chaos).2 }) := by
  rw [Faults.ofChaos, Prog.eval_interp]
  induction p generalizing s with
  | ret a => rfl
  | raise e => rfl
  | call o k ih =>
      rw [Prog.eval_call, Prog.eval_perform]
      exact ih _ _

/-- A call that takes no time and stores no experiment as running. -/
def ChaosOp.stopping : ChaosOp K → Prop
  | .setex (.experiment _) _ v => v.status ≠ chaosStatusRunning
  | .sleep _ => False
  | _ => True

theorem stopExperiment_stopping (id : String) :
    (ChaosDemo.stopExperiment id : Chaos K _).Only ChaosOp.stopping := by
  have hstill : ∀ {α : Type} {p : Chaos K α}, p.Only ChaosOp.still → p.Only ChaosOp.stopping := by
    intro α p hp
    refine hp.mono fun o ho => ?_
    cases o with
    | setex k ttl v =>
        cases k with
        | experiment id => exact ho.elim
        | report id => trivial
    | sleep seconds => exact ho.elim
    | _ => trivial
  refine .bind (.bind (.perform trivial) fun experiment => ?_) fun experiment => ?_
  · cases experiment with
    | none => trivial
    | some experiment =>
        refine .bind (.perform trivial) fun now => .bind (.perform ?_) fun _ => trivial
        show chaosStatusStopped ≠ chaosStatusRunning
        decide
  · cases experiment with
    | none => trivial
    | some experiment =>
        exact .bind (hstill (recordRecovered_still experiment)) fun _ => trivial

theorem stopEach_stopping (experiments : List (ChaosExperiment K)) :
    (stopEach experiments).Only ChaosOp.stopping := by
  induction experiments with
  | nil => trivial
  | cons experiment experiments ih =>
      exact .bind (stopExperiment_stopping _) fun _ => .bind ih fun _ => trivial

/-- The slot has a stopped experiment. -/
def ChaosState.StoppedAt (s : ChaosState K) (id : String) : Prop :=
  ∃ e, s.data.slots (.experiment id) = some e ∧ e.val.status ≠ chaosStatusRunning

/-- The slot has the experiment still, at the time it was, or a stopped one. -/
def ChaosState.StillOrStopped (id : String) (e : Timed (ChaosExperiment K) K) (now : K)
    (s : ChaosState K) : Prop :=
  s.now = now ∧ (s.data.slots (.experiment id) = some e ∨ s.StoppedAt id)

theorem serve_stopping (chaosEnv : ChaosEnv K) {s : ChaosState K} {o : ChaosOp K}
    (ho : o.stopping) (id : String) :
    (s.serve chaosEnv o).2.now = s.now ∧
      ((s.serve chaosEnv o).2.data.slots (.experiment id) = s.data.slots (.experiment id) ∨
        (s.serve chaosEnv o).2.StoppedAt id) := by
  cases o with
  | setex k ttl v =>
      simp only [ChaosState.serve]
      split
      · refine ⟨rfl, ?_⟩
        by_cases hk : k = .experiment id
        · subst hk
          exact .inr ⟨_, Listed.put_slots_self, ho⟩
        · exact .inl (Listed.put_slots_of_ne (Ne.symm hk))
      · exact ⟨rfl, .inl rfl⟩
  | sleep seconds => exact ho.elim
  | _ => exact ⟨rfl, .inl rfl⟩

theorem stoppedAt_keeps {α : Type} (chaosEnv : ChaosEnv K) {p : Chaos K α}
    (hp : p.Only ChaosOp.stopping) {s : ChaosState K} {id : String} (hs : s.StoppedAt id) :
    (p.eval (ChaosState.serve chaosEnv) s).2.StoppedAt id := by
  refine hp.eval_keeps (I := fun s : ChaosState K => s.StoppedAt id) (fun s o ho hs => ?_) hs
  rcases (serve_stopping chaosEnv ho id).2 with hsame | hstopped
  · obtain ⟨e, he, hnot⟩ := hs
    exact ⟨e, hsame.trans he, hnot⟩
  · exact hstopped

theorem stillOrStopped_keeps {α : Type} (chaosEnv : ChaosEnv K) {p : Chaos K α}
    (hp : p.Only ChaosOp.stopping) {s : ChaosState K} {id : String}
    {e : Timed (ChaosExperiment K) K} {now : K} (hs : s.StillOrStopped id e now) :
    (p.eval (ChaosState.serve chaosEnv) s).2.StillOrStopped id e now := by
  refine hp.eval_keeps (I := ChaosState.StillOrStopped id e now) (fun s o ho hs => ?_) hs
  obtain ⟨hnow, hslot⟩ := serve_stopping chaosEnv (s := s) ho id
  refine ⟨hnow.trans hs.1, ?_⟩
  rcases hslot with hsame | hstopped
  · rcases hs.2 with hstill | ⟨e', he', hnot⟩
    · exact .inl (hsame.trans hstill)
    · exact .inr ⟨e', hsame.trans he', hnot⟩
  · exact .inr hstopped

/-- One stop, where the experiment is alive. -/
theorem stopExperiment_stops (chaosEnv : ChaosEnv K) {s : ChaosState K} {id : String}
    {e : Timed (ChaosExperiment K) K} {now : K} (hid : e.val.id = id)
    (halive : e.alive now = true) (hs : s.StillOrStopped id e now) :
    ((ChaosDemo.stopExperiment id).eval (ChaosState.serve chaosEnv) s).2.StoppedAt id := by
  rcases hs with ⟨rfl, hslot | hstopped⟩
  · have hread : s.data.lookup s.now (.experiment id) = some e.val :=
      live_eq_some.mpr ⟨e, hslot, halive, rfl⟩
    rw [ChaosDemo.stopExperiment, Prog.eval_bind, run_storeStop, hread]
    dsimp only
    -- the stopped copy is written, the rest is about the report
    have hwritten : (s.stop e.val.id (e.val.stoppedAt s.now)).StoppedAt id := by
      rw [hid]
      refine ⟨_, Listed.put_slots_self, ?_⟩
      show chaosStatusStopped ≠ chaosStatusRunning
      decide
    rw [Prog.eval_bind_ok (run_recordRecovered _)]
    cases hreport : (s.stop e.val.id (e.val.stoppedAt s.now)).data.lookup
        (s.stop e.val.id (e.val.stoppedAt s.now)).now
        (.report (e.val.stoppedAt s.now).id) with
    | none => exact hwritten
    | some report =>
        obtain ⟨e', he', hnot⟩ := hwritten
        exact ⟨e', (Listed.put_slots_of_ne (by simp)).trans he', hnot⟩
  · exact stoppedAt_keeps chaosEnv (stopExperiment_stopping id) hstopped

theorem stopExperiment_returns (chaosEnv : ChaosEnv K) (s : ChaosState K) (id : String) :
    ∃ b s', (ChaosDemo.stopExperiment id).eval (ChaosState.serve chaosEnv) s = (.ok b, s') := by
  rw [ChaosDemo.stopExperiment, Prog.eval_bind, run_storeStop]
  cases s.data.lookup s.now (.experiment id) with
  | none => exact ⟨false, s, rfl⟩
  | some experiment =>
      dsimp only
      rw [Prog.eval_bind_ok (run_recordRecovered _)]
      exact ⟨true, _, rfl⟩

theorem stopEach_stops (chaosEnv : ChaosEnv K) {experiments : List (ChaosExperiment K)}
    {s : ChaosState K} {id : String} {e : Timed (ChaosExperiment K) K} {now : K}
    (hid : e.val.id = id) (halive : e.alive now = true)
    (hmem : ∃ experiment ∈ experiments, experiment.id = id) (hs : s.StillOrStopped id e now) :
    ((stopEach experiments).eval (ChaosState.serve chaosEnv) s).2.StoppedAt id := by
  induction experiments generalizing s with
  | nil =>
      obtain ⟨experiment, hnil, -⟩ := hmem
      cases hnil
  | cons experiment experiments ih =>
      obtain ⟨b, s', heval⟩ := stopExperiment_returns chaosEnv s experiment.id
      have hlast : ((stopEach (experiment :: experiments)).eval (ChaosState.serve chaosEnv) s).2 =
          ((stopEach experiments).eval (ChaosState.serve chaosEnv) s').2 := by
        rw [stopEach, Prog.eval_bind_ok heval, Prog.eval_bind]
        generalize (stopEach experiments).eval (ChaosState.serve chaosEnv) s' = out
        rcases out with ⟨e' | n, s''⟩ <;> rfl
      rw [hlast]
      by_cases hhead : experiment.id = id
      · have hstopped := stopExperiment_stops chaosEnv hid halive hs
        rw [← hhead, heval] at hstopped
        rw [← hhead]
        exact stoppedAt_keeps chaosEnv (stopEach_stopping experiments) hstopped
      · obtain ⟨found, hfound, hfoundId⟩ := hmem
        have hrest : found ∈ experiments := by
          rcases List.mem_cons.mp hfound with rfl | hrest
          · exact absurd hfoundId hhead
          · exact hrest
        have hkept := stillOrStopped_keeps chaosEnv
          (stopExperiment_stopping experiment.id) hs
        rw [heval] at hkept
        exact ih ⟨found, hrest, hfoundId⟩ hkept

/-- `stop_legacy_fault` stops whatever runs under the type. -/
theorem stopLegacyFault_stops (chaosEnv : ChaosEnv K) {s : ChaosState K} {id : String}
    {e : Timed (ChaosExperiment K) K} (hid : e.val.id = id)
    (hslot : s.data.slots (.experiment id) = some e) (halive : e.alive s.now = true)
    (hrun : e.val.status = chaosStatusRunning) :
    ((stopLegacyFault e.val.faultType).eval (ChaosState.serve chaosEnv) s).2.StoppedAt id := by
  have hread : s.data.lookup s.now (.experiment id) = some e.val :=
    live_eq_some.mpr ⟨e, hslot, halive, rfl⟩
  -- the listing has it
  have hkey : id ∈ pySorted ((s.data.keys s.now).filterMap ChaosPattern.experiments.match?) := by
    rw [(pySorted_perm _).mem_iff]
    exact List.mem_filterMap.mpr ⟨.experiment id, Listed.mem_keys.mpr (by rw [hread]; rfl), rfl⟩
  have hlisted : e.val ∈ s.listed false
      (pySorted ((s.data.keys s.now).filterMap ChaosPattern.experiments.match?)) := by
    refine List.mem_filterMap.mpr ⟨id, hkey, ?_⟩
    rw [hread]
    simp [hrun]
  have hmem : e.val ∈ (s.listed false
      (pySorted ((s.data.keys s.now).filterMap ChaosPattern.experiments.match?))).filter
      fun experiment => experiment.faultType = e.val.faultType :=
    List.mem_filter.mpr ⟨hlisted, by simp⟩
  rw [stopLegacyFault, Prog.eval_bind_ok (run_listExperiments false)]
  simp only [List.isEmpty_iff]
  rw [if_neg (List.ne_nil_of_mem hmem), Prog.eval_bind]
  have hstopped := stopEach_stops chaosEnv hid halive ⟨e.val, hmem, hid⟩ ⟨rfl, .inl hslot⟩
  generalize (stopEach _).eval (ChaosState.serve chaosEnv) s = out at hstopped ⊢
  rcases out with ⟨e' | n, s'⟩ <;> exact hstopped

/-- Where the key is missed, `get_fault` stops what is running under the type. -/
theorem getFault_stops (env : FaultEnv K) (settings : FaultSettings K) {s : FaultState K}
    (hnamed : s.Named) {id : String} {e : Timed (ChaosExperiment K) K}
    (hslot : s.slot id = some e) (halive : e.alive s.chaos.now = true)
    (hrun : e.val.status = chaosStatusRunning)
    (hgone : s.faults.lookup s.chaos.now e.val.faultType = none) :
    (((FaultCall.getFault e.val.faultType).program settings).eval (FaultState.serve env)
      s).2.chaos.StoppedAt id := by
  have hget : (Faults.getFault e.val.faultType : Faults K _).eval (FaultState.serve env) s =
      (.ok none, s) := by
    rw [Faults.getFault, Prog.eval_perform, FaultState.serve, hgone]
  have hstopped := stopLegacyFault_stops env.toChaosEnv (hnamed id e hslot) hslot halive hrun
  have hrest := eval_ofChaos env (stopLegacyFault e.val.faultType) s
  show (((do
    let _ ← FaultInjection.getFault e.val.faultType
    pure FaultAnswer.done) : Faults K (FaultAnswer K)).eval _ s).2.chaos.StoppedAt id
  rw [FaultInjection.getFault, Prog.eval_bind, Prog.eval_bind_ok hget, Prog.eval_bind, hrest]
  generalize (stopLegacyFault e.val.faultType).eval (ChaosState.serve env.toChaosEnv) s.chaos =
    out at hstopped ⊢
  rcases out with ⟨e' | b, s'⟩ <;> exact hstopped

/-! ### Exactly when -/

/-- A time at which the experiment is alive and the key is not. -/
theorem exists_gap {s : FaultState K} {e : Timed (ChaosExperiment K) K}
    (halive : e.alive s.chaos.now = true)
    (hnot : ¬ ∃ f, s.faults.slots faultType = some f ∧
      ∀ now, e.alive now = true → f.alive now = true) :
    ∃ t, s.chaos.now ≤ t ∧ e.alive t = true ∧ s.faults.lookup t faultType = none := by
  cases hslot : s.faults.slots faultType with
  | none =>
      refine ⟨s.chaos.now, le_refl _, halive, ?_⟩
      show live s.chaos.now (s.faults.slots faultType) = none
      rw [hslot]
      rfl
  | some f =>
      have hsome : ¬ ∀ now, e.alive now = true → f.alive now = true :=
        fun hall => hnot ⟨f, hslot, hall⟩
      push Not at hsome
      obtain ⟨t, hthen, hdead⟩ := hsome
      have hmissed : ∀ t', f.alive t' ≠ true → s.faults.lookup t' faultType = none := by
        intro t' hf
        show live t' (s.faults.slots faultType) = none
        rw [hslot, live_some, if_neg hf]
      rcases le_total s.chaos.now t with hle | hle
      · exact ⟨t, hle, hthen, hmissed t hdead⟩
      · refine ⟨s.chaos.now, le_refl _, halive, hmissed _ fun hf => hdead ?_⟩
        exact f.alive_mono hle hf

/-- Where the key is missed in time, an experiment is stopped. -/
theorem not_spares_of_gap (env : FaultEnv K) (settings : FaultSettings K) {s : FaultState K}
    (hnamed : s.Named) {id : String} {e : Timed (ChaosExperiment K) K} (he : Independent s id e)
    {t : K} (hle : s.chaos.now ≤ t) (halive : e.alive t = true)
    (hgone : s.faults.lookup t e.val.faultType = none) :
    ¬ GetFaultSpares env settings s e.val.faultType := by
  intro hspares
  -- the call comes at that time, and no time passes while it runs
  let late : FaultState K := { s with chaos := { s.chaos with now := t } }
  let start : FaultConfig K Unit := faultCallsAt settings (fun _ => .getFault e.val.faultType) s
  have hdrift : start.next (faultWorld env) (.drift t) = some { start with state := late } := by
    show ((faultWorld env).drift s t).map _ = _
    simp only [faultWorld, if_pos hle, Option.map_some]
    rfl
  have hlate : FaultReach env settings (fun _ => .getFault e.val.faultType) s
      { start with state := late } := (Reach.start trivial).step _ hdrift trivial
  have hserve : ∀ s o, ∃ x, (faultWorld env).serve s o x = some (s.serve env o) :=
    fun _ _ => ⟨(), rfl⟩
  obtain ⟨c, hreach, -, hstate⟩ := Reach.of_eval hserve { start with state := late } ()
  obtain ⟨e', he', hstatus, -⟩ := hspares c (hlate.trans hreach) id e he
  obtain ⟨e'', he'', hstopped⟩ := getFault_stops env settings (s := late) hnamed he.slot halive
    he.running hgone
  rw [hstate] at he'
  obtain rfl := Option.some.inj (he'.symm.trans he'')
  exact hstopped (hstatus.trans he.running)

/-- **Reading a fault.**  In every state that the facade can leave behind, `get_fault`
spares the experiments of the other API, whenever its commands are served, exactly when
its key outlives those of its type; `list_faults` changes nothing. -/
theorem getFault_spares_iff (env : FaultEnv K) (settings : FaultSettings K) {s : FaultState K}
    (hwritten : Written env settings s) (faultType : String) :
    (GetFaultSpares env settings s faultType ↔ Outlived s faultType) ∧
      ListFaultsReads env settings s := by
  refine ⟨⟨?_, ?_⟩, listFaults_changes_nothing env settings s⟩
  · intro hspares id e he htype
    by_contra hnot
    obtain ⟨t, hle, halive, hgone⟩ := exists_gap he.alive hnot
    subst htype
    exact not_spares_of_gap env settings hwritten.named he hle halive hgone hspares
  · intro houtlived c hreach id e he
    exact ⟨e, (sparing_of_outlived hwritten.named houtlived hreach).slot id e he, rfl, rfl⟩

end Alone

/-! ### An experiment that is stopped by a reader -/

/-- Both experiments of `twoCreations` are stored. -/
def createdState : FaultState ℚ := (createdRun.get createdRun_isSome).state

theorem written_createdState : Written lowEnv chaosSettings createdState :=
  ⟨Fin 2, inferInstance, twoCreations, 0, _, Reach.of_run (Q := fun _ => True)
    (fun _ _ h => h) (.start trivial) (Option.some_get createdRun_isSome).symm trivial, rfl⟩

theorem createdState_slot : (createdState.slot "a").isSome = true := by decide +kernel

/-- The first has no fault key. -/
theorem independent_created :
    Independent createdState "a" ((createdState.slot "a").get createdState_slot) ∧
      ((createdState.slot "a").get createdState_slot).val.faultType = "latency" ∧
      createdState.faults.slots "latency" = none := by
  refine ⟨⟨(Option.some_get _).symm, by decide +kernel, by decide +kernel, by decide +kernel⟩,
    by decide +kernel, ?_⟩
  exact Option.isNone_iff_eq_none.mp (by decide +kernel)

theorem not_outlived_created :
    (GetFaultSpares lowEnv chaosSettings createdState "latency" ↔
      Outlived createdState "latency") ∧ ¬ Outlived createdState "latency" := by
  refine ⟨(getFault_spares_iff lowEnv chaosSettings written_createdState "latency").1, ?_⟩
  intro houtlived
  obtain ⟨hindependent, htype, hnone⟩ := independent_created
  obtain ⟨f, hf, -⟩ := houtlived "a" _ hindependent htype
  rw [hnone] at hf
  cases hf

/-- **A reader that stops**: `get_fault("latency")` stops an experiment that
`create_experiment` has made. -/
theorem getFault_stops_created : ∃ s, Written lowEnv chaosSettings s ∧
    ¬ GetFaultSpares lowEnv chaosSettings s "latency" := by
  refine ⟨createdState, written_createdState, ?_⟩
  obtain ⟨hindependent, htype, hnone⟩ := independent_created
  have hspares := not_spares_of_gap lowEnv chaosSettings written_createdState.named hindependent
    (le_refl _) hindependent.alive
  rw [htype] at hspares
  apply hspares
  show live createdState.chaos.now (createdState.faults.slots "latency") = none
  rw [hnone]
  rfl

end ChaosDemo
