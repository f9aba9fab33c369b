/-
ChaosDemo/FaultStops.lean

What the calls of the facade learn while they stop experiments.  A call that creates
nothing writes an experiment only as a stopped copy of what it has read under the same
id, and only where it has chosen that id (`Chosen`): because it has read an experiment
there that it is to stop, or because every experiment of that id is to be stopped.

`Shown stops h id` says that the history `h` shows that no experiment to be stopped is
running under `id`:

    gone       a GET of the key has found nothing
    spared     it has found an experiment that is not running or not to be stopped
    stopped    a stopped experiment was written
    unlisted   the key was not in a listing

A call that stops experiments does not return before it has seen one of these for every
id (`FaultCall.obeys`).
-/
import ChaosDemo.FaultClients

set_option linter.unusedSectionVars false

namespace ChaosDemo

open CallTree Keyspace ChaosExperimentStore ChaosObserver FaultInjection

variable {K : Type} [Field K] [LinearOrder K] [IsStrictOrderedRing K]

/-! ### The protocol of the chaos package -/

/-- The program has read `experiment` under `id`. -/
def ReadAt (h : ChaosHistory K) (id : String) (experiment : ChaosExperiment K) : Prop :=
  (⟨.get (.experiment id), .ok (some experiment)⟩ : Event (ChaosSig K) Exc) ∈ h

/-- The experiment under `id` is one to be stopped. -/
def Chosen (stops : ChaosExperiment K → Prop) (h : ChaosHistory K) (id : String) : Prop :=
  (∃ experiment, ReadAt h id experiment ∧ stops experiment) ∨
    ∀ experiment : ChaosExperiment K, experiment.id = id → stops experiment

/-- No experiment to be stopped is running under `id`. -/
inductive Shown (stops : ChaosExperiment K → Prop) (h : ChaosHistory K) (id : String) : Prop
  | gone (hmem : (⟨.get (.experiment id), .ok none⟩ : Event (ChaosSig K) Exc) ∈ h)
  | spared (experiment : ChaosExperiment K) (hmem : ReadAt h id experiment)
      (hnot : ¬ (experiment.status = chaosStatusRunning ∧ stops experiment))
  | stopped (ttl : ℤ) (experiment : ChaosExperiment K)
      (hmem : (⟨.setex (.experiment id) ttl experiment, .ok ()⟩ : Event (ChaosSig K) Exc) ∈ h)
      (hnot : experiment.status ≠ chaosStatusRunning)
  | unlisted (ids : List String)
      (hmem : (⟨.keys .experiments, .ok ids⟩ : Event (ChaosSig K) Exc) ∈ h) (hnot : id ∉ ids)

section Histories

variable {stops stops' : ChaosExperiment K → Prop} {h h' : ChaosHistory K} {id : String}

theorem Chosen.mono (hc : Chosen stops h id) (hh : h ⊆ h') : Chosen stops h' id := by
  rcases hc with ⟨experiment, hread, hstop⟩ | hall
  · exact .inl ⟨experiment, hh hread, hstop⟩
  · exact .inr hall

theorem Shown.mono (hs : Shown stops h id) (hh : h ⊆ h') : Shown stops h' id := by
  cases hs with
  | gone hmem => exact .gone (hh hmem)
  | spared experiment hmem hnot => exact .spared experiment (hh hmem) hnot
  | stopped ttl experiment hmem hnot => exact .stopped ttl experiment (hh hmem) hnot
  | unlisted ids hmem hnot => exact .unlisted ids (hh hmem) hnot

/-- What shows it of all experiments shows it of some. -/
theorem Shown.weaken (hs : Shown stops h id)
    (hstops : ∀ experiment, stops' experiment → stops experiment) : Shown stops' h id := by
  cases hs with
  | gone hmem => exact .gone hmem
  | spared experiment hmem hnot =>
      exact .spared experiment hmem fun hboth => hnot ⟨hboth.1, hstops experiment hboth.2⟩
  | stopped ttl experiment hmem hnot => exact .stopped ttl experiment hmem hnot
  | unlisted ids hmem hnot => exact .unlisted ids hmem hnot

end Histories

/-- A client that stops some of the experiments and stores no other; what it reads under
an id has that id. -/
def chaosClient (stops : ChaosExperiment K → Prop) : Protocol (ChaosSig K) Exc where
  mayCall h o := match o with
    | .setex (.experiment id) _ v =>
        Chosen stops h id ∧ ∃ experiment now, ReadAt h id experiment ∧ v = experiment.stoppedAt now
    | .sleep seconds => 0 ≤ seconds
    | _ => True
  mayReply _ o r := match o with
    | .get (.experiment id) => ∀ experiment, r = .ok (some experiment) → experiment.id = id
    | _ => True

section Stops

variable {stops : ChaosExperiment K → Prop} {h : ChaosHistory K} {id : String} {α : Type}

theorem harmless_obeys {p : Chaos K α} (hp : p.Only ChaosOp.harmless) (h : ChaosHistory K) :
    Obeys (chaosClient stops) p (Returns h fun _ _ => True) h := by
  refine (Obeys.of_only hp ?_ h).returns
  intro h' o ho
  cases o with
  | setex k ttl v =>
      cases k with
      | experiment id => exact ho.elim
      | report id => trivial
  | sleep seconds => exact ho
  | _ => trivial

/-- The store's `stop_experiment`. -/
theorem storeStop_obeys (hchosen : Chosen stops h id) :
    Obeys (chaosClient stops) (ChaosExperimentStore.stopExperiment id)
      (Returns h fun _ h' => Shown stops h' id) h := by
  refine ⟨trivial, fun r hr => ?_⟩
  rcases r with e | - | (experiment : ChaosExperiment K)
  · exact Returns.raise (List.subset_cons_self _ _)
  · exact Returns.ret (List.subset_cons_self _ _) (.gone List.mem_cons_self)
  · obtain rfl : experiment.id = id := hr experiment rfl
    refine ⟨trivial, fun r _ => ?_⟩
    rcases r with e | now
    · exact Returns.raise fun _ hmem => by simp [hmem]
    · -- what is written is the stopped copy of what was read
      refine ⟨⟨hchosen.mono fun _ hmem => by simp [hmem], experiment, now, ?_, rfl⟩, fun r _ => ?_⟩
      · exact List.mem_cons_of_mem _ List.mem_cons_self
      · rcases r with e | ⟨⟩
        · exact Returns.raise fun _ hmem => by simp [hmem]
        · refine Returns.ret (fun _ hmem => by simp [hmem]) ?_
          refine .stopped _ _ List.mem_cons_self ?_
          show chaosStatusStopped ≠ chaosStatusRunning
          decide

/-- `stop_experiment`. -/
theorem stopExperiment_obeys (hchosen : Chosen stops h id) :
    Obeys (chaosClient stops) (stopExperiment id) (Returns h fun _ h' => Shown stops h' id) h := by
  apply (storeStop_obeys hchosen).bind_returns
  intro experiment h' _ hshown
  cases experiment with
  | none => exact Returns.ret (fun _ hmem => hmem) hshown
  | some experiment =>
      apply (harmless_obeys (recordRecovered_harmless experiment) h').bind_returns
      intro _ h'' hh _
      exact Returns.ret (fun _ hmem => hmem) (hshown.mono hh)

/-- The loop of `stop_all_experiments` and `stop_legacy_fault`. -/
theorem stopEach_obeys {experiments : List (ChaosExperiment K)}
    (hchosen : ∀ experiment ∈ experiments, Chosen stops h experiment.id) :
    Obeys (chaosClient stops) (stopEach experiments)
      (Returns h fun _ h' => ∀ experiment ∈ experiments, Shown stops h' experiment.id) h := by
  induction experiments generalizing h with
  | nil => exact Returns.ret (fun _ hmem => hmem) (by simp)
  | cons experiment experiments ih =>
      obtain ⟨hfirst, hrest⟩ := List.forall_mem_cons.mp hchosen
      apply (stopExperiment_obeys hfirst).bind_returns
      intro stopped h' hh hshown
      apply (ih fun e he => (hrest e he).mono hh).bind_returns
      intro n h'' hh' hall
      refine Returns.ret (fun _ hmem => hmem) ?_
      exact List.forall_mem_cons.mpr ⟨hshown.mono hh', hall⟩

/-- What a listing of the running experiments has read. -/
structure ListedIn (experiments : List (ChaosExperiment K)) (h : ChaosHistory K) : Prop where
  read : ∀ experiment ∈ experiments, ReadAt h experiment.id experiment
  running : ∀ experiment ∈ experiments, experiment.status = chaosStatusRunning

theorem ListedIn.mono {experiments : List (ChaosExperiment K)} {h h' : ChaosHistory K}
    (hl : ListedIn experiments h) (hh : h ⊆ h') : ListedIn experiments h' :=
  ⟨fun e he => hh (hl.read e he), hl.running⟩

/-- Every id is that of a running experiment, or shown to have none. -/
def Covers (experiments : List (ChaosExperiment K)) (h : ChaosHistory K) (id : String) : Prop :=
  (∃ experiment ∈ experiments, experiment.id = id) ∨ Shown (fun _ => True) h id

theorem listEach_obeys (ids : List String) (h : ChaosHistory K) :
    Obeys (chaosClient stops) (listEach false ids) (Returns h fun experiments h' =>
      ListedIn experiments h' ∧ ∀ id ∈ ids, Covers experiments h' id) h := by
  induction ids generalizing h with
  | nil => exact Returns.ret (fun _ hmem => hmem) ⟨⟨by simp, by simp⟩, by simp⟩
  | cons id ids ih =>
      refine ⟨trivial, fun r hr => ?_⟩
      rcases r with e | raw
      · exact Returns.raise (List.subset_cons_self _ _)
      show Obeys _ (listEach false ids >>= _) _ _
      refine ((ih _).bind_returns fun rest h' hh hrest => ?_).mono fun res h'' hres => hres.of_cons
      obtain ⟨hlisted, hcovers⟩ := hrest
      have hget : (⟨.get (.experiment id), .ok raw⟩ : Event (ChaosSig K) Exc) ∈ h' :=
        hh List.mem_cons_self
      cases raw with
      | none =>
          refine Returns.ret (fun _ hmem => hmem) ⟨hlisted, ?_⟩
          exact List.forall_mem_cons.mpr ⟨.inr (.gone hget), hcovers⟩
      | some experiment =>
          have hid : experiment.id = id := hr experiment rfl
          by_cases hrun : experiment.status = chaosStatusRunning
          · have hkeep : (false || experiment.status == chaosStatusRunning) = true := by
              simp [hrun]
            show Obeys _ (if (false || experiment.status == chaosStatusRunning) = true then
              pure (experiment :: rest) else pure rest) _ _
            rw [if_pos hkeep]
            refine Returns.ret (fun _ hmem => hmem) ⟨⟨?_, ?_⟩, ?_⟩
            · exact List.forall_mem_cons.mpr ⟨by rw [hid]; exact hget, hlisted.read⟩
            · exact List.forall_mem_cons.mpr ⟨hrun, hlisted.running⟩
            · refine List.forall_mem_cons.mpr ⟨.inl ⟨experiment, List.mem_cons_self, hid⟩, ?_⟩
              intro id' hid'
              rcases hcovers id' hid' with ⟨e, he, heq⟩ | hshown
              · exact .inl ⟨e, List.mem_cons_of_mem _ he, heq⟩
              · exact .inr hshown
          · have hskip : ¬ (false || experiment.status == chaosStatusRunning) = true := by
              simp [hrun]
            show Obeys _ (if (false || experiment.status == chaosStatusRunning) = true then
              pure (experiment :: rest) else pure rest) _ _
            rw [if_neg hskip]
            refine Returns.ret (fun _ hmem => hmem) ⟨hlisted, ?_⟩
            refine List.forall_mem_cons.mpr ⟨.inr (.spared experiment hget ?_), hcovers⟩
            exact fun hboth => hrun hboth.1

/-- `list_experiments` of the store. -/
theorem storeList_obeys (h : ChaosHistory K) :
    Obeys (chaosClient stops) (ChaosExperimentStore.listExperiments false)
      (Returns h fun experiments h' =>
        ListedIn experiments h' ∧ ∀ id, Covers experiments h' id) h := by
  refine ⟨trivial, fun r _ => ?_⟩
  rcases r with e | ids
  · exact Returns.raise (List.subset_cons_self _ _)
  refine ((listEach_obeys (pySorted ids) _).mono fun res h' hres => ?_)
  refine ⟨hres.of_cons.1, fun experiments hok => ?_⟩
  obtain ⟨hlisted, hcovers⟩ := hres.2 experiments hok
  refine ⟨hlisted, fun id => ?_⟩
  by_cases hid : id ∈ pySorted ids
  · exact hcovers id hid
  · -- the key was not in the listing
    refine .inr (.unlisted ids (hres.1 List.mem_cons_self) ?_)
    rwa [(pySorted_perm ids).mem_iff] at hid

/-- `stop_legacy_fault`. -/
theorem stopLegacyFault_obeys (faultType : String) (h : ChaosHistory K) :
    Obeys (chaosClient fun experiment => experiment.faultType = faultType)
      (stopLegacyFault faultType)
      (Returns h fun _ h' => ∀ id, Shown (fun experiment : ChaosExperiment K =>
        experiment.faultType = faultType) h' id) h := by
  apply (storeList_obeys h).bind_returns
  rintro experiments h' - ⟨hlisted, hcovers⟩
  -- what is listed but not of the type is spared
  have hother : ∀ id, (∃ experiment ∈ experiments.filter fun e => e.faultType = faultType,
      experiment.id = id) ∨
      Shown (fun experiment : ChaosExperiment K => experiment.faultType = faultType) h' id := by
    intro id
    rcases hcovers id with ⟨experiment, hmem, rfl⟩ | hshown
    · by_cases htype : experiment.faultType = faultType
      · exact .inl ⟨experiment, List.mem_filter.mpr ⟨hmem, by simpa using htype⟩, rfl⟩
      · exact .inr (.spared experiment (hlisted.read experiment hmem) fun hboth => htype hboth.2)
    · exact .inr (hshown.weaken fun _ _ => trivial)
  show Obeys _ (if (experiments.filter fun e => e.faultType = faultType).isEmpty = true then
    pure false else _) _ _
  by_cases hempty : (experiments.filter fun e => e.faultType = faultType).isEmpty = true
  · rw [if_pos hempty]
    refine Returns.ret (fun _ hmem => hmem) fun id => ?_
    rcases hother id with ⟨experiment, hmem, -⟩ | hshown
    · rw [List.isEmpty_iff.mp hempty] at hmem
      cases hmem
    · exact hshown
  · rw [if_neg hempty]
    apply Obeys.bind_returns (stopEach_obeys ?_)
    · intro n h'' hh hall
      refine Returns.ret (fun _ hmem => hmem) fun id => ?_
      rcases hother id with ⟨experiment, hmem, rfl⟩ | hshown
      · exact hall experiment hmem
      · exact hshown.mono hh
    · intro experiment hmem
      obtain ⟨hin, htype⟩ := List.mem_filter.mp hmem
      exact .inl ⟨experiment, hlisted.read experiment hin, by simpa using htype⟩

/-- `stop_all_experiments`. -/
theorem stopAllExperiments_obeys (h : ChaosHistory K) :
    Obeys (chaosClient fun _ : ChaosExperiment K => True) stopAllExperiments
      (Returns h fun _ h' => ∀ id, Shown (fun _ : ChaosExperiment K => True) h' id) h := by
  apply (storeList_obeys h).bind_returns
  rintro experiments h' - ⟨-, hcovers⟩
  refine (stopEach_obeys fun _ _ => .inr fun _ _ => trivial).mono fun res h'' hres => ?_
  refine ⟨hres.1, fun n hok id => ?_⟩
  rcases hcovers id with ⟨experiment, hmem, rfl⟩ | hshown
  · exact hres.2 n hok experiment hmem
  · exact hshown.mono hres.1

/-- A request is prepared with experiments of the listing. -/
theorem prepareEach_obeys (request : ChaosRequest) (experiments : List (ChaosExperiment K))
    (h : ChaosHistory K) :
    Obeys (chaosClient stops) (prepareEach request experiments)
      (Returns h fun active _ => active ⊆ experiments) h := by
  induction experiments generalizing h with
  | nil => exact Returns.ret (fun _ hmem => hmem) (fun _ hmem => hmem)
  | cons experiment experiments ih =>
      apply (harmless_obeys (matchRequest_harmless experiment request) h).bind_returns
      intro matched h₁ _ _
      have hskip : Obeys (chaosClient stops) (prepareEach request experiments)
          (Returns h₁ fun active _ => active ⊆ experiment :: experiments) h₁ :=
        (ih h₁).mono fun res h' hres =>
          ⟨hres.1, fun a ha => List.subset_cons_of_subset _ (hres.2 a ha)⟩
      cases matched with
      | false => exact hskip
      | true =>
          show Obeys _ (Prog.ofExcept (buildInjector experiment.faultType) >>= _) _ _
          apply (harmless_obeys (.ofExcept (buildInjector experiment.faultType)) h₁).bind_returns
          intro injector h₂ _ _
          apply (harmless_obeys (beforeRequest_harmless experiment injector) h₂).bind_returns
          intro _ h₃ _ _
          apply (ih h₃).bind_returns
          intro active h₄ _ hactive
          exact Returns.ret (fun _ hmem => hmem) (List.cons_subset_cons _ hactive)

/-- `prepare_request_experiments`. -/
theorem prepareRequestExperiments_obeys (request : ChaosRequest) (h : ChaosHistory K) :
    Obeys (chaosClient stops) (ChaosDemo.prepareRequestExperiments request)
      (Returns h fun active h' => ListedIn active h') h := by
  apply (harmless_obeys finalizeExpiredReports_harmless h).bind_returns
  intro _ h₁ _ _
  apply (storeList_obeys h₁).bind_returns
  rintro experiments h₂ - ⟨hlisted, -⟩
  refine (prepareEach_obeys request experiments h₂).mono fun res h' hres => ⟨hres.1, ?_⟩
  intro active hok
  have hsub := hres.2 active hok
  exact ⟨fun e he => hres.1 (hlisted.read e (hsub he)), fun e he => hlisted.running e (hsub he)⟩

end Stops

end ChaosDemo
