/-
ChaosDemo/SeparateTraces.lean

Whose trace is whose.  Any number of runs share the one collector, which knows a single
active trace: the one that was started last.  `finish_trace` leaves it active, and a run that
does without observability starts none, but its tools and engines ask for the active trace
all the same.

So the traces stay apart as long as every step that looks at the active trace finds there the
one its own run has started, and none for a run that has started none (`OwnActive`).  The
proof has three parts:

* what one run does for its trace, function by function (`Stays`);
* two runs never start the same trace (`Distinct`), whatever they do;
* both together, at the call that adds something to a trace (`Unmixed`).
-/
import ChaosDemo.Interleave
import ChaosDemo.RunBrackets

namespace ChaosDemo

open CallTree

namespace Observability

variable {ι α β : Type}

/-! ### Runs over one collector -/

/-- The code runs no agent of its own. -/
def Code.Flat : {role : Role} → Code role → Prop
  | _, .ret _ => True
  | _, .raise _ => True
  | _, .execute _ _ _ tool k => (∀ p, (tool p).Flat) ∧ ∀ r, (k r).Flat
  | _, .runEngine _ node _ k => (∀ i r, (node i r).Flat) ∧ ∀ r, (k r).Flat
  | _, .runState .. => False

/-- One run: its runtime, its nodes, and the state with the request.  A run that a node of it
starts is a run of its own, and its node is then the code that goes on with what that run
came to. -/
structure AgentRun where
  runtime : AgentRuntime
  node : ℕ → NodeReply → Code .node
  state : AgentState
  flat : ∀ i r, (node i r).Flat

/-- The `trace_id` of the answer, as `AIPlatformService.run` looks it up after the run: a run
that failed is answered without one. -/
def resultTrace (state : AgentState) : Observed (Option TraceId) :=
  if state.status = .failed then pure none else activeTrace

/-- The run of the agent with the look-up after it. -/
def AgentRun.program (env : TextEnv) (run : AgentRun) : Observed (Option TraceId) := do
  let state ← runState env run.runtime (fun i r => (run.node i r).observed env) run.state
  resultTrace state

/-- The collector of the process.  Nothing else moves. -/
def collectorWorld : World ObsSig PyError Telemetry where
  Choice := Unit
  Drift := Empty
  serve s o _ := some (serve s o)
  drift _ d := d.elim

abbrev ObsHistory := History ObsSig PyError

abbrev ObsLog (ι : Type) := Log ObsSig PyError Telemetry ι

/-- The runs before their first call; the collector is as it is. -/
def beforeRuns (env : TextEnv) (runs : ι → AgentRun) (s : Telemetry) :
    Config ObsSig PyError (Option TraceId) Telemetry ι where
  state := s
  thread i := (runs i).program env
  log := []

/-! ### The trace of a run -/

/-- The trace that a call of `start_trace` has made. -/
def starts : Event ObsSig PyError → Option TraceId
  | ⟨.startTrace _, .ok t⟩ => some t
  | _ => none

/-- The trace of a run: the one its calls have started, if any. -/
def started : ObsHistory → Option TraceId
  | [] => none
  | ev :: h => (starts ev).or (started h)

/-- The call looks at the active trace. -/
def consults : ObsOp → Bool
  | .activeTrace => true
  | .createSpan _ _ => true
  | .record event => event.traceId.isNone
  | _ => false

variable [DecidableEq ι]

/-- Whenever a call looked at the active trace, it was the trace of the caller. -/
def OwnActive : ObsLog ι → Prop
  | [] => True
  | e :: old =>
      (consults e.event.op = true →
        e.before.collector.activeTrace = started (own e.who old)) ∧ OwnActive old

/-- No trace has been finished. -/
def Unfinished (h : ObsHistory) : Prop := ∀ ev ∈ h, ∀ t, ev.op ≠ .finishTrace t

/-- What a run may call: it starts its trace first of all, if it starts one, finishes no
other, and adds to no other that it names. -/
def mayObserve (h : ObsHistory) : ObsOp → Prop
  | .startTrace _ => h = []
  | .createSpan _ _ => Unfinished h ∧ started h ≠ none
  | .record event => Unfinished h ∧ (event.traceId = none ∨ event.traceId = started h)
  | .finishTrace t => started h = some t
  | _ => True

/-- What it is answered: never an exception, and its own trace for the active one. -/
def mayBeTold (h : ObsHistory) : (o : ObsOp) → Except PyError (ObsSig.Ret o) → Prop
  | .activeTrace, r => r = .ok (started h)
  | _, r => ∃ v, r = .ok v

def tracedRun : Protocol ObsSig PyError := ⟨mayObserve, mayBeTold⟩

/-- The run is at work on its trace `t`, if it has one. -/
structure Working (t : Option TraceId) (h : ObsHistory) : Prop where
  trace : started h = t
  unfinished : Unfinished h

/-- A part of a run that leaves it at work on the trace `t`, and returns what satisfies `R`. -/
def Stays (t : Option TraceId) (p : Observed α) (R : α → Prop) : Prop :=
  ∀ h, Working t h → Obeys tracedRun p (fun res h' => Working t h' ∧ ∀ a, res = .ok a → R a) h

section Stays

variable {t : Option TraceId} {p : Observed α} {R : α → Prop} {R' : β → Prop}

theorem Stays.ret {a : α} (h : R a) : Stays t (.ret a) R := by
  intro hist hwork
  refine ⟨hwork, fun b hb => ?_⟩
  obtain rfl := Except.ok.inj hb
  exact h

theorem Stays.raise (e : PyError) : Stays t (.raise e : Observed α) R := by
  intro hist hwork
  refine ⟨hwork, fun b hb => ?_⟩
  cases hb

theorem Stays.bind {f : α → Observed β} (hp : Stays t p R) (hf : ∀ a, R a → Stays t (f a) R') :
    Stays t (p >>= f) R' := by
  intro h hwork
  apply (hp h hwork).bind
  · intro a h' hpost
    exact hf a (hpost.2 a rfl) h' hpost.1
  · intro e h' hpost
    refine ⟨hpost.1, fun b hb => ?_⟩
    cases hb

theorem Stays.weaken (hp : Stays t p R) {R₁ : α → Prop} (h : ∀ a, R a → R₁ a) :
    Stays t p R₁ :=
  fun hist hwork => (hp hist hwork).mono fun _ _ hpost =>
    ⟨hpost.1, fun a ha => h a (hpost.2 a ha)⟩

theorem Stays.attempt (hp : Stays t p R) : Stays t p.attempt fun _ => True :=
  fun h hwork => (hp h hwork).attempt fun _ _ hpost => ⟨hpost.1, fun _ _ => trivial⟩

/-- A call that neither starts nor finishes a trace. -/
theorem Working.cons {h : ObsHistory} {ev : Event ObsSig PyError} (hwork : Working t h)
    (hstart : starts ev = none) (hfinish : ∀ t', ev.op ≠ .finishTrace t') :
    Working t (ev :: h) := by
  constructor
  · show (starts ev).or (started h) = t
    rw [hstart, Option.none_or, hwork.trace]
  · exact List.forall_mem_cons.mpr ⟨hfinish, hwork.unfinished⟩

/-- A call of the collector that returns nothing. -/
theorem stays_perform (o : ObsOp) {R : ObsSig.Ret o → Prop}
    (hcall : ∀ h, Working t h → mayObserve h o)
    (hstart : ∀ r, starts ⟨o, r⟩ = none) (hfinish : ∀ t', o ≠ .finishTrace t')
    (hR : ∀ h r, Working t h → mayBeTold h o r → ∀ a, r = .ok a → R a) :
    Stays t (Prog.perform (S := ObsSig) o) R := by
  intro h hwork
  apply Obeys.perform (hcall h hwork)
  intro r hr
  exact ⟨hwork.cons (hstart r) hfinish, hR h r hwork hr⟩

theorem stays_activeTrace : Stays t activeTrace fun a => a = t := by
  apply stays_perform .activeTrace
  · exact fun _ _ => trivial
  · exact fun _ => rfl
  · exact fun _ h => by cases h
  · rintro h r hwork hr a rfl
    rw [Except.ok.inj hr, hwork.trace]

theorem stays_tracing : Stays t tracing fun b => b = t.isSome := by
  apply stays_activeTrace.bind
  rintro a rfl
  exact Stays.ret rfl

theorem stays_activeTraceId : Stays t activeTraceId fun a => some a = t := by
  apply stays_activeTrace.bind
  rintro a rfl
  cases a with
  | none => exact Stays.raise _
  | some a => exact Stays.ret rfl

/-- A call whose answer does not matter. -/
theorem stays_call (o : ObsOp) (hcall : ∀ h, Working t h → mayObserve h o)
    (hstart : ∀ r, starts ⟨o, r⟩ = none) (hfinish : ∀ t', o ≠ .finishTrace t') :
    Stays t (Prog.perform (S := ObsSig) o) fun _ => True :=
  stays_perform o hcall hstart hfinish fun _ _ _ _ _ _ => trivial

theorem stays_createSpan (name : String) (attributes : Dict) (ht : t ≠ none) :
    Stays t (createSpan name attributes) fun _ => True := by
  apply stays_call (.createSpan name attributes)
  · intro h hwork
    refine ⟨hwork.unfinished, ?_⟩
    rw [hwork.trace]
    exact ht
  · exact fun _ => rfl
  · exact fun _ h => by cases h

theorem stays_record {event : BaseEvent} (hevent : event.traceId = none ∨ event.traceId = t) :
    Stays t (record event) fun _ => True := by
  apply stays_call (.record event)
  · intro h hwork
    refine ⟨hwork.unfinished, ?_⟩
    rw [hwork.trace]
    exact hevent
  · exact fun _ => rfl
  · exact fun _ h => by cases h

theorem stays_finishSpan (span : SpanId) (status : SpanStatus) :
    Stays t (finishSpan span status) fun _ => True :=
  stays_call (.finishSpan span status) (fun _ _ => trivial) (fun _ => rfl) fun _ h => by cases h

theorem stays_addRunning (delta : ℤ) : Stays t (addRunning delta) fun _ => True :=
  stays_call (.addRunning delta) (fun _ _ => trivial) (fun _ => rfl) fun _ h => by cases h

theorem stays_setTraceId (traceId : Option TraceId) :
    Stays t (setTraceId traceId) fun _ => True :=
  stays_call (.setTraceId traceId) (fun _ _ => trivial) (fun _ => rfl) fun _ h => by cases h

/-! ### Function by function -/

/-- The trace of a span that was opened is the run's own. -/
def OwnSpan (t : Option TraceId) (opened : Option (TraceId × SpanId)) : Prop :=
  opened.map Prod.fst = none ∨ opened.map Prod.fst = t

theorem stays_openSpan (name : String) (attributes : Dict)
    {event : TraceId → SpanId → BaseEvent} (hevent : ∀ a span, (event a span).traceId = some a) :
    Stays t (openSpan name attributes event) (OwnSpan t) := by
  apply stays_tracing.bind
  rintro traced rfl
  cases t with
  | none => exact Stays.ret (.inl rfl)
  | some t =>
      apply stays_activeTraceId.bind
      intro a ha
      apply (stays_createSpan name attributes (Option.some_ne_none t)).bind
      intro span _
      apply (stays_record (.inr ((hevent a span).trans ha))).bind
      intro _ _
      exact Stays.ret (.inr ha)

theorem stays_closeTool (toolName : Json) (result : ToolExecutionResult)
    {opened : Option (TraceId × SpanId)} (hopened : OwnSpan t opened) :
    Stays t (closeTool toolName result opened) fun _ => True := by
  rcases opened with - | ⟨a, span⟩
  · exact Stays.ret trivial
  · apply (stays_finishSpan span _).bind
    intro _ _
    apply stays_record
    exact hopened

theorem stays_execute (executor : ToolExecutor) (toolName : Json) (params : Dict)
    {tool : Dict → Observed ToolReply} (htool : ∀ p, Stays t (tool p) fun _ => True) :
    Stays t (execute executor toolName params tool) fun _ => True := by
  apply (stays_openSpan _ _ fun _ _ => rfl).bind
  intro opened hopened
  rcases permission executor toolName with e | perm
  · exact Stays.raise e
  · cases perm with
    | some perm =>
        have hblock : Stays t (record (blockEvent (opened.map Prod.fst) perm
            [("tool_name", toolName)])) fun _ => True := stays_record hopened
        apply hblock.bind
        intro _ _
        exact Stays.ret trivial
    | none =>
        have hcall : Stays t (callTool executor toolName params tool) fun _ => True := by
          unfold callTool
          cases executor.prepare toolName params with
          | inl result => exact Stays.ret trivial
          | inr call =>
              apply (htool call.2).attempt.bind
              intro _ _
              exact Stays.ret trivial
        apply hcall.bind
        intro result _
        apply (stays_closeTool toolName result hopened).bind
        intro _ _
        exact Stays.ret trivial

theorem stays_closeNode (nodeName : String) (status : SpanStatus)
    {opened : Option (TraceId × SpanId)} (hopened : OwnSpan t opened) :
    Stays t (closeNode nodeName status opened) fun _ => True := by
  rcases opened with - | ⟨a, span⟩
  · exact Stays.ret trivial
  · apply (stays_finishSpan span status).bind
    intro _ _
    apply stays_tracing.bind
    rintro traced -
    cases traced with
    | true =>
        apply stays_record
        exact hopened
    | false => exact Stays.ret trivial

/-- The variable `trace_id` of the engine names the run's own trace. -/
theorem stays_runNodes {node : ℕ → NodeReply → Observed NodeReply}
    (hnode : ∀ i r, Stays t (node i r) fun _ => True) (nodes : List (String × ℕ))
    (traceId : Option TraceId) (current : AgentState) (htrace : traceId = none ∨ traceId = t) :
    Stays t (runNodes node nodes traceId current) fun end_ => end_.2 = none ∨ end_.2 = t := by
  induction nodes generalizing traceId current with
  | nil => exact Stays.ret htrace
  | cons named rest ih =>
      obtain ⟨name, i⟩ := named
      apply (stays_openSpan _ _ fun _ _ => rfl).bind
      intro opened hopened
      apply (hnode i (.state current)).attempt.bind
      intro reply _
      cases reply with
      | ok result =>
          apply (stays_closeNode name .ok hopened).bind
          intro _ _
          apply ih
          rcases hopened with hnone | hown
          · rw [hnone, Option.none_or]
            exact htrace
          · rw [hown]
            cases t with
            | none => exact htrace
            | some t => exact .inr rfl
      | error e =>
          apply (stays_closeNode name .error hopened).bind
          intro _ _
          exact Stays.raise e

theorem stays_runEngine (engine : WorkflowEngine) {node : ℕ → NodeReply → Observed NodeReply}
    (hnode : ∀ i r, Stays t (node i r) fun _ => True) (state : AgentState) :
    Stays t (runEngine engine node state) fun _ => True := by
  have hopen : Stays t (openWorkflow (engine.ordered.map Prod.fst))
      fun a => a = none ∨ a = t := by
    apply stays_tracing.bind
    rintro traced -
    cases traced with
    | false => exact Stays.ret (.inl rfl)
    | true =>
        apply stays_activeTraceId.bind
        intro a ha
        apply (stays_record (.inr ha)).bind
        intro _ _
        exact Stays.ret (.inr ha)
  apply hopen.bind
  intro traceId htrace
  apply (stays_runNodes hnode engine.ordered traceId state htrace).bind
  rintro ⟨current, traceId'⟩ htrace'
  have hclose : Stays t (closeWorkflow traceId.isSome traceId' engine.ordered.length)
      fun _ => True := by
    unfold closeWorkflow
    split
    · apply stays_tracing.bind
      rintro traced -
      cases traced with
      | true => exact stays_record htrace'
      | false => exact Stays.ret trivial
    · exact Stays.ret trivial
  apply hclose.bind
  intro _ _
  exact Stays.ret trivial

theorem stays_runSteps {node : ℕ → NodeReply → Observed NodeReply}
    (hnode : ∀ i r, Stays t (node i r) fun _ => True) (steps : List ℕ) (state : AgentState)
    (result : NodeReply) : Stays t (runSteps node steps state result) fun _ => True := by
  induction steps generalizing state result with
  | nil => exact Stays.ret trivial
  | cons i rest ih =>
      apply (hnode i _).bind
      intro result' _
      exact ih _ result'

theorem stays_dispatch (workflow : RunWorkflow) {node : ℕ → NodeReply → Observed NodeReply}
    (hnode : ∀ i r, Stays t (node i r) fun _ => True) (state : AgentState) :
    Stays t (dispatch workflow node state) fun _ => True := by
  cases workflow with
  | none => exact Stays.ret trivial
  | engine e =>
      apply (stays_runEngine e hnode state).bind
      intro _ _
      exact Stays.ret trivial
  | steps count => exact stays_runSteps hnode _ state _
  | callable => exact hnode 0 _

/-- What a node or a tool does, as long as it runs no agent. -/
theorem Code.stays (env : TextEnv) {role : Role} (code : Code role) (hflat : code.Flat) :
    Stays t (code.observed env) fun _ => True := by
  induction code with
  | ret r => exact Stays.ret trivial
  | raise e => exact Stays.raise e
  | execute executor toolName params tool k ihtool ihk =>
      apply (stays_execute executor toolName params fun p => ihtool p (hflat.1 p)).attempt.bind
      intro result _
      exact ihk result (hflat.2 result)
  | runEngine engine node state k ihnode ihk =>
      apply (stays_runEngine engine (fun i r => ihnode i r (hflat.1 i r)) state).attempt.bind
      intro result _
      exact ihk result (hflat.2 result)
  | runState runtime node state k _ _ => exact hflat.elim

end Stays

/-! ### A whole run -/

/-- The run has a trace, or does without one. -/
theorem working_nil : Working none [] := ⟨rfl, fun _ h => by cases h⟩

/-- What holds at the end of a run: a trace in its answer is its own. -/
def OwnAnswer : Post ObsSig PyError (Option TraceId) := fun res h =>
  ∀ t, res = .ok (some t) → started h = some t

theorem obeys_resultTrace (state : AgentState) (h : ObsHistory) :
    Obeys tracedRun (resultTrace state) OwnAnswer h := by
  unfold resultTrace
  split
  · intro t ht
    cases ht
  · refine ⟨trivial, fun r hr => ?_⟩
    obtain rfl : r = .ok (started h) := hr
    intro t ht
    exact Except.ok.inj ht

/-- The exits of a run, after which it calls only what is no longer about its trace. -/
theorem obeys_closeRun {event : TraceId → BaseEvent} (hevent : ∀ a, (event a).traceId = some a)
    {t : Option TraceId} {h : ObsHistory} (hwork : Working t h) :
    Obeys tracedRun (closeRun event t) (fun _ _ => True) h := by
  cases t with
  | none => exact trivial
  | some t =>
      refine ((stays_record (.inr (hevent t))) h hwork).bind (fun _ h' hpost => ?_) fun _ _ _ => trivial
      refine ⟨hpost.1.trace, fun r hr => ?_⟩
      obtain ⟨v, rfl⟩ := hr
      refine ⟨trivial, fun r hr => ?_⟩
      obtain ⟨v, rfl⟩ := hr
      exact ⟨trivial, fun r _ => obeys_ofExcept.mpr trivial⟩

theorem obeys_recordBlock (result : SecurityResult) (request : Json) {t : Option TraceId}
    {h : ObsHistory} (hwork : Working t h) :
    Obeys tracedRun (recordBlock result request t) (fun _ _ => True) h := by
  cases t with
  | none => exact trivial
  | some t =>
      have hblock : Stays (some t) (record (blockEvent (some t) result
          [("request", .str (textHead 200 request.pyStr))])) fun _ => True := stays_record (.inr rfl)
      refine (hblock h hwork).bind (fun _ h' hpost => ?_) fun _ _ _ => trivial
      exact ⟨hpost.1.trace, fun r _ => obeys_ofExcept.mpr trivial⟩

/-- A run begins by starting its trace, if it is to have one. -/
theorem obeys_openRun (runtime : AgentRuntime) (request : Json) :
    Obeys tracedRun (openRun runtime request)
      (fun res h => ∀ t, res = .ok t → Working t h) [] := by
  unfold openRun
  split
  · refine ⟨rfl, fun r hr => ?_⟩
    obtain ⟨t, rfl⟩ := hr
    have hwork : Working (some t) [⟨.startTrace _, .ok t⟩] :=
      ⟨rfl, List.forall_mem_singleton.mpr fun _ h => by cases h⟩
    have hrest : Stays (some t) (do
        record (agentStart t request)
        addRunning 1
        setTraceId (some t)
        pure (some t)) fun a => a = some t := by
      have hstart : Stays (some t) (record (agentStart t request)) fun _ => True :=
        stays_record (.inr rfl)
      apply hstart.bind
      intro _ _
      apply (stays_addRunning 1).bind
      intro _ _
      apply (stays_setTraceId (some t)).bind
      intro _ _
      exact Stays.ret rfl
    refine (hrest _ hwork).mono fun res h hpost a ha => ?_
    obtain rfl := hpost.2 a ha
    exact hpost.1
  · intro t ht
    obtain rfl : none = t := Except.ok.inj ht
    exact working_nil

theorem AgentRun.obeys (env : TextEnv) (run : AgentRun) :
    Obeys tracedRun (run.program env) OwnAnswer [] := by
  have hnode : ∀ t i r, Stays t ((run.node i r).observed env) fun _ => True := fun t i r =>
    Code.stays env _ (run.flat i r)
  have hrun : Obeys tracedRun (runState env run.runtime
      (fun i r => (run.node i r).observed env) run.state) (fun _ _ => True) [] := by
    apply (obeys_openRun run.runtime run.state.request).bind
    · intro t h hwork
      have hwork := hwork t rfl
      split
      · refine (obeys_recordBlock _ _ hwork).bind (fun _ _ _ => ?_) fun _ _ _ => trivial
        exact trivial
      · have hdispatch := (stays_dispatch run.runtime.workflow (hnode t)
          { run.state with status := .running }).attempt h hwork
        refine hdispatch.bind (fun outcome h' hpost => ?_) fun _ _ _ => trivial
        cases outcome with
        | ok result =>
            refine (obeys_closeRun (fun _ => rfl) hpost.1).bind (fun _ _ _ => ?_)
              fun _ _ _ => trivial
            exact trivial
        | error e =>
            refine (obeys_closeRun (fun _ => rfl) hpost.1).bind (fun _ _ _ => ?_)
              fun _ _ _ => trivial
            exact trivial
    · exact fun _ _ _ => trivial
  refine hrun.bind (fun state h _ => obeys_resultTrace state h) fun e h _ t ht => ?_
  cases ht

/-! ### The collector -/

theorem traces_le_serve (s : Telemetry) (o : ObsOp) :
    s.collector.traces.length ≤ (serve s o).2.collector.traces.length := by
  cases o with
  | startTrace metadata => simp [serve, answer, Collector.startTrace]
  | createSpan name attributes =>
      cases hactive : s.collector.activeTrace <;>
        simp [serve, answer, Collector.createSpan, hactive, Collector.startTrace, Collector.addSpan]
  | finishTrace t => simp [serve, answer, Collector.finishTrace]
  | _ => exact le_refl _

/-- A trace that is started is new. -/
theorem starts_serve {s : Telemetry} {o : ObsOp} {t : TraceId}
    (h : starts ⟨o, (serve s o).1⟩ = some t) :
    t = s.collector.traces.length ∧ t < (serve s o).2.collector.traces.length := by
  cases o with
  | startTrace metadata =>
      obtain rfl : s.collector.traces.length = t := Option.some.inj h
      simp [serve, answer, Collector.startTrace]
  | _ => cases h

/-- The traces that the runs have started: all there, and no two the same. -/
structure Distinct (s : Telemetry) (l : ObsLog ι) : Prop where
  made : ∀ i t, started (own i l) = some t → t < s.collector.traces.length
  apart : ∀ i j t, started (own i l) = some t → started (own j l) = some t → i = j

/-- A call more of one run: the traces of the others are what they were. -/
theorem started_cons_cases {e : Entry ObsSig PyError Telemetry ι} {l : ObsLog ι} {i : ι}
    {t : TraceId} (h : started (own i (e :: l)) = some t) :
    (e.who = i ∧ starts e.event = some t) ∨ started (own i l) = some t := by
  by_cases hi : e.who = i
  · subst hi
    rw [own_cons_self] at h
    rcases Option.or_eq_some_iff.mp h with hnew | ⟨-, hold⟩
    · exact .inl ⟨rfl, hnew⟩
    · exact .inr hold
  · rw [own_cons_of_ne hi] at h
    exact .inr h

theorem Distinct.call {s : Telemetry} {l : ObsLog ι} (h : Distinct s l) (i : ι) (o : ObsOp) :
    Distinct (serve s o).2 (⟨i, ⟨o, (serve s o).1⟩, s, (serve s o).2⟩ :: l) := by
  constructor
  · intro j t ht
    rcases started_cons_cases ht with ⟨-, hnew⟩ | hold
    · exact (starts_serve hnew).2
    · exact lt_of_lt_of_le (h.made j t hold) (traces_le_serve s o)
  · intro j k t hj hk
    rcases started_cons_cases hj with ⟨rfl, hnew⟩ | hold
    · rcases started_cons_cases hk with ⟨hik, -⟩ | hold'
      · exact hik
      · -- a trace that is new cannot have been started before
        exact absurd (h.made k t hold') (starts_serve hnew).1.not_lt
    · rcases started_cons_cases hk with ⟨-, hnew⟩ | hold'
      · exact absurd (h.made j t hold) (starts_serve hnew).1.not_lt
      · exact h.apart j k t hold hold'

section Runs

variable {env : TextEnv} {runs : ι → AgentRun} {s₀ : Telemetry}
  {c : Config ObsSig PyError (Option TraceId) Telemetry ι}

/-- A call in the log: its run was allowed to make it, the collector has served it, and where
it looked at the active trace, it was that of the run. -/
structure Served (old : ObsLog ι) (e : Entry ObsSig PyError Telemetry ι) : Prop where
  allowed : mayObserve (own e.who old) e.event.op
  after : e.after = (serve e.before e.event.op).2
  active : consults e.event.op = true →
    e.before.collector.activeTrace = started (own e.who old)

end Runs

/-! ### Runs that mix, and runs that do not -/

instance decidableOwnActive : DecidablePred (OwnActive : ObsLog ι → Prop)
  | [] => .isTrue trivial
  | e :: old =>
      have := decidableOwnActive old
      inferInstanceAs (Decidable ((consults e.event.op = true →
        e.before.collector.activeTrace = started (own e.who old)) ∧ OwnActive old))

/-- Run `true` is observed and calls its tool from the one node of its engine; run `false` is
not observed, and its workflow is a function that calls the same tool. -/
def observedOrNot (observed : Bool) : AgentRun where
  runtime := if observed then oneNode else { workflow := .callable, observabilityEnabled := false }
  node _ _ := askingNode {}
  state := { request := .str "where is my order" }
  flat _ _ := ⟨fun _ => trivial, fun _ => trivial⟩

/-- So many calls of each run in turn. -/
def turns (l : List (Bool × ℕ)) : List (Move collectorWorld Bool) :=
  l.flatMap fun turn => List.replicate turn.2 (.call turn.1 ())

/-- The run that is not observed comes first, while there is no trace. -/
def inOrder : Option (Config ObsSig PyError (Option TraceId) Telemetry Bool) :=
  (beforeRuns plainText observedOrNot {}).runWhile collectorWorld (fun _ l => OwnActive l)
    (turns [(false, 2), (true, 27)])

end Observability

end ChaosDemo
