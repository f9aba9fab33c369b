/-
ChaosDemo/RunBrackets.lean

A run of an agent that closes every bracket it opens.  Spans, the events of the agent, of
workflows, nodes and tools, the gauge of running agents and the logger's trace id are all
opened and closed by hand, on the exits that the source thinks of.

The events are judged piece by piece with `Brackets.Verdict`: what a part of a run adds to
the collector's events is bracketed where its conduct is tidy, and dangling where it is
not, whatever the collector held before (`Kept`).  `Conducts` says this of a program, and
there is one such theorem for each of the three components:

    conducts_execute,  conducts_runEngine,  conducts_runState

An engine is the one place where two brackets could be mixed up: its end event carries the
trace that the last of its nodes found active, which `runNodes_trace` follows.
-/
import ChaosDemo.Brackets
import ChaosDemo.Conduct

namespace ChaosDemo

open CallTree Brackets

namespace Observability

/-! ### The brackets -/

/-- The components that open brackets. -/
inductive Component
  | agent
  | workflow
  | node
  | tool
deriving DecidableEq

/-- What a closing event has in common with the event it closes. -/
abbrev BracketKey := Component × Option TraceId × Option SpanId

/-- The side of an event. -/
def side (e : BaseEvent) : Side BracketKey :=
  match e.eventType with
  | .agentRunStart => .opens (.agent, e.traceId, e.spanId)
  | .agentRunEnd => .closes (.agent, e.traceId, e.spanId)
  | .agentError => .closes (.agent, e.traceId, e.spanId)
  | .workflowStart => .opens (.workflow, e.traceId, e.spanId)
  | .workflowEnd => .closes (.workflow, e.traceId, e.spanId)
  | .nodeStart => .opens (.node, e.traceId, e.spanId)
  | .nodeEnd => .closes (.node, e.traceId, e.spanId)
  | .toolCall => .opens (.tool, e.traceId, e.spanId)
  | .toolResult => .closes (.tool, e.traceId, e.spanId)
  | .securityBlock => .plain
  | .evaluationStart => .plain
  | .evaluationResult => .plain

/-- What a run leaves of the brackets: all its spans finished, its events bracketed, the
gauge as it was and the logger without a trace id. -/
structure ProperlyBracketed (before after : Telemetry) : Prop where
  spans : ∀ span ∈ after.collector.spans.drop before.collector.spans.length, span.finished = true
  events : Bracketed side (after.collector.events.drop before.collector.events.length)
  running : after.collector.running = before.collector.running
  traceId : after.traceId = none

/-! ### What a part of a run leaves -/

/-- What a part of a run leaves of the collector, where `s` is the state before it. -/
structure Kept (s : Telemetry) (tidy starts : Bool) (s' : Telemetry) : Prop where
  events : ∃ es, s'.collector.events = s.collector.events ++ es ∧ Verdict side es (tidy = true)
  spans : ∃ new, s'.collector.spans = s.collector.spans ++ new ∧
    (tidy = true → ∀ span ∈ new, span.finished = true)
  running : tidy = true → s'.collector.running = s.collector.running
  traces : s.collector.traces.length ≤ s'.collector.traces.length
  same : starts = false → s'.collector.activeTrace = s.collector.activeTrace
  later : starts = true → ∃ t, s'.collector.activeTrace = some t ∧ s.collector.traces.length ≤ t

namespace Kept

variable {s s₁ s₂ : Telemetry} {tidy tidy' starts starts' : Bool}

theorem refl (s : Telemetry) : Kept s true false s where
  events := ⟨[], by simp, .nil rfl⟩
  spans := ⟨[], by simp, by simp⟩
  running := fun _ => rfl
  traces := le_refl _
  same := fun _ => rfl
  later := by simp

theorem trans (h : Kept s tidy starts s₁) (h' : Kept s₁ tidy' starts' s₂) :
    Kept s (tidy && tidy') (starts || starts') s₂ where
  events := by
    obtain ⟨es, hes, hv⟩ := h.events
    obtain ⟨es', hes', hv'⟩ := h'.events
    refine ⟨es ++ es', by rw [hes', hes, List.append_assoc], ?_⟩
    exact (hv.append hv').congr (by simp)
  spans := by
    obtain ⟨new, hnew, hfin⟩ := h.spans
    obtain ⟨new', hnew', hfin'⟩ := h'.spans
    refine ⟨new ++ new', by rw [hnew', hnew, List.append_assoc], ?_⟩
    intro htidy span hspan
    obtain ⟨ht, ht'⟩ := Bool.and_eq_true_iff.mp htidy
    rcases List.mem_append.mp hspan with hmem | hmem
    · exact hfin ht span hmem
    · exact hfin' ht' span hmem
  running := by
    intro htidy
    obtain ⟨ht, ht'⟩ := Bool.and_eq_true_iff.mp htidy
    rw [h'.running ht', h.running ht]
  traces := h.traces.trans h'.traces
  same := by
    intro hstarts
    obtain ⟨hs, hs'⟩ := Bool.or_eq_false_iff.mp hstarts
    rw [h'.same hs', h.same hs]
  later := by
    intro hstarts
    rcases hs' : starts' with - | -
    · -- the later part left the trace that the earlier one started
      obtain ⟨t, ht, hle⟩ := h.later (by simpa [hs'] using hstarts)
      exact ⟨t, by rw [h'.same hs', ht], hle⟩
    · obtain ⟨t, ht, hle⟩ := h'.later hs'
      exact ⟨t, ht, h.traces.trans hle⟩

/-- Where there was an active trace there is one. -/
theorem active (h : Kept s tidy starts s₁) {a : TraceId}
    (ha : s.collector.activeTrace = some a) : ∃ a', s₁.collector.activeTrace = some a' := by
  rcases hs : starts with - | -
  · exact ⟨a, by rw [h.same hs, ha]⟩
  · obtain ⟨t, ht, -⟩ := h.later hs
    exact ⟨t, ht⟩

end Kept

/-- A program that runs as `c` says, wherever there is an active trace. -/
def Conducts {α : Type} (p : Observed α) (c : Conduct α) : Prop :=
  ∀ s a, s.collector.activeTrace = some a →
    ∃ s', p.eval serve s = (c.outcome, s') ∧ Kept s c.tidy c.starts s'

namespace Conducts

variable {α β : Type} {p : Observed α} {c : Conduct α}

theorem ret (a : α) : Conducts (.ret a) { outcome := .ok a } :=
  fun s _ _ => ⟨s, rfl, .refl s⟩

theorem raise (e : PyError) : Conducts (.raise e : Observed α) { outcome := .error e } :=
  fun s _ _ => ⟨s, rfl, .refl s⟩

theorem bind {f : α → Observed β} {g : α → Conduct β} (hp : Conducts p c)
    (hf : ∀ a, c.outcome = .ok a → Conducts (f a) (g a)) : Conducts (p >>= f) (c.bind g) := by
  intro s a ha
  obtain ⟨s₁, hrun, hkept⟩ := hp s a ha
  rcases hout : c.outcome with e | v
  · refine ⟨s₁, ?_, ?_⟩
    · rw [Prog.eval_bind, hrun, hout]
      simp only [Conduct.bind, hout]
    · simpa only [Conduct.bind, hout] using hkept
  · obtain ⟨a₁, ha₁⟩ := hkept.active ha
    obtain ⟨s₂, hrun₂, hkept₂⟩ := hf v hout s₁ a₁ ha₁
    refine ⟨s₂, ?_, ?_⟩
    · rw [Prog.eval_bind, hrun, hout]
      simpa only [Conduct.bind, hout] using hrun₂
    · simpa only [Conduct.bind, hout] using hkept.trans hkept₂

theorem attempt (hp : Conducts p c) : Conducts p.attempt c.attempt := by
  intro s a ha
  obtain ⟨s₁, hrun, hkept⟩ := hp s a ha
  refine ⟨s₁, ?_, hkept⟩
  rw [Prog.eval_attempt, hrun]
  rfl

end Conducts

/-! ### Spans with their events -/

/-- The state after `openSpan`. -/
def Telemetry.opened (s : Telemetry) (t : TraceId) (name : String) (attributes : Dict)
    (event : TraceId → SpanId → BaseEvent) : Telemetry :=
  { s with
    collector := (s.collector.addSpan t name attributes).record (event t s.collector.spans.length) }

/-- The state after the end of a span. -/
def Telemetry.closed (s : Telemetry) (span : SpanId) (status : SpanStatus) (event : BaseEvent) :
    Telemetry :=
  { s with collector := (s.collector.finishSpan span status).record event }

theorem eval_tracing {α : Type} {f : Bool → Observed α} {s : Telemetry} {a : TraceId}
    (ha : s.collector.activeTrace = some a) :
    (tracing >>= f).eval serve s = (f true).eval serve s := by
  show (f s.collector.activeTrace.isSome).eval serve s = _
  rw [ha]
  rfl

theorem eval_activeTraceId {α : Type} {f : TraceId → Observed α} {s : Telemetry} {a : TraceId}
    (ha : s.collector.activeTrace = some a) :
    (activeTraceId >>= f).eval serve s = (f a).eval serve s := by
  have hread : activeTraceId.eval serve s = (.ok a, s) := by
    have hactive : activeTrace.eval serve s = (.ok (some a), s) := by
      rw [← ha]
      rfl
    rw [activeTraceId, Prog.eval_bind_ok hactive]
    rfl
  rw [Prog.eval_bind_ok hread]

theorem eval_openSpan {α : Type} {f : Option (TraceId × SpanId) → Observed α} {s : Telemetry}
    {a : TraceId} (ha : s.collector.activeTrace = some a) (name : String) (attributes : Dict)
    (event : TraceId → SpanId → BaseEvent) :
    (openSpan name attributes event >>= f).eval serve s =
      (f (some (a, s.collector.spans.length))).eval serve (s.opened a name attributes event) := by
  have hopen : (openSpan name attributes event).eval serve s =
      (.ok (some (a, s.collector.spans.length)), s.opened a name attributes event) := by
    rw [openSpan, eval_tracing ha, if_pos rfl, eval_activeTraceId ha]
    show (Except.ok (some (a, s.collector.spans.length)),
      { s with collector := (s.collector.createSpan name attributes).record _ }) = _
    rw [Collector.createSpan, ha]
    rfl
  rw [Prog.eval_bind_ok hopen]

theorem modify_length_append {α : Type} (l r : List α) (a : α) (f : α → α) :
    (l ++ a :: r).modify l.length f = l ++ f a :: r := by
  induction l with
  | nil => rfl
  | cons b l ih => simpa using ih

section Span

variable {s s₂ : Telemetry} {t : TraceId} {name : String} {attributes : Dict}
  {event : TraceId → SpanId → BaseEvent} {tidy starts : Bool} {k : BracketKey}

/-- The event of an open span is written with its own trace. -/
theorem events_opened (htrace : (event t s.collector.spans.length).traceId = some t) :
    (s.opened t name attributes event).collector.events =
      s.collector.events ++ [event t s.collector.spans.length] := by
  show s.collector.events ++ [_] = _
  rw [htrace, Option.some_or, ← htrace]

theorem events_closed {span : SpanId} {status : SpanStatus} {e : BaseEvent}
    (htrace : e.traceId = some t) :
    (s.closed span status e).collector.events = s.collector.events ++ [e] := by
  show s.collector.events ++ [_] = _
  rw [htrace, Option.some_or, ← htrace]

/-- A span around a part of a run, with its two events. -/
theorem Kept.span (hopens : side (event t s.collector.spans.length) = .opens k)
    (htrace : (event t s.collector.spans.length).traceId = some t)
    (h : Kept (s.opened t name attributes event) tidy starts s₂) {e : BaseEvent}
    {status : SpanStatus} (hcloses : side e = .closes k) (htrace' : e.traceId = some t) :
    Kept s tidy starts (s₂.closed s.collector.spans.length status e) where
  events := by
    obtain ⟨es, hes, hv⟩ := h.events
    refine ⟨event t s.collector.spans.length :: (es ++ [e]), ?_, ?_⟩
    · rw [events_closed htrace', hes, events_opened htrace]
      simp
    · exact (hv.wrap hopens hcloses).congr (by simp)
  spans := by
    obtain ⟨new, hnew, hfin⟩ := h.spans
    refine ⟨({ trace := t, name := name, attributes := attributes } : Span).finish status :: new,
      ?_, ?_⟩
    · show s₂.collector.spans.modify s.collector.spans.length _ = _
      rw [hnew]
      show (s.collector.spans ++ [_] ++ new).modify s.collector.spans.length _ = _
      rw [List.append_assoc, List.singleton_append, modify_length_append]
    · intro htidy span hspan
      rcases List.mem_cons.mp hspan with rfl | hmem
      · rfl
      · exact hfin htidy span hmem
  running := h.running
  traces := h.traces
  same := h.same
  later := h.later

/-- A span that is never closed, with its event. -/
theorem Kept.unclosed (hopens : side (event t s.collector.spans.length) = .opens k)
    (htrace : (event t s.collector.spans.length).traceId = some t)
    (h : Kept (s.opened t name attributes event) tidy starts s₂) : Kept s false starts s₂ where
  events := by
    obtain ⟨es, hes, hv⟩ := h.events
    refine ⟨event t s.collector.spans.length :: es, ?_, ?_⟩
    · rw [hes, events_opened htrace]
      simp
    · exact (hv.unclosed hopens).congr (by simp)
  spans := by
    obtain ⟨new, hnew, -⟩ := h.spans
    refine ⟨{ trace := t, name := name, attributes := attributes } :: new, ?_, by simp⟩
    rw [hnew]
    show s.collector.spans ++ [_] ++ new = _
    rw [List.append_assoc, List.singleton_append]
  running := by simp
  traces := h.traces
  same := h.same
  later := h.later

end Span

/-- An event that is no bracket changes nothing of what counts. -/
theorem Kept.record {s s₂ : Telemetry} {tidy starts : Bool} (h : Kept s tidy starts s₂)
    {e : BaseEvent} (he : ∀ t, side { e with traceId := t } = .plain) :
    Kept s tidy starts { s₂ with collector := s₂.collector.record e } where
  events := by
    obtain ⟨es, hes, hv⟩ := h.events
    refine ⟨es ++ [{ e with traceId := e.traceId.or s₂.collector.activeTrace }], ?_, ?_⟩
    · show s₂.collector.events ++ [_] = _
      rw [hes, List.append_assoc]
    · have hplain : Verdict side [{ e with traceId := e.traceId.or s₂.collector.activeTrace }] True :=
        (Verdict.nil trivial).plain (he _)
      exact (hv.append hplain).congr (by simp)
  spans := h.spans
  running := h.running
  traces := h.traces
  same := h.same
  later := h.later

/-! ### Tools -/

section Execute

variable {executor : ToolExecutor} {toolName : Json} {params : Dict}
  {tool : Dict → Observed ToolReply} {c : Dict → Conduct ToolReply}

theorem conducts_callTool (h : ∀ p, Conducts (tool p) (c p)) :
    Conducts (callTool executor toolName params tool)
      (callConduct executor toolName params c) := by
  unfold callTool callConduct
  rcases executor.prepare toolName params with result | ⟨name, params'⟩
  · exact .ret result
  · exact (h params').attempt.bind fun reply _ => .ret (settle name reply)

theorem callConduct_returns :
    ∃ result, (callConduct executor toolName params c).outcome = .ok result := by
  unfold callConduct
  rcases executor.prepare toolName params with result | ⟨name, params'⟩
  · exact ⟨result, rfl⟩
  · exact ⟨settle name (c params').outcome, rfl⟩

theorem conducts_execute (h : ∀ p, Conducts (tool p) (c p)) :
    Conducts (execute executor toolName params tool)
      (executeConduct executor toolName params c) := by
  intro s a ha
  rw [execute, eval_openSpan ha, executeConduct]
  let s₁ := s.opened a ("tool." ++ toolName.pyStr) [("tool", toolName)] (toolCall toolName params)
  rcases permission executor toolName with e | perm
  · exact ⟨s₁, rfl, (Kept.refl s₁).unclosed rfl rfl⟩
  · rcases perm with - | perm
    · -- the call is let through: its span is closed on every exit
      have ha₁ : s₁.collector.activeTrace = some a := ha
      have hcall : Conducts (callTool executor toolName params tool)
          (callConduct executor toolName params c) := conducts_callTool h
      obtain ⟨s₂, hrun, hkept⟩ := hcall s₁ a ha₁
      obtain ⟨result, hresult⟩ :
          ∃ result, (callConduct executor toolName params c).outcome = .ok result :=
        callConduct_returns
      rw [hresult] at hrun
      refine ⟨s₂.closed s.collector.spans.length (if result.ok then .ok else .error)
        (toolResult toolName a s.collector.spans.length result), ?_, hkept.span rfl rfl rfl rfl⟩
      rw [hresult]
      exact Prog.eval_bind_ok hrun
    · exact ⟨_, rfl, ((Kept.refl s₁).unclosed rfl rfl).record fun _ => rfl⟩

end Execute

/-! ### Engines -/

section Nodes

variable {node : ℕ → NodeReply → Observed NodeReply} {c : ℕ → NodeReply → Conduct NodeReply}

/-- Where the local variable `trace_id` stands after the loop: still at `a`, or at a trace
that was started since. -/
def LastTrace (s : Telemetry) (a : TraceId) (displaced : Bool) (last : Option TraceId) : Prop :=
  if displaced then ∃ t, last = some t ∧ s.collector.traces.length ≤ t else last = some a

theorem eval_closeNode {α : Type} {f : Unit → Observed α} {s : Telemetry} {a' : TraceId}
    (ha : s.collector.activeTrace = some a') (nodeName : String) (status : SpanStatus)
    (t : TraceId) (span : SpanId) :
    (closeNode nodeName status (some (t, span)) >>= f).eval serve s =
      (f ()).eval serve (s.closed span status (nodeEnd nodeName t span status)) := by
  let s₁ : Telemetry := { s with collector := s.collector.finishSpan span status }
  have ha₁ : s₁.collector.activeTrace = some a' := ha
  have hclose : (closeNode nodeName status (some (t, span))).eval serve s =
      (.ok (), s.closed span status (nodeEnd nodeName t span status)) := by
    show (tracing >>= _).eval serve s₁ = _
    rw [eval_tracing ha₁]
    rfl
  rw [Prog.eval_bind_ok hclose]

/-- **The loop over the nodes.**  It comes to what its nodes come to, and its local
variable leaves the trace `a` only where a node moved the active trace for a later one. -/
theorem runNodes_trace (h : ∀ i r, Conducts (node i r) (c i r)) (nodes : List (String × ℕ))
    (traceId : Option TraceId) (current : AgentState) (s : Telemetry) {a : TraceId}
    (ha : s.collector.activeTrace = some a) :
    ∃ s' last, (runNodes node nodes traceId current).eval serve s =
        ((nodesConduct c nodes current).outcome.map fun state => (state, last), s') ∧
      Kept s (nodesConduct c nodes current).tidy (nodesConduct c nodes current).starts s' ∧
      (nodes = [] → last = traceId) ∧
      (nodes ≠ [] → (nodesConduct c nodes current).returns = true →
        LastTrace s a (displaces c nodes current) last) := by
  induction nodes generalizing traceId current s a with
  | nil => exact ⟨s, traceId, rfl, .refl s, fun _ => rfl, fun hne => absurd rfl hne⟩
  | cons head rest ih =>
      obtain ⟨name, i⟩ := head
      let s₁ := s.opened a ("node." ++ name) [("node", .str name)] (nodeStart name)
      obtain ⟨s₂, hrun, hkept⟩ := h i (.state current) s₁ a ha
      obtain ⟨a₂, ha₂⟩ := hkept.active (show s₁.collector.activeTrace = some a from ha)
      have hattempt : (node i (.state current)).attempt.eval serve s₁ =
          (.ok (c i (.state current)).outcome, s₂) := by
        rw [Prog.eval_attempt, hrun]
      rw [runNodes, eval_openSpan ha, Prog.eval_bind_ok hattempt]
      rcases hout : (c i (.state current)).outcome with e | result
      · -- the node raises: its span is closed, and the loop is left
        let s₃ := s₂.closed s.collector.spans.length .error
          (nodeEnd name a s.collector.spans.length .error)
        refine ⟨s₃, traceId, ?_, ?_, fun hnil => absurd hnil (List.cons_ne_nil _ _), ?_⟩
        · show (closeNode name .error (some (a, s.collector.spans.length)) >>= fun _ =>
            (throw e : Observed (AgentState × Option TraceId))).eval serve s₂ = _
          rw [eval_closeNode ha₂]
          simp only [nodesConduct, Conduct.bind, hout]
          rfl
        · have hspan := @Kept.span _ _ _ _ _ _ _ _ _ rfl rfl hkept
            (nodeEnd name a s.collector.spans.length .error) .error rfl rfl
          simpa only [nodesConduct, Conduct.bind, hout] using hspan
        · intro _ hret
          simp [nodesConduct, Conduct.bind, hout, Conduct.returns] at hret
      · -- the node returns: its span is closed, and the loop goes on with the rest
        have hspan := @Kept.span _ _ _ _ _ _ _ _ _ rfl rfl hkept
          (nodeEnd name a s.collector.spans.length .ok) .ok rfl rfl
        obtain ⟨s₃, last, hrest, hkept₃, hnil, hcons⟩ :=
          ih (some a) (result.stateOr current)
            (s₂.closed s.collector.spans.length .ok (nodeEnd name a s.collector.spans.length .ok)) ha₂
        refine ⟨s₃, last, ?_, ?_, fun hne => absurd hne (List.cons_ne_nil _ _), ?_⟩
        · show (closeNode name .ok (some (a, s.collector.spans.length)) >>= fun _ =>
            runNodes node rest (some a) (result.stateOr current)).eval serve s₂ = _
          rw [eval_closeNode ha₂, hrest]
          simp only [nodesConduct, Conduct.bind, hout]
        · simpa only [nodesConduct, Conduct.bind, hout] using hspan.trans hkept₃
        · intro _ hret
          have hret' : (nodesConduct c rest (result.stateOr current)).returns = true := by
            simpa only [nodesConduct, Conduct.bind, hout, Conduct.returns] using hret
          simp only [displaces, hout]
          rcases rest with - | ⟨next, rest⟩
          · -- the last node
            simpa [displaces, LastTrace] using hnil rfl
          · have hlast := hcons (List.cons_ne_nil _ _) hret'
            rcases hstarts : (c i (.state current)).starts with - | -
            · -- the node left the active trace as it was
              have hsame : some a₂ = some a := ha₂.symm.trans ((hkept.same hstarts).trans ha)
              cases hsame
              simp only [LastTrace, Bool.false_and, Bool.false_or] at hlast ⊢
              split at hlast
              · obtain ⟨t, ht, hle⟩ := hlast
                rw [if_pos ‹_›]
                exact ⟨t, ht, hspan.traces.trans hle⟩
              · rw [if_neg ‹_›]
                exact hlast
            · obtain ⟨t, ht, hle⟩ := hspan.later hstarts
              simp only [LastTrace, List.isEmpty_cons, Bool.not_false, Bool.and_self, Bool.true_or,
                if_true]
              simp only [LastTrace] at hlast
              split at hlast
              · obtain ⟨t', ht', hle'⟩ := hlast
                exact ⟨t', ht', hspan.traces.trans hle'⟩
              · have hactive : some a₂ = some t := ha₂.symm.trans ht
                cases hactive
                exact ⟨a₂, hlast, hle⟩

end Nodes

/-- The state after one event. -/
def Telemetry.recorded (s : Telemetry) (e : BaseEvent) : Telemetry :=
  { s with collector := s.collector.record e }

theorem events_recorded {s : Telemetry} {e : BaseEvent} {t : TraceId} (he : e.traceId = some t) :
    (s.recorded e).collector.events = s.collector.events ++ [e] := by
  show s.collector.events ++ [_] = _
  rw [he, Option.some_or, ← he]

section Events

variable {s s₂ : Telemetry} {e e' : BaseEvent} {t t' : TraceId} {k k' : BracketKey}
  {tidy starts : Bool}

/-- An opening event that is never answered. -/
theorem Kept.unanswered (hopens : side e = .opens k) (htrace : e.traceId = some t)
    (h : Kept (s.recorded e) tidy starts s₂) : Kept s false starts s₂ where
  events := by
    obtain ⟨es, hes, hv⟩ := h.events
    refine ⟨e :: es, ?_, (hv.unclosed hopens).congr (by simp)⟩
    rw [hes, events_recorded htrace, List.append_assoc, List.singleton_append]
  spans := by
    obtain ⟨new, hnew, -⟩ := h.spans
    exact ⟨new, hnew, by simp⟩
  running := by simp
  traces := h.traces
  same := h.same
  later := h.later

/-- An opening event and a closing one around a part of a run. -/
theorem Kept.answered (hopens : side e = .opens k) (htrace : e.traceId = some t)
    (h : Kept (s.recorded e) tidy starts s₂) (hcloses : side e' = .closes k')
    (htrace' : e'.traceId = some t') :
    Kept s (tidy && decide (k = k')) starts (s₂.recorded e') where
  events := by
    obtain ⟨es, hes, hv⟩ := h.events
    refine ⟨e :: (es ++ [e']), ?_, (hv.wrap hopens hcloses).congr ?_⟩
    · rw [events_recorded htrace', hes, events_recorded htrace]
      simp
    · simp [and_comm]
  spans := by
    obtain ⟨new, hnew, hfin⟩ := h.spans
    exact ⟨new, hnew, fun htidy => hfin (Bool.and_eq_true_iff.mp htidy).1⟩
  running := fun htidy => h.running (Bool.and_eq_true_iff.mp htidy).1
  traces := h.traces
  same := h.same
  later := h.later

end Events

theorem eval_openWorkflow {α : Type} {f : Option TraceId → Observed α} {s : Telemetry} {a : TraceId}
    (ha : s.collector.activeTrace = some a) (nodeNames : List String) :
    (openWorkflow nodeNames >>= f).eval serve s =
      (f (some a)).eval serve (s.recorded (workflowStart a nodeNames)) := by
  have hopen : (openWorkflow nodeNames).eval serve s =
      (.ok (some a), s.recorded (workflowStart a nodeNames)) := by
    rw [openWorkflow, eval_tracing ha, if_pos rfl, eval_activeTraceId ha]
    rfl
  rw [Prog.eval_bind_ok hopen]

theorem eval_closeWorkflow {α : Type} {f : Unit → Observed α} {s : Telemetry} {a : TraceId}
    (ha : s.collector.activeTrace = some a) (traceId : Option TraceId) (nodeCount : ℕ) :
    (closeWorkflow true traceId nodeCount >>= f).eval serve s =
      (f ()).eval serve (s.recorded (workflowEnd traceId nodeCount)) := by
  have hclose : (closeWorkflow true traceId nodeCount).eval serve s =
      (.ok (), s.recorded (workflowEnd traceId nodeCount)) := by
    rw [closeWorkflow, if_pos rfl, eval_tracing ha]
    rfl
  rw [Prog.eval_bind_ok hclose]

section Engine

variable {node : ℕ → NodeReply → Observed NodeReply} {c : ℕ → NodeReply → Conduct NodeReply}

theorem conducts_runEngine (h : ∀ i r, Conducts (node i r) (c i r)) (engine : WorkflowEngine)
    (state : AgentState) :
    Conducts (runEngine engine node state) (engineConduct engine c state) := by
  intro s a ha
  let start := workflowStart a (engine.ordered.map Prod.fst)
  have ha₁ : (s.recorded start).collector.activeTrace = some a := ha
  obtain ⟨s₂, last, hrun, hkept, hnil, hcons⟩ :=
    runNodes_trace h engine.ordered (some a) state (s.recorded start) ha₁
  rw [runEngine, eval_openWorkflow ha]
  rcases hout : (nodesConduct c engine.ordered state).outcome with e | current
  · -- a node raised: the exception leaves the engine before its end event
    refine ⟨s₂, ?_, ?_⟩
    · rw [Prog.eval_bind, hrun, engineConduct, hout]
      rfl
    · have htidy : (engineConduct engine c state).tidy = false := by
        simp [engineConduct, Conduct.returns, hout]
      rw [htidy]
      exact hkept.unanswered rfl rfl
  · obtain ⟨a₂, ha₂⟩ := hkept.active ha₁
    have hlast : LastTrace (s.recorded start) a (displaces c engine.ordered state) last := by
      by_cases hempty : engine.ordered = []
      · rw [hnil hempty, hempty]
        rfl
      · exact hcons hempty (by simp [Conduct.returns, hout])
    -- the traces that were started since are not `a`
    have hkey : ∃ t, last = some t ∧ (a = t ↔ displaces c engine.ordered state = false) := by
      unfold LastTrace at hlast
      split at hlast
      · obtain ⟨t, ht, hle⟩ := hlast
        have hlt : a < t := (s.collector.activeValid a ha).trans_le hle
        exact ⟨t, ht, by simp [hlt.ne, *]⟩
      · exact ⟨a, hlast, by simp [*]⟩
    obtain ⟨t, rfl, ht⟩ := hkey
    refine ⟨s₂.recorded (workflowEnd (some t) engine.ordered.length), ?_, ?_⟩
    · have hnodes : (runNodes node engine.ordered (some a) state).eval serve (s.recorded start) =
          (.ok (current, some t), s₂) := by
        rw [hrun, hout]
        rfl
      rw [Prog.eval_bind_ok hnodes]
      show (closeWorkflow true (some t) engine.ordered.length >>= fun _ =>
        (pure current : Observed AgentState)).eval serve s₂ = _
      rw [eval_closeWorkflow ha₂, engineConduct, hout]
      rfl
    · have hends := @Kept.answered _ _ start (workflowEnd (some t) engine.ordered.length)
        _ _ _ _ _ _ rfl rfl hkept rfl rfl
      have htidy : ((nodesConduct c engine.ordered state).tidy &&
          decide ((Component.workflow, some a, (none : Option SpanId)) = (.workflow, some t, none))) =
          (engineConduct engine c state).tidy := by
        simp [engineConduct, Conduct.returns, hout, ht]
      rw [← htidy]
      exact hends

end Engine

/-! ### Runs -/

section Run

variable {node : ℕ → NodeReply → Observed NodeReply} {c : ℕ → NodeReply → Conduct NodeReply}

theorem conducts_runSteps (h : ∀ i r, Conducts (node i r) (c i r)) (steps : List ℕ)
    (state : AgentState) (result : NodeReply) :
    Conducts (runSteps node steps state result) (stepsConduct c steps state result) := by
  induction steps generalizing state result with
  | nil => exact .ret result
  | cons i rest ih => exact (h i _).bind fun result _ => ih (result.stateOr state) result

theorem conducts_dispatch (h : ∀ i r, Conducts (node i r) (c i r)) (workflow : RunWorkflow)
    (state : AgentState) :
    Conducts (dispatch workflow node state) (dispatchConduct workflow c state) := by
  cases workflow with
  | none => exact .ret _
  | engine e => exact (conducts_runEngine h e state).bind fun current _ => .ret _
  | callable => exact h 0 _
  | steps count => exact conducts_runSteps h _ state _

/-- The state in which a traced run checks its request. -/
def Telemetry.begun (s : Telemetry) (runtime : AgentRuntime) (request : Json) : Telemetry :=
  { collector := ((s.collector.startTrace
      [("workflow_type", .str runtime.workflow.typeName),
       ("request", .str (textHead 200 request.pyStr))]).record
        (agentStart s.collector.traces.length request)).addRunning 1
    traceId := some s.collector.traces.length }

theorem eval_openRun {α : Type} {f : Option TraceId → Observed α} {runtime : AgentRuntime}
    (henabled : runtime.observabilityEnabled = true) (request : Json) (s : Telemetry) :
    (openRun runtime request >>= f).eval serve s =
      (f (some s.collector.traces.length)).eval serve (s.begun runtime request) := by
  have hopen : (openRun runtime request).eval serve s =
      (.ok (some s.collector.traces.length), s.begun runtime request) := by
    rw [openRun, if_pos henabled]
    rfl
  rw [Prog.eval_bind_ok hopen]

/-- The state after the last calls of a traced run. -/
def Telemetry.ended (s : Telemetry) (t : TraceId) (e : BaseEvent) : Telemetry :=
  { collector := ((s.collector.record e).finishTrace t).addRunning (-1)
    traceId := none }

theorem eval_closeRun {α : Type} {f : Unit → Observed α} (event : TraceId → BaseEvent)
    (t : TraceId) (s : Telemetry) :
    (closeRun event (some t) >>= f).eval serve s = (f ()).eval serve (s.ended t (event t)) := rfl

theorem events_begun (s : Telemetry) (runtime : AgentRuntime) (request : Json) :
    (s.begun runtime request).collector.events =
      s.collector.events ++ [agentStart s.collector.traces.length request] := rfl

section Traced

variable {s s₂ : Telemetry} {runtime : AgentRuntime} {request : Json} {tidy starts : Bool}

/-- The trace of a run stays behind the ones that were there. -/
theorem Kept.begun_later (h : Kept (s.begun runtime request) tidy starts s₂) :
    ∃ t, s₂.collector.activeTrace = some t ∧ s.collector.traces.length ≤ t := by
  rcases hs : starts with - | -
  · exact ⟨s.collector.traces.length, h.same hs, le_refl _⟩
  · obtain ⟨t, ht, hle⟩ := h.later hs
    have hlen : s.collector.traces.length ≤ (s.begun runtime request).collector.traces.length := by
      show _ ≤ (s.collector.traces ++ [_]).length
      simp
    exact ⟨t, ht, hlen.trans hle⟩

theorem Kept.begun_traces (h : Kept (s.begun runtime request) tidy starts s₂) :
    s.collector.traces.length ≤ s₂.collector.traces.length := by
  have hlen : s.collector.traces.length ≤ (s.begun runtime request).collector.traces.length := by
    show _ ≤ (s.collector.traces ++ [_]).length
    simp
  exact hlen.trans h.traces

/-- A traced run that comes to its `finally` block. -/
theorem Kept.ended (h : Kept (s.begun runtime request) tidy starts s₂) {e : BaseEvent}
    (hcloses : side e = .closes (.agent, some s.collector.traces.length, none))
    (htrace : e.traceId = some s.collector.traces.length) :
    Kept s tidy true (s₂.ended s.collector.traces.length e) where
  events := by
    obtain ⟨es, hes, hv⟩ := h.events
    have hopens : side (agentStart s.collector.traces.length request) =
        .opens (.agent, some s.collector.traces.length, none) := rfl
    refine ⟨agentStart s.collector.traces.length request :: (es ++ [e]), ?_,
      (hv.wrap hopens hcloses).congr (by simp)⟩
    show (s₂.recorded e).collector.events = _
    rw [events_recorded htrace, hes, events_begun]
    simp
  spans := h.spans
  running := by
    intro htidy
    have hrunning : s₂.collector.running = s.collector.running + 1 := h.running htidy
    show s₂.collector.running + -1 = s.collector.running
    omega
  traces := by
    show _ ≤ (s₂.collector.traces.modify _ _).length
    rw [List.length_modify]
    exact h.begun_traces
  same := by simp
  later := fun _ => h.begun_later

/-- A traced run that leaves before. -/
theorem Kept.blocked (h : Kept (s.begun runtime request) tidy starts s₂) {e : BaseEvent}
    (he : ∀ t, side { e with traceId := t } = .plain) (t : TraceId) :
    Kept s false true
      { s₂ with collector := (s₂.collector.record e).finishTrace t } where
  events := by
    obtain ⟨es, hes, hv⟩ := (h.record he).events
    have hopens : side (agentStart s.collector.traces.length request) =
        .opens (.agent, some s.collector.traces.length, none) := rfl
    refine ⟨agentStart s.collector.traces.length request :: es, ?_,
      (hv.unclosed hopens).congr (by simp)⟩
    show (s₂.collector.record e).events = _
    rw [hes, events_begun, List.append_assoc, List.singleton_append]
  spans := by
    obtain ⟨new, hnew, -⟩ := h.spans
    exact ⟨new, hnew, by simp⟩
  running := by simp
  traces := by
    show _ ≤ (s₂.collector.traces.modify _ _).length
    rw [List.length_modify]
    exact h.begun_traces
  same := by simp
  later := fun _ => h.begun_later

end Traced

/-- **A traced run**, from any state of the collector. -/
theorem eval_runState {env : TextEnv} {runtime : AgentRuntime}
    (h : ∀ i r, Conducts (node i r) (c i r)) (henabled : runtime.observabilityEnabled = true)
    (state : AgentState) (s : Telemetry) :
    ∃ s', (runState env runtime node state).eval serve s =
        ((runConduct env runtime c state).outcome, s') ∧
      Kept s (runConduct env runtime c state).tidy true s' ∧
      ((runConduct env runtime c state).tidy = true → s'.traceId = none) := by
  rw [runState, eval_openRun henabled]
  have hbegun : (s.begun runtime state.request).collector.activeTrace =
    some s.collector.traces.length := rfl
  rcases hblock : inputBlock env runtime state.request with - | r
  · -- the request passes: every exit goes through the `finally` block
    let running : AgentState := { state with status := .running }
    have hdispatch := conducts_dispatch h runtime.workflow running
    obtain ⟨s₂, hrun, hkept⟩ := hdispatch.attempt _ _ hbegun
    have hattempt : (dispatch runtime.workflow node running).attempt.eval serve
        (s.begun runtime state.request) =
        (.ok (dispatchConduct runtime.workflow c running).outcome, s₂) := hrun
    show ∃ s', ((dispatch runtime.workflow node running).attempt >>= _).eval serve _ = _ ∧ _
    rw [Prog.eval_bind_ok hattempt]
    simp only [runConduct, hblock]
    rcases hout : (dispatchConduct runtime.workflow c running).outcome with e | result
    · exact ⟨s₂.ended s.collector.traces.length (agentError s.collector.traces.length e), rfl,
        hkept.ended rfl rfl, fun _ => rfl⟩
    · exact ⟨s₂.ended s.collector.traces.length
        (agentEnd s.collector.traces.length (succeeded running result).status), rfl,
        hkept.ended rfl rfl, fun _ => rfl⟩
  · simp only [runConduct, hblock, henabled, Bool.not_true]
    refine ⟨_, rfl, (Kept.refl _).blocked (fun _ => rfl) _, ?_⟩
    intro hfalse
    cases hfalse

theorem conducts_runState {env : TextEnv} {runtime : AgentRuntime}
    (h : ∀ i r, Conducts (node i r) (c i r)) (state : AgentState) :
    Conducts (runState env runtime node state) (runConduct env runtime c state) := by
  intro s a ha
  rcases henabled : runtime.observabilityEnabled with - | -
  · -- an untraced run tells the collector nothing itself
    have hclosed : openRun runtime state.request = pure none := by
      rw [openRun, henabled]
      rfl
    rw [runState, hclosed]
    rcases hblock : inputBlock env runtime state.request with - | r
    · let running : AgentState := { state with status := .running }
      have hdispatch := conducts_dispatch h runtime.workflow running
      obtain ⟨s₂, hrun, hkept⟩ := hdispatch.attempt s a ha
      have hattempt : (dispatch runtime.workflow node running).attempt.eval serve s =
          (.ok (dispatchConduct runtime.workflow c running).outcome, s₂) := hrun
      show ∃ s', ((dispatch runtime.workflow node running).attempt >>= _).eval serve s = _ ∧ _
      rw [Prog.eval_bind_ok hattempt]
      simp only [runConduct, hblock, henabled, Bool.false_or]
      refine ⟨s₂, ?_, hkept⟩
      rcases (dispatchConduct runtime.workflow c running).outcome with e | result
      · rfl
      · rfl
    · simp only [runConduct, hblock, henabled, Bool.not_false]
      exact ⟨s, rfl, .refl s⟩
  · obtain ⟨s', hrun, hkept, -⟩ := eval_runState h henabled state s
    have hstarts : (runConduct env runtime c state).starts = true := by
      unfold runConduct
      split
      · exact henabled
      · simp [henabled]
    exact ⟨s', hrun, hstarts ▸ hkept⟩

end Run

/-- What a node or a tool tells the collector agrees with its conduct. -/
theorem Code.conducts (env : TextEnv) {role : Role} (code : Code role) :
    Conducts (code.observed env) (code.conduct env) := by
  induction code with
  | ret r => exact .ret r
  | raise e => exact .raise e
  | execute executor toolName params tool k ihtool ihk =>
      exact (conducts_execute ihtool).attempt.bind fun result _ => ihk result
  | runEngine engine node state k ihnode ihk =>
      exact (conducts_runEngine ihnode engine state).attempt.bind fun result _ => ihk result
  | runState runtime node state k ihnode ihk =>
      exact (conducts_runState ihnode state).attempt.bind fun result _ => ihk result

/-! ### The result -/

/-- The conduct of a run whose nodes are `node`. -/
def conductOf (env : TextEnv) (runtime : AgentRuntime) (node : ℕ → NodeReply → Code .node)
    (state : AgentState) : Conduct AgentState :=
  runConduct env runtime (fun i r => (node i r).conduct env) state

/-- `run_state` with the nodes `node`, and the state of the collector and the logger after
it. -/
def afterRun (env : TextEnv) (runtime : AgentRuntime) (node : ℕ → NodeReply → Code .node)
    (state : AgentState) (before : Telemetry) : Except PyError AgentState × Telemetry :=
  (runState env runtime (fun i r => (node i r).observed env) state).eval serve before

/-- **Brackets of a run.**  A run that is traced closes what it opened, whatever the
collector held before, exactly where its conduct is tidy. -/
theorem properlyBracketed_iff (env : TextEnv) (runtime : AgentRuntime)
    (node : ℕ → NodeReply → Code .node) (state : AgentState) (before : Telemetry)
    (henabled : runtime.observabilityEnabled = true) :
    (∃ final, (afterRun env runtime node state before).1 = .ok final) ∧
      (ProperlyBracketed before (afterRun env runtime node state before).2 ↔
        (conductOf env runtime node state).tidy = true) := by
  obtain ⟨after, hrun, hkept, htraceId⟩ :=
    eval_runState (fun i r => (node i r).conducts env) henabled state before
  have hafter : afterRun env runtime node state before =
      ((conductOf env runtime node state).outcome, after) := hrun
  rw [hafter]
  constructor
  · show ∃ final, (runConduct env runtime _ state).outcome = .ok final
    unfold runConduct
    split
    · exact ⟨_, rfl⟩
    · exact ⟨_, rfl⟩
  obtain ⟨es, hes, hv⟩ := hkept.events
  obtain ⟨new, hnew, hfin⟩ := hkept.spans
  have hdrop : after.collector.events.drop before.collector.events.length = es := by
    rw [hes, List.drop_left]
  constructor
  · intro h
    have hbracketed := h.events
    rw [hdrop] at hbracketed
    exact hv.iff.mp hbracketed
  · intro htidy
    refine ⟨?_, ?_, hkept.running htidy, htraceId htidy⟩
    · rw [hnew, List.drop_left]
      exact hfin htidy
    · rw [hdrop]
      exact hv.iff.mpr htidy

/-! ### Runs that are computed -/

/-- Texts as they are, and no pattern found. -/
def plainText : TextEnv := ⟨id, fun _ _ => some false⟩

/-- A node that asks an executor with the policy `policy` for an order. -/
def askingNode (policy : SecurityPolicy) : Code .node :=
  .execute { registry := legacyRegistry, security := some policy } (.str "query_order")
    [("order_id", .str "o1")] (fun _ => .ret (.raw (.obj [("ok", .bool true)])))
    fun _ => .ret (.value .null)

/-- A policy that allows the cancelling of orders only. -/
def cancelOnly : SecurityPolicy := { allowedTools := ["cancel_order"] }

/-- An engine with one node. -/
def oneNode : AgentRuntime := { workflow := .engine { nodes := ["only"] } }

/-- A node whose tool is let through leaves nothing open. -/
theorem properlyBracketed_asking :
    ProperlyBracketed {} (afterRun plainText oneNode (fun _ _ => askingNode {})
      { request := .str "where is my order" } {}).2 := by
  have hiff := (properlyBracketed_iff plainText oneNode (fun _ _ => askingNode {})
    { request := .str "where is my order" } {} rfl).2
  exact hiff.mpr (by decide +kernel)

/-- The three exits that leave something open: an empty request that the input check
blocks, a node that raises, and a call that the policy does not allow. -/
theorem left_open :
    ¬ ProperlyBracketed {} (afterRun plainText { oneNode with security := some {} }
      (fun _ _ => .ret (.value .null)) { request := .str "" } {}).2 ∧
    ¬ ProperlyBracketed {} (afterRun plainText oneNode (fun _ _ => .raise .valueError)
      { request := .str "hello" } {}).2 ∧
    ¬ ProperlyBracketed {} (afterRun plainText oneNode (fun _ _ => askingNode cancelOnly)
      { request := .str "hello" } {}).2 := by
  refine ⟨?_, ?_, ?_⟩
  · -- the gauge still counts the run
    intro h
    exact absurd h.running (by decide +kernel)
  · -- `workflow.start` has no `workflow.end`
    intro h
    have hcount := h.events.closed_eq_opened (.workflow, some 0, none)
    exact absurd hcount (by decide +kernel)
  · -- the tool's span has no end time
    intro h
    have hspans := List.all_eq_true.mpr h.spans
    exact absurd hspans (by decide +kernel)

end Observability

end ChaosDemo
