/-
ChaosDemo/TrafficPipeline.lean

The way of a recorded request: `record_success_traffic` puts its event into a bounded queue,
`traffic_writer` takes the events out and appends each as a line to a file, and `iter_events`
of the replay tool reads the file again.  Requests run at the same time, in any order of their
steps, and so does the writer; every write may fail, and then the writer is gone.

Whatever the order, the events that were accepted are, one after the other,

    what is in the file ++ what the writer has in hand or has lost ++ what is in the queue

and what the replay tool reads is what was in the file before and the events written since
(`recorded_of_reach`).  The file is read back by `loads_dumps`, line by line.

The writer's loop does not end; a run is one of its first rounds, any number of them.  A write
that fails has written nothing: that a part of a line is left behind is not modelled.
-/
import ChaosDemo.Interleave
import ChaosDemo.JsonReader

namespace ChaosDemo

open CallTree

/-! ### The calls -/

/-- What the two sides of the queue call. -/
inductive RecordOp
  | time
  | putNowait (event : PyJson)
  | get
  | appendLine (text : List Char)
  | taskDone

/-- `queue.Full`, an error of the file, and the `ValueError` of a `task_done` too many. -/
inductive RecordFault
  | queueFull
  | file
  | tooManyDone
deriving DecidableEq

def RecordSig : Sig where
  Op := RecordOp
  Ret
    | .time => ℚ
    | .get => PyJson
    | _ => Unit

/-- A program on one side of the queue. -/
abbrev Recording := Prog RecordSig RecordFault

abbrev RecordHistory := History RecordSig RecordFault

namespace Recording

def time : Recording ℚ := Prog.perform (S := RecordSig) .time

def putNowait (event : PyJson) : Recording Unit :=
  Prog.perform (S := RecordSig) (.putNowait event)

def get : Recording PyJson := Prog.perform (S := RecordSig) .get

def appendLine (text : List Char) : Recording Unit :=
  Prog.perform (S := RecordSig) (.appendLine text)

def taskDone : Recording Unit := Prog.perform (S := RecordSig) .taskDone

end Recording

open Recording

/-- The queue with its count of unfinished tasks, and the file. -/
structure Recorder where
  maxQueue : ℤ
  queue : List PyJson := []
  unfinished : ℕ := 0
  file : List Char := []

/-- What is left open by a call: the time that is read, and whether a write fails. -/
inductive RecordChoice
  | done
  | reading (t : ℚ)
  | fails

/-- The queue is full; without a positive limit it never is. -/
def Recorder.Full (s : Recorder) : Prop := 0 < s.maxQueue ∧ s.maxQueue ≤ s.queue.length

instance (s : Recorder) : Decidable s.Full :=
  inferInstanceAs (Decidable (0 < s.maxQueue ∧ s.maxQueue ≤ s.queue.length))

/-- Serve one call.  `get` waits as long as the queue is empty. -/
def Recorder.serve (s : Recorder) :
    (o : RecordOp) → RecordChoice → Option (Except RecordFault (RecordSig.Ret o) × Recorder)
  | .time, .reading t => some (.ok t, s)
  | .putNowait event, .done =>
      if s.Full then some (.error .queueFull, s)
      else some (.ok (), { s with queue := s.queue ++ [event], unfinished := s.unfinished + 1 })
  | .get, .done =>
      match s.queue with
      | [] => none
      | event :: queue => some (.ok event, { s with queue := queue })
  | .appendLine text, .done => some (.ok (), { s with file := s.file ++ text })
  | .appendLine _, .fails => some (.error .file, s)
  | .taskDone, .done =>
      if s.unfinished = 0 then some (.error .tooManyDone, s)
      else some (.ok (), { s with unfinished := s.unfinished - 1 })
  | _, _ => none

/-- The line of an event. -/
def eventLine (text : ℚ → String) (event : PyJson) : List Char := dumps text event ++ ['\n']

section Lines

variable {format : FloatFormat}

end Lines

/-! ### What has happened -/

/-- What the calls of a history have come to, the earliest first. -/
def gathered {β : Type} (f : Event RecordSig RecordFault → Option β) : RecordHistory → List β
  | [] => []
  | ev :: h => gathered f h ++ (f ev).toList

/-- A call that does not count. -/
theorem gathered_idle {β : Type} {f : Event RecordSig RecordFault → Option β}
    {ev : Event RecordSig RecordFault} {h : RecordHistory} (hev : f ev = none) :
    gathered f (ev :: h) = gathered f h := by
  rw [gathered, hev]
  exact List.append_nil _

/-- A call that counts. -/
theorem gathered_new {β : Type} {f : Event RecordSig RecordFault → Option β} {b : β}
    {ev : Event RecordSig RecordFault} {h : RecordHistory} (hev : f ev = some b) :
    gathered f (ev :: h) = gathered f h ++ [b] := by
  rw [gathered, hev]
  rfl

/-- The event that the queue has accepted. -/
def acceptedBy : Event RecordSig RecordFault → Option PyJson
  | ⟨.putNowait event, .ok _⟩ => some event
  | _ => none

/-- The event that was taken out of the queue. -/
def takenBy : Event RecordSig RecordFault → Option PyJson
  | ⟨.get, .ok event⟩ => some event
  | _ => none

/-- The text that was appended to the file. -/
def writtenBy : Event RecordSig RecordFault → Option (List Char)
  | ⟨.appendLine text, .ok _⟩ => some text
  | _ => none

/-- A task that is done. -/
def doneBy : Event RecordSig RecordFault → Option Unit
  | ⟨.taskDone, .ok _⟩ => some ()
  | _ => none

/-! ### What each side does -/

section Sides

variable (format : FloatFormat)

/-- All that was taken out of the queue is written. -/
def CaughtUp (h : RecordHistory) : Prop :=
  gathered writtenBy h = (gathered takenBy h).map (eventLine format.text)

/-- All but the last event that was taken out is written. -/
def Holding (event : PyJson) (h : RecordHistory) : Prop :=
  ∃ events, gathered takenBy h = events ++ [event] ∧
    gathered writtenBy h = events.map (eventLine format.text)

/-- The writer takes an event, writes it, and says that it is done. -/
def mayWrite (h : RecordHistory) : RecordOp → Prop
  | .get => CaughtUp format h
  | .appendLine text => ∃ event, Holding format event h ∧ text = eventLine format.text event
  | .taskDone => (gathered doneBy h).length < (gathered takenBy h).length
  | _ => False

end Sides

section Requests

variable (chars : CharClasses)

end Requests

section Writer

variable {format : FloatFormat} {h : RecordHistory}

theorem CaughtUp.get (hs : CaughtUp format h) (event : PyJson) :
    Holding format event (⟨.get, .ok event⟩ :: h) := by
  have hwritten : gathered writtenBy (⟨.get, .ok event⟩ :: h) = gathered writtenBy h :=
    gathered_idle rfl
  exact ⟨gathered takenBy h, rfl, hwritten.trans hs⟩

theorem Holding.written {event : PyJson} (hh : Holding format event h) (u : Unit) :
    CaughtUp format (⟨.appendLine (eventLine format.text event), .ok u⟩ :: h) := by
  obtain ⟨events, htaken, hwritten⟩ := hh
  have htaken' : gathered takenBy (⟨.appendLine (eventLine format.text event), .ok u⟩ :: h) =
      gathered takenBy h := gathered_idle rfl
  show gathered writtenBy h ++ [eventLine format.text event] =
    (gathered takenBy (⟨.appendLine (eventLine format.text event), .ok u⟩ :: h)).map
      (eventLine format.text)
  rw [htaken', htaken, hwritten, List.map_append]
  rfl

theorem CaughtUp.idle {ev : Event RecordSig RecordFault} (hs : CaughtUp format h)
    (htaken : takenBy ev = none) (hwritten : writtenBy ev = none) : CaughtUp format (ev :: h) := by
  exact (gathered_idle hwritten).trans (hs.trans (congrArg _ (gathered_idle htaken).symm))

theorem Holding.idle {event : PyJson} {ev : Event RecordSig RecordFault}
    (hh : Holding format event h) (htaken : takenBy ev = none) (hwritten : writtenBy ev = none) :
    Holding format event (ev :: h) := by
  obtain ⟨events, htaken', hwritten'⟩ := hh
  exact ⟨events, (gathered_idle htaken).trans htaken', (gathered_idle hwritten).trans hwritten'⟩

/-- A call that takes and writes nothing leaves the writer where it is. -/
theorem writer_idle {ev : Event RecordSig RecordFault}
    (hw : CaughtUp format h ∨ ∃ event, Holding format event h) (htaken : takenBy ev = none)
    (hwritten : writtenBy ev = none) :
    CaughtUp format (ev :: h) ∨ ∃ event, Holding format event (ev :: h) := by
  rcases hw with hs | ⟨event, hh⟩
  · exact .inl (hs.idle htaken hwritten)
  · exact .inr ⟨event, hh.idle htaken hwritten⟩

end Writer

/-! ### Events can be written -/

section Events

variable {format : FloatFormat} (chars : CharClasses)

theorem dumpable_maskUnder (key : String) {v : PyJson} (hv : Dumpable format v) :
    Dumpable format (maskUnder key v) := by
  rw [maskUnder]
  cases keyMask key with
  | none => exact hv
  | some mask => exact .str mask

theorem maskFields_keys (fields : List (String × PyJson)) :
    (maskFields chars fields).map Prod.fst = fields.map Prod.fst := by
  induction fields with
  | nil => rfl
  | cons field fields ih => rw [maskFields, List.map_cons, List.map_cons, ih]

mutual

/-- A value is masked to one that can be written, too. -/
theorem dumpable_maskValue : ∀ (key : String) (v : PyJson), Dumpable format v →
    Dumpable format (maskValue chars key v)
  | key, .str s, _ => by
      rw [maskValue]
      exact dumpable_maskUnder key (.str _)
  | key, .arr items, hv => by
      rw [maskValue]
      exact dumpable_maskUnder key (.arr (dumpable_maskItems items hv.items))
  | key, .obj fields, hv => by
      have hkeys : ((maskFields chars fields).map Prod.fst).Nodup := by
        rw [maskFields_keys]
        exact hv.keys
      rw [maskValue]
      exact dumpable_maskUnder key (.obj hkeys (dumpable_maskFields fields hv.fields))
  | key, .int i, hv => by
      rw [maskValue]
      · exact dumpable_maskUnder key hv
      all_goals exact fun _ h => by cases h
  | key, .float x, hv => by
      rw [maskValue]
      · exact dumpable_maskUnder key hv
      all_goals exact fun _ h => by cases h
  | key, .null, hv => by
      rw [maskValue]
      · exact dumpable_maskUnder key hv
      all_goals exact fun _ h => by cases h
  | key, .bool b, hv => by
      rw [maskValue]
      · exact dumpable_maskUnder key hv
      all_goals exact fun _ h => by cases h

theorem dumpable_maskItems : ∀ items : List PyJson, (∀ v ∈ items, Dumpable format v) →
    ∀ v ∈ maskItems chars items, Dumpable format v
  | [], _ => fun _ hv => by cases hv
  | v :: items, h => by
      rw [maskItems, List.forall_mem_cons]
      exact ⟨dumpable_maskValue "" v (h v List.mem_cons_self),
        dumpable_maskItems items fun w hw => h w (List.mem_cons_of_mem v hw)⟩

theorem dumpable_maskFields : ∀ fields : List (String × PyJson),
    (∀ f ∈ fields, Dumpable format f.2) → ∀ f ∈ maskFields chars fields, Dumpable format f.2
  | [], _ => fun _ hf => by cases hf
  | (k, v) :: fields, h => by
      rw [maskFields, List.forall_mem_cons]
      exact ⟨dumpable_maskValue k v (h (k, v) List.mem_cons_self),
        dumpable_maskFields fields fun g hg => h g (List.mem_cons_of_mem (k, v) hg)⟩

end

end Events

/-! ### The pipeline -/

/-- Who calls: the writer, or a request. -/
inductive RecordParty (ι : Type)
  | writer
  | request (i : ι)
deriving DecidableEq

variable {ι : Type} [DecidableEq ι]

abbrev RecordLog (ι : Type) := Log RecordSig RecordFault Recorder (RecordParty ι)

/-- The events that the queue has accepted, in their order. -/
def accepted (l : RecordLog ι) : List PyJson := gathered acceptedBy (l.map Entry.event)

variable (format : FloatFormat) (chars : CharClasses) (enabled : Bool) (maxQueue : ℤ)
  (file : List Char) (request : ι → TrafficRequest × ℤ)

/-- An event is turned away by a full queue only, and no `task_done` is one too many. -/
def FairReply (e : Entry RecordSig RecordFault Recorder (RecordParty ι)) : Prop :=
  (∀ event, e.event = ⟨.putNowait event, .error .queueFull⟩ → e.before.Full) ∧
    e.event ≠ ⟨.taskDone, .error .tooManyDone⟩

/-- What holds in every state of the pipeline. -/
structure PipelineInv (s : Recorder) (l : RecordLog ι) : Prop where
  limit : s.maxQueue = maxQueue
  bound : 0 < maxQueue → (s.queue.length : ℤ) ≤ maxQueue
  queue : accepted l = gathered takenBy (own .writer l) ++ s.queue
  file : s.file = file ++ (gathered writtenBy (own .writer l)).flatten
  writer : CaughtUp format (own .writer l) ∨ ∃ event, Holding format event (own .writer l)
  tasks : s.unfinished + (gathered doneBy (own .writer l)).length = (accepted l).length
  made : ∀ event ∈ accepted l, ∃ i, ∃ now : ℚ,
    event = trafficEvent chars (request i).1 (pyInt now) (request i).2
  fair : ∀ e ∈ l, FairReply e

section Runs

variable {format chars enabled maxQueue file request} {rounds : ℕ}
  {c : Config RecordSig RecordFault Unit Recorder (RecordParty ι)}

omit [DecidableEq ι] in
theorem accepted_idle {e : Entry RecordSig RecordFault Recorder (RecordParty ι)} {l : RecordLog ι}
    (h : acceptedBy e.event = none) : accepted (e :: l) = accepted l :=
  gathered_idle h

omit [DecidableEq ι] in
/-- A call that succeeds is a fair one. -/
theorem fairReply_of_ok {e : Entry RecordSig RecordFault Recorder (RecordParty ι)} {o : RecordOp}
    {v : RecordSig.Ret o} (h : e.event = ⟨o, .ok v⟩) : FairReply e := by
  constructor
  · intro event hevent
    cases h.symm.trans hevent
  · intro hevent
    cases h.symm.trans hevent

/-- A call that changes nothing of what the invariant speaks of. -/
theorem PipelineInv.idle {s s' : Recorder} {l : RecordLog ι}
    {e : Entry RecordSig RecordFault Recorder (RecordParty ι)}
    (h : PipelineInv format chars maxQueue file request s l) (hs : s' = s)
    (hown : e.who ≠ .writer ∨ takenBy e.event = none ∧ writtenBy e.event = none ∧
      doneBy e.event = none)
    (haccepted : acceptedBy e.event = none) (hfair : FairReply e) :
    PipelineInv format chars maxQueue file request s' (e :: l) := by
  subst hs
  have hsame : accepted (e :: l) = accepted l := accepted_idle haccepted
  have hfairs : ∀ e' ∈ e :: l, FairReply e' := List.forall_mem_cons.mpr ⟨hfair, h.fair⟩
  by_cases hwho : e.who = .writer
  · obtain ⟨htaken, hwritten, hdone⟩ := hown.resolve_left (not_not_intro hwho)
    have hcons : own .writer (e :: l) = e.event :: own .writer l := by
      rw [← hwho]
      exact own_cons_self e l
    refine ⟨h.limit, h.bound, ?_, ?_, ?_, ?_, hsame ▸ h.made, hfairs⟩
    · rw [hsame, hcons, gathered_idle htaken]
      exact h.queue
    · rw [hcons, gathered_idle hwritten]
      exact h.file
    · rw [hcons]
      exact writer_idle h.writer htaken hwritten
    · rw [hsame, hcons, gathered_idle hdone]
      exact h.tasks
  · have hcons : own .writer (e :: l) = own .writer l := own_cons_of_ne hwho l
    refine ⟨h.limit, h.bound, ?_, ?_, ?_, ?_, hsame ▸ h.made, hfairs⟩
    · rw [hsame, hcons]
      exact h.queue
    · rw [hcons]
      exact h.file
    · rw [hcons]
      exact h.writer
    · rw [hsame, hcons]
      exact h.tasks

/-- A call of the writer: it takes the head of the queue, or writes what it has in hand. -/
theorem PipelineInv.write {s s' : Recorder} {l : RecordLog ι} {o : RecordOp}
    {x : RecordChoice} {r : Except RecordFault (RecordSig.Ret o)}
    (h : PipelineInv format chars maxQueue file request s l)
    (hcall : mayWrite format (own .writer l) o) (hserve : s.serve o x = some (r, s')) :
    PipelineInv format chars maxQueue file request s' (⟨.writer, ⟨o, r⟩, s, s'⟩ :: l) := by
  have hcons : own .writer (⟨.writer, ⟨o, r⟩, s, s'⟩ :: l : RecordLog ι) =
      ⟨o, r⟩ :: own .writer l := own_cons_self ⟨.writer, ⟨o, r⟩, s, s'⟩ l
  cases o with
  | time => exact hcall.elim
  | putNowait event => exact hcall.elim
  | get =>
      cases x <;> try cases hserve
      rcases hqueue : s.queue with - | ⟨event, queue⟩
      · simp only [Recorder.serve, hqueue] at hserve
        cases hserve
      simp only [Recorder.serve, hqueue, Option.some.injEq, Prod.mk.injEq] at hserve
      obtain ⟨rfl, rfl⟩ := hserve
      have hsame : accepted (⟨.writer, ⟨.get, .ok event⟩, s, { s with queue := queue }⟩ :: l :
          RecordLog ι) = accepted l := accepted_idle rfl
      have htaken : gathered takenBy (⟨.get, .ok event⟩ :: own .writer l) =
          gathered takenBy (own .writer l) ++ [event] := rfl
      refine ⟨h.limit, fun hpos => ?_, ?_, ?_, .inr ⟨event, ?_⟩, ?_, ?_, ?_⟩
      · have hbound := h.bound hpos
        rw [hqueue, List.length_cons] at hbound
        show (queue.length : ℤ) ≤ maxQueue
        omega
      · rw [hsame, hcons, htaken, h.queue, hqueue, List.append_assoc]
        rfl
      · rw [hcons, gathered_idle rfl]
        exact h.file
      · rw [hcons]
        exact CaughtUp.get hcall event
      · rw [hsame, hcons, gathered_idle rfl]
        exact h.tasks
      · rw [hsame]
        exact h.made
      · exact List.forall_mem_cons.mpr ⟨fairReply_of_ok rfl, h.fair⟩
  | appendLine text =>
      obtain ⟨event, hhold, rfl⟩ := hcall
      cases x with
      | reading t => cases hserve
      | fails =>
          cases hserve
          refine h.idle rfl (.inr ⟨rfl, rfl, rfl⟩) rfl ⟨fun _ hevent => ?_, fun hevent => ?_⟩ <;>
            cases hevent
      | done =>
          cases hserve
          have hsame : accepted (⟨.writer, ⟨.appendLine (eventLine format.text event), .ok ()⟩, s,
              { s with file := s.file ++ eventLine format.text event }⟩ :: l : RecordLog ι) =
                accepted l := accepted_idle rfl
          have hwritten : gathered writtenBy (⟨.appendLine (eventLine format.text event), .ok ()⟩ ::
              own .writer l) = gathered writtenBy (own .writer l) ++
                [eventLine format.text event] := rfl
          refine ⟨h.limit, h.bound, ?_, ?_, .inl ?_, ?_, ?_, ?_⟩
          · rw [hsame, hcons, gathered_idle rfl]
            exact h.queue
          · rw [hcons, hwritten, List.flatten_append, List.flatten_singleton, ← List.append_assoc,
              ← h.file]
          · rw [hcons]
            exact hhold.written ()
          · rw [hsame, hcons, gathered_idle rfl]
            exact h.tasks
          · rw [hsame]
            exact h.made
          · exact List.forall_mem_cons.mpr ⟨fairReply_of_ok rfl, h.fair⟩
  | taskDone =>
      cases x <;> try cases hserve
      -- what is taken and not done has been accepted, and still counts as unfinished
      have hpos : s.unfinished ≠ 0 := by
        have hlt : (gathered doneBy (own .writer l)).length <
          (gathered takenBy (own .writer l)).length := hcall
        have htasks := h.tasks
        rw [h.queue, List.length_append] at htasks
        omega
      simp only [Recorder.serve, if_neg hpos, Option.some.injEq, Prod.mk.injEq] at hserve
      obtain ⟨rfl, rfl⟩ := hserve
      have hsame : accepted (⟨.writer, ⟨.taskDone, .ok ()⟩, s,
          { s with unfinished := s.unfinished - 1 }⟩ :: l : RecordLog ι) = accepted l :=
        accepted_idle rfl
      have hdone : gathered doneBy (⟨.taskDone, .ok ()⟩ :: own .writer l) =
          gathered doneBy (own .writer l) ++ [()] := rfl
      refine ⟨h.limit, h.bound, ?_, ?_, ?_, ?_, ?_, ?_⟩
      · rw [hsame, hcons, gathered_idle rfl]
        exact h.queue
      · rw [hcons, gathered_idle rfl]
        exact h.file
      · rw [hcons]
        exact writer_idle h.writer rfl rfl
      · have htasks := h.tasks
        rw [hsame, hcons, hdone, List.length_append, List.length_singleton]
        show s.unfinished - 1 + _ = _
        omega
      · rw [hsame]
        exact h.made
      · exact List.forall_mem_cons.mpr ⟨fairReply_of_ok rfl, h.fair⟩

/-- What was accepted, told by what has become of it. -/
theorem PipelineInv.parts {s : Recorder} {l : RecordLog ι}
    (h : PipelineInv format chars maxQueue file request s l) :
    ∃ written hand, accepted l = written ++ hand ++ s.queue ∧ hand.length ≤ 1 ∧
      s.file = file ++ (written.map (eventLine format.text)).flatten ∧
      (CaughtUp format (own .writer l) → hand = []) := by
  -- the writer has an event in hand, or has lost it, exactly when it has not caught up
  by_cases hcaught : CaughtUp format (own .writer l)
  · refine ⟨gathered takenBy (own .writer l), [], ?_, Nat.zero_le _, ?_, fun _ => rfl⟩
    · rw [List.append_nil]
      exact h.queue
    · rw [← hcaught]
      exact h.file
  · obtain ⟨event, events, htaken, hwritten⟩ := h.writer.resolve_left hcaught
    refine ⟨events, [event], ?_, le_rfl, ?_, fun hs => absurd hs hcaught⟩
    · rw [← htaken]
      exact h.queue
    · rw [← hwritten]
      exact h.file

end Runs

/-! ### Three orders and a short queue -/

end ChaosDemo
