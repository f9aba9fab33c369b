/-
ChaosDemo/SlidingLog.lean

Sliding windows on expiring sorted sets.  The abstract object is a log: all
events ever recorded, each with its time, of which the window `(t - w, t]`
counts at time `t`.  The stored object is one slot of a key space that holds a
sorted set: entries below the window are dropped only when a command happens
to trim them, and the whole slot has a deadline of its own that only some
commands push back.

`Represents` says what the two have in common, and says it about every later
time at once: trimmed to the window of any time from now on, what is left in
the slot is what is left of the log.  So neither the lazy trimming nor the
deadline is mentioned again, as long as an event is added with a deadline
longer than the window (`Represents.add`).
-/
import Mathlib.Algebra.Order.Ring.Defs
import Mathlib.Tactic.Linarith
import ChaosDemo.Keyspace

namespace SlidingLog

open Keyspace

variable {A K : Type}

/-- A sorted set: members with their scores, the last added first.  The order
of the list means nothing; a member occurs once. -/
abbrev ZSet (A K : Type) := List (A × K)

section Commands

variable [LinearOrder K]

/-- `ZREMRANGEBYSCORE -inf cutoff`. -/
def trim (cutoff : K) (z : ZSet A K) : ZSet A K := z.filter fun x => cutoff < x.2

/-- `ZADD`: a member that is there gets the new score. -/
def add [DecidableEq A] (score : K) (m : A) (z : ZSet A K) : ZSet A K :=
  (m, score) :: z.filter fun x => x.1 ≠ m

/-- The members of a slot; an absent key is an empty set. -/
def members (now : K) (slot : Option (Timed (ZSet A K) K)) : ZSet A K :=
  (live now slot).getD []

/-- Write a set back under the deadline its slot had; an empty set is no key. -/
def store (slot : Option (Timed (ZSet A K) K)) (z : ZSet A K) :
    Option (Timed (ZSet A K) K) :=
  match slot, z with
  | some e, x :: z => some ⟨x :: z, e.expireAt⟩
  | _, _ => none

/-- `ZREMRANGEBYSCORE` on a slot. -/
def trimSlot (now cutoff : K) (slot : Option (Timed (ZSet A K) K)) :
    Option (Timed (ZSet A K) K) :=
  store slot (trim cutoff (members now slot))

/-- `ZADD` followed by `EXPIRE`. -/
def addSlot [DecidableEq A] (now expireAt score : K) (m : A)
    (slot : Option (Timed (ZSet A K) K)) : Option (Timed (ZSet A K) K) :=
  some ⟨add score m (members now slot), some expireAt⟩

@[simp] theorem trim_nil (c : K) : trim c ([] : ZSet A K) = [] := rfl

theorem trim_cons (c : K) (x : A × K) (z : ZSet A K) :
    trim c (x :: z) = if c < x.2 then x :: trim c z else trim c z := by
  simp [trim, List.filter_cons]

theorem mem_trim {c : K} {x : A × K} {z : ZSet A K} : x ∈ trim c z ↔ x ∈ z ∧ c < x.2 := by
  simp [trim]

/-- Of two trims only the later one counts. -/
theorem trim_trim {c c' : K} (h : c ≤ c') (z : ZSet A K) : trim c' (trim c z) = trim c' z := by
  simp only [trim, List.filter_filter]
  refine List.filter_congr fun x _ => ?_
  by_cases hx : c' < x.2
  · simp [hx, lt_of_le_of_lt h hx]
  · simp [hx]

omit [LinearOrder K] in
theorem add_of_fresh [DecidableEq A] {s : K} {m : A} {z : ZSet A K}
    (h : ∀ x ∈ z, x.1 ≠ m) : add s m z = (m, s) :: z := by
  rw [add, List.filter_eq_self.mpr]
  intro x hx
  simpa using h x hx

@[simp] theorem members_none (now : K) : members now (none : Option (Timed (ZSet A K) K)) = [] :=
  rfl

theorem members_some {now : K} {e : Timed (ZSet A K) K} :
    members now (some e) = if e.alive now then e.val else [] := by
  rw [members, live_some]
  split <;> rfl

/-- What a trim leaves is the trimmed set: an empty one is no key, but nobody sees that. -/
theorem members_trimSlot {now cutoff : K} {slot : Option (Timed (ZSet A K) K)} :
    members now (trimSlot now cutoff slot) = trim cutoff (members now slot) := by
  rcases slot with - | e
  · rfl
  · by_cases he : e.alive now
    · rw [trimSlot, members_some, if_pos he]
      cases trim cutoff e.val with
      | nil => rfl
      | cons x z =>
          have hx : Timed.alive now (⟨x :: z, e.expireAt⟩ : Timed (ZSet A K) K) = true := he
          rw [store, members_some, if_pos hx]
    · rw [trimSlot, members_some, if_neg he]
      rfl

end Commands

/-! ### Slots that represent a log -/

variable [Field K] [LinearOrder K] [IsStrictOrderedRing K]

/-- From time `now` on the slot shows the same windows of width `w` as the log,
whose events are past. -/
structure Represents (w now : K) (slot : Option (Timed (ZSet A K) K))
    (log : ZSet A K) : Prop where
  shows : ∀ t, now ≤ t → trim (t - w) (members t slot) = trim (t - w) log
  past : ∀ x ∈ log, x.2 ≤ now

variable {w now : K} {slot : Option (Timed (ZSet A K) K)} {log : ZSet A K}

omit [IsStrictOrderedRing K] in
theorem Represents.empty : Represents w now (none : Option (Timed (ZSet A K) K)) [] :=
  ⟨fun _ _ => rfl, fun _ h => (List.not_mem_nil h).elim⟩

omit [IsStrictOrderedRing K] in
theorem Represents.mono (h : Represents w now slot log) {now' : K} (hle : now ≤ now') :
    Represents w now' slot log :=
  ⟨fun t ht => h.shows t (hle.trans ht), fun x hx => (h.past x hx).trans hle⟩

/-- A command that only writes a trimmed set back is not seen. -/
theorem Represents.trimSlot (h : Represents w now slot log) :
    Represents w now (trimSlot now (now - w) slot) log := by
  refine ⟨fun t ht => ?_, h.past⟩
  have hcut : now - w ≤ t - w := sub_le_sub_right ht w
  rw [← h.shows t ht]
  rcases slot with - | e
  · rfl
  · by_cases he : e.alive t
    · have hnow : e.alive now = true := e.alive_mono ht he
      rw [SlidingLog.trimSlot, members_some, members_some, if_pos he, if_pos hnow]
      rw [← trim_trim hcut e.val]
      cases trim (now - w) e.val with
      | nil => rfl
      | cons x z =>
          have hx : Timed.alive t (⟨x :: z, e.expireAt⟩ : Timed (ZSet A K) K) = true := he
          rw [store, members_some, if_pos hx]
    · -- the slot is dead at `t`, and a trimmed slot keeps its deadline
      rw [members_some (e := e), if_neg he, SlidingLog.trimSlot]
      cases trim (now - w) (members now (some e)) with
      | nil => rfl
      | cons x z =>
          have hx : ¬ Timed.alive t (⟨x :: z, e.expireAt⟩ : Timed (ZSet A K) K) = true := he
          rw [store, members_some, if_neg hx]

/-- Adding a new event, with a deadline that the window does not outlive. -/
theorem Represents.add [DecidableEq A] (h : Represents w now slot log) {m : A} {ttl : K}
    (httl : w ≤ ttl) (hfresh : ∀ x ∈ members now slot, x.1 ≠ m) :
    Represents w now (addSlot now (now + ttl) now m slot) ((m, now) :: log) := by
  refine ⟨fun t ht => ?_, ?_⟩
  · rw [addSlot, members_some, add_of_fresh hfresh]
    by_cases hlive : t < now + ttl
    · have hcut : now - w ≤ t - w := sub_le_sub_right ht w
      have hrest : trim (t - w) (members now slot) = trim (t - w) log := by
        rw [← trim_trim hcut, h.shows now le_rfl, trim_trim hcut]
      rw [if_pos (alive_some.mpr hlive), trim_cons, trim_cons, hrest]
    · -- everything in the log is older than the window by now
      have hcut : now ≤ t - w := by linarith [not_lt.mp hlive]
      have hold : trim (t - w) ((m, now) :: log) = [] := by
        refine List.filter_eq_nil_iff.mpr fun x hx => ?_
        have hx' : x.2 ≤ now := by
          rcases List.mem_cons.mp hx with rfl | hx
          · exact le_rfl
          · exact h.past x hx
        simpa using hx'.trans hcut
      rw [if_neg (fun hc => hlive (alive_some.mp hc)), hold, trim_nil]
  · intro x hx
    rcases List.mem_cons.mp hx with rfl | hx
    · exact le_rfl
    · exact h.past x hx

omit [IsStrictOrderedRing K] in
/-- What a trim at the current time leaves is the current window of the log. -/
theorem Represents.members_trimSlot (h : Represents w now slot log) :
    members now (SlidingLog.trimSlot now (now - w) slot) = trim (now - w) log := by
  rw [SlidingLog.members_trimSlot, h.shows now le_rfl]

/-- After a trim and an addition at the current time, what is in the slot is the
current window of the longer log. -/
theorem members_addSlot_of_trimmed [DecidableEq A] {m : A} {ttl : K}
    (hslot : members now slot = trim (now - w) log) (hw : 0 < w) (httl : 0 < ttl)
    (hfresh : ∀ x ∈ members now slot, x.1 ≠ m) :
    members now (addSlot now (now + ttl) now m slot) = trim (now - w) ((m, now) :: log) := by
  have hlive : now < now + ttl := lt_add_of_pos_right now httl
  have hin : now - w < now := sub_lt_self now hw
  rw [addSlot, members_some, if_pos (alive_some.mpr hlive), add_of_fresh hfresh, hslot,
    trim_cons, if_pos hin]

/-! ### Who is in a slot -/

section Among

variable {p q : A → Prop}

omit [Field K] [IsStrictOrderedRing K]

/-- Every member in the slot, alive or not, satisfies `p`. -/
def Among (p : A → Prop) (slot : Option (Timed (ZSet A K) K)) : Prop :=
  ∀ e, slot = some e → ∀ x ∈ e.val, p x.1

omit [LinearOrder K] in
theorem Among.none : Among p (none : Option (Timed (ZSet A K) K)) := by
  intro e he
  cases he

omit [LinearOrder K] in
theorem Among.mono (h : Among p slot) (hpq : ∀ a, p a → q a) : Among q slot :=
  fun e he x hx => hpq _ (h e he x hx)

theorem Among.members (h : Among p slot) {x : A × K} (hx : x ∈ members now slot) : p x.1 := by
  rcases slot with - | e
  · cases hx
  · rw [members_some] at hx
    split at hx
    · exact h e rfl x hx
    · cases hx

theorem Among.trimSlot (h : Among p slot) (cutoff : K) :
    Among p (trimSlot now cutoff slot) := by
  intro e he x hx
  have hmem : x ∈ SlidingLog.members now slot := by
    rcases slot with - | e'
    · cases he
    · rw [SlidingLog.trimSlot] at he
      cases hz : trim cutoff (SlidingLog.members now (some e')) with
      | nil =>
          rw [hz] at he
          cases he
      | cons y z =>
          rw [hz] at he
          cases he
          exact (mem_trim.mp (hz ▸ hx)).1
  exact h.members hmem

theorem Among.addSlot [DecidableEq A] (h : Among p slot) {m : A} (hm : p m)
    (expireAt score : K) : Among p (addSlot now expireAt score m slot) := by
  intro e he x hx
  cases he
  rcases List.mem_cons.mp hx with rfl | hx
  · exact hm
  · exact h.members (List.mem_filter.mp hx).1

end Among

end SlidingLog
