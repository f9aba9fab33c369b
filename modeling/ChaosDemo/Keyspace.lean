/-
ChaosDemo/Keyspace.lean

A key space whose entries may carry a deadline, as an in-memory store with
`EXPIRE` has it.  An entry past its deadline stays where it is until somebody
overwrites or removes it, but no command sees it: expiry is lazy, and
`lookup` is the only way to read.  So nothing happens to the store when time
passes, and every fact about time is a fact about `lookup`.

The type of a value depends on its key, which is how a store with text keys
and sorted-set keys is typed without a wrong-type error.
-/
import Mathlib.Order.Lattice
import Mathlib.Logic.Function.Basic

namespace Keyspace

/-- A value with the time at which it expires, if it does. -/
structure Timed (A K : Type) where
  val : A
  expireAt : Option K
deriving DecidableEq

/-- The key space. -/
abbrev Store (κ : Type) (V : κ → Type) (K : Type) := (k : κ) → Option (Timed (V k) K)

variable {A κ K : Type} {V : κ → Type} [LinearOrder K]

/-- Whether an entry is still there at time `now`. -/
def Timed.alive (now : K) (e : Timed A K) : Bool :=
  match e.expireAt with
  | none => true
  | some t => decide (now < t)

@[simp] theorem alive_none {now : K} {v : A} : Timed.alive now ⟨v, none⟩ = true := rfl

@[simp] theorem alive_some {now t : K} {v : A} :
    Timed.alive now ⟨v, some t⟩ = true ↔ now < t := by
  simp [Timed.alive]

/-- An entry that is alive later was alive before. -/
theorem Timed.alive_mono {e : Timed A K} {now now' : K} (h : now ≤ now')
    (he : e.alive now' = true) : e.alive now = true := by
  rcases e with ⟨v, - | t⟩
  · rfl
  · rw [alive_some] at he ⊢
    exact lt_of_le_of_lt h he

/-- What a slot holds at time `now`. -/
def live (now : K) (slot : Option (Timed A K)) : Option A :=
  match slot with
  | none => none
  | some e => if e.alive now then some e.val else none

@[simp] theorem live_none {now : K} : live now (none : Option (Timed A K)) = none := rfl

theorem live_some {now : K} {e : Timed A K} :
    live now (some e) = if e.alive now then some e.val else none := rfl

theorem live_eq_some {now : K} {slot : Option (Timed A K)} {v : A} :
    live now slot = some v ↔ ∃ e, slot = some e ∧ e.alive now = true ∧ e.val = v := by
  cases slot with
  | none => simp
  | some e => by_cases h : e.alive now <;> simp [live_some, h]

theorem live_mono {now now' : K} {slot : Option (Timed A K)} {v : A} (h : now ≤ now')
    (hv : live now' slot = some v) : live now slot = some v := by
  obtain ⟨e, rfl, he, rfl⟩ := live_eq_some.mp hv
  exact live_eq_some.mpr ⟨e, rfl, e.alive_mono h he, rfl⟩

namespace Store

/-! ### Commands -/

/-- `GET`. -/
def lookup (s : Store κ V K) (now : K) (k : κ) : Option (V k) := live now (s k)

section Writes

variable [DecidableEq κ]

omit [LinearOrder K]

/-- Replace what a slot holds. -/
def write (s : Store κ V K) (k : κ) (slot : Option (Timed (V k) K)) : Store κ V K :=
  Function.update s k slot

/-- `SET`, with or without a deadline. -/
def put (s : Store κ V K) (k : κ) (v : V k) (expireAt : Option K) : Store κ V K :=
  s.write k (some ⟨v, expireAt⟩)

/-- `DEL`. -/
def erase (s : Store κ V K) (k : κ) : Store κ V K := s.write k none

variable {s : Store κ V K} {k k' : κ} {v : V k} {t : Option K}

@[simp] theorem write_self {slot : Option (Timed (V k) K)} : s.write k slot k = slot :=
  Function.update_self ..

@[simp] theorem write_of_ne {slot : Option (Timed (V k) K)} (h : k' ≠ k) :
    s.write k slot k' = s k' :=
  Function.update_of_ne h ..

@[simp] theorem put_self : s.put k v t k = some ⟨v, t⟩ := write_self

@[simp] theorem put_of_ne (h : k' ≠ k) : s.put k v t k' = s k' := write_of_ne h

@[simp] theorem erase_self : s.erase k k = none := write_self

@[simp] theorem erase_of_ne (h : k' ≠ k) : s.erase k k' = s k' := write_of_ne h

/-- What `DEL` of several keys leaves of one of them. -/
theorem foldl_erase (ks : List κ) (s : Store κ V K) (k : κ) :
    ks.foldl erase s k = if k ∈ ks then none else s k := by
  induction ks generalizing s with
  | nil => simp
  | cons k' ks ih =>
      rw [List.foldl_cons, ih]
      by_cases h : k = k'
      · subst h; simp
      · simp [h]

end Writes

end Store

/-! ### A key space that can be listed -/

/-- A store with the names of all the keys that were ever written, in any order. -/
structure Listed (κ : Type) (V : κ → Type) (K : Type) where
  slots : Store κ V K
  names : List κ
  nodup : names.Nodup
  complete : ∀ k, (slots k).isSome → k ∈ names

namespace Listed

variable [DecidableEq κ]

omit [LinearOrder K] in
/-- No key at all. -/
def empty : Listed κ V K where
  slots _ := none
  names := []
  nodup := List.nodup_nil
  complete _ h := by simp at h

omit [LinearOrder K] in
/-- `SET`, with or without a deadline. -/
def put (s : Listed κ V K) (k : κ) (v : V k) (expireAt : Option K) : Listed κ V K where
  slots := s.slots.put k v expireAt
  names := if k ∈ s.names then s.names else k :: s.names
  nodup := by
    split
    · exact s.nodup
    · exact List.nodup_cons.mpr ⟨‹_›, s.nodup⟩
  complete k' h := by
    by_cases hk : k' = k
    · subst hk
      split
      · assumption
      · exact List.mem_cons_self
    · rw [Store.put_of_ne hk] at h
      have hmem := s.complete k' h
      split
      · exact hmem
      · exact List.mem_cons_of_mem _ hmem

omit [LinearOrder K] in
/-- `DEL` of several keys. -/
def erase (s : Listed κ V K) (ks : List κ) : Listed κ V K where
  slots := ks.foldl Store.erase s.slots
  names := s.names
  nodup := s.nodup
  complete k h := by
    rw [Store.foldl_erase] at h
    split at h
    · simp at h
    · exact s.complete k h

/-- `GET`. -/
def lookup (s : Listed κ V K) (now : K) (k : κ) : Option (V k) := s.slots.lookup now k

/-- `KEYS`. -/
def keys (s : Listed κ V K) (now : K) : List κ :=
  s.names.filter fun k => (s.lookup now k).isSome

variable {s : Listed κ V K} {k k' : κ} {v : V k} {t : Option K} {now : K}

omit [LinearOrder K] in
@[simp] theorem put_slots_self : (s.put k v t).slots k = some ⟨v, t⟩ := Store.put_self

omit [LinearOrder K] in
theorem put_slots_of_ne (h : k' ≠ k) : (s.put k v t).slots k' = s.slots k' := Store.put_of_ne h

omit [LinearOrder K] in
theorem erase_slots (ks : List κ) :
    (s.erase ks).slots k = if k ∈ ks then none else s.slots k :=
  Store.foldl_erase ks s.slots k

omit [DecidableEq κ] in
/-- What a `GET` sees is in the slot. -/
theorem slot_of_lookup (h : s.lookup now k = some v) :
    ∃ e, s.slots k = some e ∧ e.alive now = true ∧ e.val = v :=
  live_eq_some.mp h

omit [DecidableEq κ] in
/-- A key is listed when a `GET` sees it. -/
theorem mem_keys : k ∈ s.keys now ↔ (s.lookup now k).isSome := by
  constructor
  · intro h
    exact (List.mem_filter.mp h).2
  · intro h
    obtain ⟨v, hv⟩ := Option.isSome_iff_exists.mp h
    obtain ⟨e, he, -⟩ := slot_of_lookup hv
    exact List.mem_filter.mpr ⟨s.complete k (by rw [he]; rfl), h⟩

omit [DecidableEq κ] in
theorem nodup_keys : (s.keys now).Nodup := s.nodup.filter _

end Listed

end Keyspace
