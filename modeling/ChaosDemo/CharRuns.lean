/-
ChaosDemo/CharRuns.lean

The maximal runs of a class in a list, each with its two neighbours.  `SomeRun p Q` goes
through the list once, with the run so far and what stands before it:

    SomeRun p Q none [] l none   ⟺   some maximal run of l, with its neighbours, has Q

(`someRun_iff`).  An element outside the class splits the question in two
(`someRun_append`), so that texts can be taken apart where their separators are.
-/
import Mathlib.Data.List.Basic

namespace ChaosDemo

variable {α : Type}

/-- Some maximal run of `acc ++ l` has `Q`; `acc` is in the class and `prev` stands before it,
and `last` stands behind the list. -/
def SomeRun (p : α → Bool) (Q : Option α → List α → Option α → Prop) :
    Option α → List α → List α → Option α → Prop
  | prev, acc, [], last => Q prev acc last
  | prev, acc, c :: cs, last =>
      if p c then SomeRun p Q prev (acc ++ [c]) cs last
      else Q prev acc (some c) ∨ SomeRun p Q (some c) [] cs last

variable {p : α → Bool} {Q Q' : Option α → List α → Option α → Prop} {prev last : Option α}
  {acc l : List α} {c : α}

theorem someRun_cons_mem (hc : p c = true) :
    SomeRun p Q prev acc (c :: l) last ↔ SomeRun p Q prev (acc ++ [c]) l last := by
  rw [SomeRun, if_pos hc]

theorem someRun_cons (hc : p c = false) :
    SomeRun p Q prev acc (c :: l) last ↔
      Q prev acc (some c) ∨ SomeRun p Q (some c) [] l last := by
  rw [SomeRun, if_neg (Bool.eq_false_iff.mp hc)]

/-- An element outside the class splits a list. -/
theorem someRun_append (hc : p c = false) {a : List α} :
    SomeRun p Q prev acc (a ++ c :: l) last ↔
      SomeRun p Q prev acc a (some c) ∨ SomeRun p Q (some c) [] l last := by
  induction a generalizing prev acc with
  | nil => exact someRun_cons hc
  | cons d a ih =>
      rw [List.cons_append]
      cases hd : p d with
      | true => rw [someRun_cons_mem hd, someRun_cons_mem hd, ih]
      | false => rw [someRun_cons hd, someRun_cons hd, ih, or_assoc]

/-- A list in the class is one run. -/
theorem someRun_of_all (hl : ∀ c ∈ l, p c = true) :
    SomeRun p Q prev acc l last ↔ Q prev (acc ++ l) last := by
  induction l generalizing acc with
  | nil =>
      rw [List.append_nil]
      exact Iff.rfl
  | cons c l ih =>
      have hrest : ∀ d ∈ l, p d = true := fun d hd => hl d (List.mem_cons_of_mem c hd)
      rw [someRun_cons_mem (hl c List.mem_cons_self), ih hrest, List.append_assoc]
      rfl

/-- Only the first run sees what stands before the list. -/
theorem someRun_prev_congr {prev' : Option α}
    (h : ∀ acc last, Q prev acc last ↔ Q prev' acc last) :
    SomeRun p Q prev acc l last ↔ SomeRun p Q prev' acc l last := by
  induction l generalizing acc with
  | nil => exact h acc last
  | cons c l ih =>
      cases hc : p c with
      | true => rw [someRun_cons_mem hc, someRun_cons_mem hc, ih]
      | false => rw [someRun_cons hc, someRun_cons hc, h]

/-- There is no run of a length that the list does not reach. -/
theorem not_someRun_of_short {n : ℕ} (hQ : ∀ prev run last, Q prev run last → run.length = n)
    (hlt : acc.length + l.length < n) : ¬ SomeRun p Q prev acc l last := by
  induction l generalizing prev acc with
  | nil =>
      intro h
      exact absurd (hQ _ _ _ h) (Nat.ne_of_lt hlt)
  | cons c l ih =>
      rw [List.length_cons] at hlt
      cases hc : p c with
      | true =>
          rw [someRun_cons_mem hc]
          apply ih
          rw [List.length_append, List.length_singleton]
          omega
      | false =>
          rw [someRun_cons hc]
          rintro (h | h)
          · have hlength := hQ _ _ _ h
            omega
          · refine ih ?_ h
            rw [List.length_nil]
            omega

section Decomposition

/-- The run `run` of `l`, between `front` and `back`, is maximal. -/
structure MaximalRun (p : α → Bool) (front run back l : List α) : Prop where
  split : l = front ++ run ++ back
  mem : ∀ c ∈ run, p c = true
  before : ∀ c ∈ front.getLast?, p c = false
  behind : ∀ c ∈ back.head?, p c = false

/-- A list in the class that ends outside of it is empty. -/
theorem eq_nil_of_getLast? (hl : ∀ c ∈ l, p c = true) (hlast : ∀ c ∈ l.getLast?, p c = false) :
    l = [] := by
  cases h : l.getLast? with
  | none => exact List.getLast?_eq_none_iff.mp h
  | some c =>
      have hfalse := hlast c h
      rw [hl c (List.mem_of_getLast? h)] at hfalse
      cases hfalse

/-- So is one that begins outside of it. -/
theorem eq_nil_of_head? (hl : ∀ c ∈ l, p c = true) (hhead : ∀ c ∈ l.head?, p c = false) :
    l = [] := by
  cases l with
  | nil => rfl
  | cons c l =>
      have hfalse := hhead c rfl
      rw [hl c List.mem_cons_self] at hfalse
      cases hfalse

/-- A maximal run in a list of the class is the list. -/
theorem MaximalRun.eq_of_all {front run back : List α} (h : MaximalRun p front run back l)
    (hl : ∀ c ∈ l, p c = true) : front = [] ∧ run = l ∧ back = [] := by
  have hsplit := h.split
  have hfront : front = [] := by
    apply eq_nil_of_getLast? (fun c hc => hl c ?_) h.before
    rw [hsplit]
    exact List.mem_append_left _ (List.mem_append_left _ hc)
  have hback : back = [] := by
    apply eq_nil_of_head? (fun c hc => hl c ?_) h.behind
    rw [hsplit]
    exact List.mem_append_right _ hc
  rw [hfront, hback, List.nil_append, List.append_nil] at hsplit
  exact ⟨hfront, hsplit.symm, hback⟩

/-- An element outside the class is before a maximal run or behind it; what is in the class
up to it is a run. -/
theorem MaximalRun.cases_append {front run back : List α} (hc : p c = false)
    (hacc : ∀ d ∈ acc, p d = true) (h : MaximalRun p front run back (acc ++ c :: l)) :
    (front = [] ∧ run = acc ∧ back = c :: l) ∨
      ∃ front', front = acc ++ c :: front' ∧ MaximalRun p front' run back l := by
  have hsplit := h.split
  rw [List.append_assoc] at hsplit
  rcases List.append_eq_append_iff.mp hsplit with ⟨rest, hfront, hrest⟩ | ⟨rest, hacc', hrest⟩
  · cases rest with
    | nil =>
        -- the front is the run before `c`, so both are empty
        rw [List.append_nil] at hfront
        have hnil : acc = [] := by
          apply eq_nil_of_getLast? hacc
          rw [← hfront]
          exact h.before
        cases run with
        | nil =>
            refine .inl ⟨hfront.trans hnil, hnil.symm, ?_⟩
            rw [List.nil_append, List.nil_append] at hrest
            exact hrest.symm
        | cons d run =>
            rw [List.nil_append, List.cons_append] at hrest
            have hd := h.mem d List.mem_cons_self
            rw [← (List.cons.inj hrest).1, hc] at hd
            cases hd
    | cons d front' =>
        rw [List.cons_append] at hrest
        obtain ⟨rfl, htail⟩ := List.cons.inj hrest
        refine .inr ⟨front', hfront, ?_, h.mem, ?_, h.behind⟩
        · rw [htail, List.append_assoc]
        · intro d hd
          apply h.before d
          rw [hfront, List.getLast?_append, List.getLast?_cons]
          rw [Option.mem_def] at hd
          rw [hd]
          rfl
  · -- the front is in the class, so it is empty
    have hfront : front = [] := by
      apply eq_nil_of_getLast? (fun d hd => hacc d ?_) h.before
      rw [hacc']
      exact List.mem_append_left _ hd
    rw [hfront, List.nil_append] at hacc'
    rw [← hacc'] at hrest
    left
    rcases List.append_eq_append_iff.mp hrest with ⟨more, hmore, hback⟩ | ⟨more, hrun, hback⟩
    · -- the run ends within the class
      have hmem : ∀ d ∈ more, p d = true := by
        intro d hd
        apply hacc
        rw [hmore]
        exact List.mem_append_right _ hd
      have hnil : more = [] := by
        apply eq_nil_of_head? hmem
        intro d hd
        apply h.behind d
        rw [hback, List.head?_append, Option.mem_def.mp hd]
        rfl
      rw [hnil, List.append_nil] at hmore
      rw [hnil, List.nil_append] at hback
      exact ⟨hfront, hmore.symm, hback⟩
    · cases more with
      | nil =>
          rw [List.append_nil] at hrun
          rw [List.nil_append] at hback
          exact ⟨hfront, hrun, hback.symm⟩
      | cons d more =>
          have hd := h.mem d (by rw [hrun]; simp)
          rw [List.cons_append] at hback
          rw [← (List.cons.inj hback).1, hc] at hd
          cases hd

/-- The runs that are gone through are the maximal runs. -/
theorem someRun_iff_of_acc (hacc : ∀ c ∈ acc, p c = true) :
    SomeRun p Q prev acc l last ↔ ∃ front run back, MaximalRun p front run back (acc ++ l) ∧
      Q (front.getLast?.or prev) run (back.head?.or last) := by
  induction l generalizing prev acc with
  | nil =>
      rw [List.append_nil]
      constructor
      · intro h
        exact ⟨[], acc, [], ⟨by simp, hacc, nofun, nofun⟩, h⟩
      · rintro ⟨front, run, back, hrun, hQ⟩
        obtain ⟨rfl, rfl, rfl⟩ := hrun.eq_of_all hacc
        exact hQ
  | cons c l ih =>
      cases hc : p c with
      | true =>
          have hacc' : ∀ d ∈ acc ++ [c], p d = true := by
            intro d hd
            rcases List.mem_append.mp hd with hd | hd
            · exact hacc d hd
            · rw [List.mem_singleton.mp hd]
              exact hc
          rw [someRun_cons_mem hc, ih hacc', List.append_assoc]
          exact Iff.rfl
      | false =>
          rw [someRun_cons hc, ih (by simp)]
          constructor
          · rintro (hQ | ⟨front, run, back, ⟨hsplit, hmem, hbefore, hbehind⟩, hQ⟩)
            · refine ⟨[], acc, c :: l, ⟨by simp, hacc, nofun, ?_⟩, hQ⟩
              rintro d hd
              rw [← Option.some.inj hd]
              exact hc
            · have hlast : (acc ++ c :: front).getLast? = front.getLast?.or (some c) := by
                rw [List.getLast?_append, List.getLast?_cons]
                cases front.getLast? <;> rfl
              refine ⟨acc ++ c :: front, run, back, ⟨?_, hmem, ?_, hbehind⟩, ?_⟩
              · rw [List.nil_append] at hsplit
                rw [hsplit]
                simp
              · intro d hd
                rw [hlast] at hd
                cases hfront : front.getLast? with
                | none =>
                    rw [hfront] at hd
                    rw [← Option.some.inj hd]
                    exact hc
                | some e =>
                    rw [hfront] at hd
                    rw [← Option.some.inj hd]
                    exact hbefore e hfront
              · rw [hlast, Option.or_assoc]
                exact hQ
          · rintro ⟨front, run, back, hrun, hQ⟩
            rcases hrun.cases_append hc hacc with ⟨rfl, rfl, rfl⟩ | ⟨front', rfl, hrun'⟩
            · exact .inl hQ
            · refine .inr ⟨front', run, back, hrun', ?_⟩
              rw [List.getLast?_append, List.getLast?_cons] at hQ
              cases hfront : front'.getLast? with
              | none =>
                  rw [hfront] at hQ
                  exact hQ
              | some e =>
                  rw [hfront] at hQ
                  exact hQ

/-- **The runs of a list**, from its beginning to its end. -/
theorem someRun_iff : SomeRun p Q none [] l none ↔ ∃ front run back,
    MaximalRun p front run back l ∧ Q front.getLast? run back.head? := by
  rw [someRun_iff_of_acc (by simp)]
  simp only [List.nil_append, Option.or_none]

end Decomposition

end ChaosDemo
