/-
ChaosDemo/Cascade.lean

A program that is a cascade of checks.  Each check lets its input pass, turns it down with
an error that is meant to be seen, or stops with some other error.  `Performs meant x cs`
says that the program `x` makes the checks `cs`, one after the other:

    x returns                  ⟺   all of cs pass,
    x raises a meant error     ⟺   the first of cs that does not pass turns down.

The checks of a sequence are those of its parts, one list behind the other
(`Performs.bind`), so a cascade is read off its program.
-/
import ChaosDemo.Guards

namespace ChaosDemo

/-- When a check lets its input pass, and when it turns it down. -/
structure Check where
  passes : Prop
  refuses : Prop

/-- All checks pass. -/
def AllPass (checks : List Check) : Prop := ∀ c ∈ checks, c.passes

/-- The first check that does not let pass turns down. -/
def TurnedDown : List Check → Prop
  | [] => False
  | c :: checks => c.refuses ∨ c.passes ∧ TurnedDown checks

theorem allPass_cons {c : Check} {cs : List Check} :
    AllPass (c :: cs) ↔ c.passes ∧ AllPass cs :=
  List.forall_mem_cons

theorem allPass_append {cs ds : List Check} : AllPass (cs ++ ds) ↔ AllPass cs ∧ AllPass ds :=
  List.forall_mem_append

theorem turnedDown_append {cs ds : List Check} :
    TurnedDown (cs ++ ds) ↔ TurnedDown cs ∨ AllPass cs ∧ TurnedDown ds := by
  induction cs with
  | nil =>
      show TurnedDown ds ↔ False ∨ AllPass [] ∧ TurnedDown ds
      rw [false_or]
      exact ⟨fun h => ⟨nofun, h⟩, And.right⟩
  | cons c cs ih =>
      show c.refuses ∨ c.passes ∧ TurnedDown (cs ++ ds) ↔
        (c.refuses ∨ c.passes ∧ TurnedDown cs) ∨ AllPass (c :: cs) ∧ TurnedDown ds
      rw [ih, allPass_cons, and_or_left, or_assoc, and_assoc]

section Performs

variable {ε α β : Type} (meant : ε → Prop)

/-- The program makes these checks. -/
structure Performs (x : Except ε α) (checks : List Check) : Prop where
  returns : (∃ a, x = .ok a) ↔ AllPass checks
  raises : (∃ e, x = .error e ∧ meant e) ↔ TurnedDown checks

variable {meant} {x : Except ε α} {f : α → Except ε β} {cs ds : List Check}

theorem performs_pure (a : α) : Performs meant (pure a : Except ε α) [] where
  returns := ⟨fun _ => nofun, fun _ => ⟨a, rfl⟩⟩
  raises := ⟨fun ⟨_, h, _⟩ => pure_ne_error h, False.elim⟩

theorem performs_single {c : Check} (hreturns : (∃ a, x = .ok a) ↔ c.passes)
    (hraises : (∃ e, x = .error e ∧ meant e) ↔ c.refuses) : Performs meant x [c] where
  returns := hreturns.trans List.forall_mem_singleton.symm
  raises := hraises.trans ((or_iff_left fun h => h.2).symm)

/-- The checks of a sequence. -/
theorem Performs.bind (hx : Performs meant x cs)
    (hf : ∀ a, x = .ok a → Performs meant (f a) ds) : Performs meant (x >>= f) (cs ++ ds) where
  returns := by
    rw [allPass_append, ← hx.returns]
    constructor
    · rintro ⟨b, h⟩
      obtain ⟨a, ha, hb⟩ := bind_eq_ok_iff.mp h
      exact ⟨⟨a, ha⟩, (hf a ha).returns.mp ⟨b, hb⟩⟩
    · rintro ⟨⟨a, ha⟩, hds⟩
      obtain ⟨b, hb⟩ := (hf a ha).returns.mpr hds
      exact ⟨b, bind_eq_ok_iff.mpr ⟨a, ha, hb⟩⟩
  raises := by
    rw [turnedDown_append, ← hx.returns, ← hx.raises]
    constructor
    · rintro ⟨e, h, he⟩
      rcases bind_eq_error_iff.mp h with h | ⟨a, ha, h⟩
      · exact .inl ⟨e, h, he⟩
      · exact .inr ⟨⟨a, ha⟩, (hf a ha).raises.mp ⟨e, h, he⟩⟩
    · rintro (⟨e, h, he⟩ | ⟨⟨a, ha⟩, hds⟩)
      · exact ⟨e, bind_eq_error_iff.mpr (.inl h), he⟩
      · obtain ⟨e, h, he⟩ := (hf a ha).raises.mpr hds
        exact ⟨e, bind_eq_error_iff.mpr (.inr ⟨a, ha, h⟩), he⟩

/-- A check in front. -/
theorem Performs.cons {c : Check} (hx : Performs meant x [c])
    (hf : ∀ a, x = .ok a → Performs meant (f a) ds) : Performs meant (x >>= f) (c :: ds) :=
  hx.bind hf

/-- A part that makes no checks of its own at the end. -/
theorem Performs.bind_pure (hx : Performs meant x cs) (g : α → β) :
    Performs meant (x >>= fun a => pure (g a)) cs := by
  have h : Performs meant (x >>= fun a => pure (g a)) (cs ++ []) :=
    hx.bind fun a _ => performs_pure (g a)
  rwa [List.append_nil] at h

/-- The checks of a loop. -/
theorem performs_mapM {check : α → Except ε β} {c : α → Check} {l : List α}
    (h : ∀ a ∈ l, Performs meant (check a) [c a]) : Performs meant (l.mapM check) (l.map c) := by
  induction l with
  | nil => exact performs_pure []
  | cons a l ih =>
      rw [List.mapM_cons]
      have hl := ih fun b hb => h b (List.mem_cons_of_mem _ hb)
      exact (h a List.mem_cons_self).bind fun b _ => hl.bind_pure (b :: ·)

end Performs

end ChaosDemo
