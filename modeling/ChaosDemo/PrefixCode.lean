/-
ChaosDemo/PrefixCode.lean

Codes that can be read back from the front.  In a prefix code no word begins another, so

    code a ++ x = code b ++ y   ⟺   a = b ∧ x = y

(`PrefixCode.append_inj`).  A reader for single words shows that a code is one
(`PrefixCode.of_reader`), and then words can be put together: after a fixed text, one after
the other, and in a list that ends with a mark no word begins with.
-/
import Mathlib.Data.List.Basic

namespace ChaosDemo

variable {α β γ : Type}

/-- No code word begins another one. -/
def PrefixCode (code : α → List β) : Prop := ∀ a b x y, code a ++ x = code b ++ y → a = b

namespace PrefixCode

variable {code : α → List β} {code' : γ → List β}

/-- What is left after a word is determined, too. -/
theorem append_inj (h : PrefixCode code) {a b : α} {x y : List β}
    (heq : code a ++ x = code b ++ y) : a = b ∧ x = y := by
  obtain rfl := h a b x y heq
  exact ⟨rfl, List.append_cancel_left heq⟩

/-- A code that can be read word by word. -/
theorem of_reader {read : List β → Option (α × List β)}
    (hread : ∀ a x, read (code a ++ x) = some (a, x)) : PrefixCode code := by
  intro a b x y heq
  have hsome : some (a, x) = some (b, y) := by rw [← hread a x, heq, hread b y]
  exact congrArg Prod.fst (Option.some.inj hsome)

theorem injective (h : PrefixCode code) : Function.Injective code :=
  fun a b heq => h a b [] [] (congrArg (· ++ []) heq)

/-- Words after a fixed text. -/
theorem after (h : PrefixCode code) (w : List β) : PrefixCode fun a => w ++ code a := by
  intro a b x y heq
  rw [List.append_assoc, List.append_assoc] at heq
  exact h a b x y (List.append_cancel_left heq)

/-- A word of one code, then one of another. -/
theorem pair (h : PrefixCode code) (h' : PrefixCode code') :
    PrefixCode fun p : α × γ => code p.1 ++ code' p.2 := by
  rintro ⟨a, c⟩ ⟨b, d⟩ x y heq
  rw [List.append_assoc, List.append_assoc] at heq
  obtain ⟨rfl, hrest⟩ := h.append_inj heq
  obtain rfl := h' c d x y hrest
  rfl

/-- Words in a list, up to a mark that no word begins with. -/
theorem list (h : PrefixCode code) {stop : β} (hstop : ∀ a x y, code a ++ x ≠ stop :: y) :
    PrefixCode fun l : List α => l.flatMap code ++ [stop] := by
  intro l
  induction l with
  | nil =>
      intro l' x y heq
      cases l' with
      | nil => rfl
      | cons b l' =>
          -- the mark would begin a word
          simp only [List.flatMap_nil, List.flatMap_cons, List.append_assoc, List.nil_append,
            List.cons_append] at heq
          exact absurd heq.symm (hstop b _ _)
  | cons a l ih =>
      intro l' x y heq
      cases l' with
      | nil =>
          simp only [List.flatMap_nil, List.flatMap_cons, List.append_assoc, List.nil_append,
            List.cons_append] at heq
          exact absurd heq (hstop a _ _)
      | cons b l' =>
          simp only [List.flatMap_cons, List.append_assoc] at heq
          obtain ⟨rfl, hrest⟩ := h.append_inj heq
          have hl : l = l' := by
            apply ih l' x y
            simpa only [List.append_assoc] using hrest
          rw [hl]

end PrefixCode

end ChaosDemo
