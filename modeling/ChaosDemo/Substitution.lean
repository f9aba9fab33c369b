/-
ChaosDemo/Substitution.lean

Replacing every match in a text by a mark.  The matches are taken from the left and do
not overlap, as `str.replace` and `re.sub` take them; what a match is, is a parameter
(`hit`).

A word that has none of the characters at the two ends of the mark cannot reach over the
edge of a mark.  So where it occurs in the result, and not inside a mark, it occurred in
the text (`Marked.not_infix`); for this it does not matter how the pieces were chosen
that are marks now (`Marked`).  A substitution puts marks in the place of its matches
(`marked_substitute`), and an occurrence in its result was at a place that was no match
(`infix_substituteFrom`).  So replacing the word itself leaves none
(`not_infix_replaceAll`).
-/
import Mathlib.Data.List.Infix
import ChaosDemo.Regex

namespace ChaosDemo

/-- The text after the first `skip` characters, every match in it replaced by `mark`; `hit`
is the length of the match at a place, 0 for none. -/
def substituteFrom (hit : Cursor → ℕ) (mark : List Char) : ℕ → List Char → List Char → List Char
  | _, _, [] => []
  | skip + 1, before, c :: cs => substituteFrom hit mark skip (c :: before) cs
  | 0, before, c :: cs =>
      match hit ⟨before, c :: cs⟩ with
      | 0 => c :: substituteFrom hit mark 0 (c :: before) cs
      | n + 1 => mark ++ substituteFrom hit mark n (c :: before) cs

/-- Every match replaced by `mark`. -/
def substitute (hit : Cursor → ℕ) (mark cs : List Char) : List Char :=
  substituteFrom hit mark 0 [] cs

/-- The same, with a replacement for each match that depends on it. -/
def substituteByFrom (hit : Cursor → ℕ) (mark : Cursor → List Char) :
    ℕ → List Char → List Char → List Char
  | _, _, [] => []
  | skip + 1, before, c :: cs => substituteByFrom hit mark skip (c :: before) cs
  | 0, before, c :: cs =>
      match hit ⟨before, c :: cs⟩ with
      | 0 => c :: substituteByFrom hit mark 0 (c :: before) cs
      | n + 1 => mark ⟨before, c :: cs⟩ ++ substituteByFrom hit mark n (c :: before) cs

/-- Every match replaced, by what its place gives. -/
def substituteBy (hit : Cursor → ℕ) (mark : Cursor → List Char) (cs : List Char) : List Char :=
  substituteByFrom hit mark 0 [] cs

/-- The matches of a word. -/
def wordHit (word : List Char) (c : Cursor) : ℕ :=
  if word.isPrefixOf c.after then word.length else 0

/-- `str.replace`. -/
def replaceAll (word mark cs : List Char) : List Char := substitute (wordHit word) mark cs

/-- The matches of a regular expression. -/
def Matcher.hit (m : Matcher) (c : Cursor) : ℕ :=
  match (m c).head? with
  | some d => c.after.length - d.after.length
  | none => 0

section Words

variable {mark word : List Char} {guard : Char}

/-- An occurrence in `mark ++ t` of a word without the last character of the mark. -/
theorem infix_mark_append {t : List Char} (hlast : mark.getLast? = some guard)
    (hguard : guard ∉ word) (h : word <:+: mark ++ t) : word <:+: mark ∨ word <:+: t := by
  rcases List.infix_append_iff.mp h with h | h | ⟨l₁, l₂, rfl, hsuffix, hstart⟩
  · exact .inl h
  · exact .inr h
  · right
    cases List.eq_nil_or_concat l₁ with
    | inl hnil =>
        rw [hnil, List.nil_append]
        exact hstart.isInfix
    | inr hconcat =>
        -- the end of the mark would be in the word
        exfalso
        obtain ⟨init, c, rfl⟩ := hconcat
        obtain ⟨pre, rfl⟩ := hsuffix
        have hc : c = guard := by
          rw [List.concat_eq_append, ← List.append_assoc, List.getLast?_concat] at hlast
          exact Option.some.inj hlast
        apply hguard
        rw [← hc]
        simp

/-- An occurrence in `t ++ mark` of a word without the first character of the mark. -/
theorem infix_append_mark {t : List Char} (hhead : mark.head? = some guard)
    (hguard : guard ∉ word) (h : word <:+: t ++ mark) : word <:+: t ∨ word <:+: mark := by
  rcases List.infix_append_iff.mp h with h | h | ⟨l₁, l₂, rfl, hsuffix, hstart⟩
  · exact .inl h
  · exact .inr h
  · left
    cases l₂ with
    | nil =>
        rw [List.append_nil]
        exact hsuffix.isInfix
    | cons c rest =>
        -- the beginning of the mark would be in the word
        exfalso
        obtain ⟨after, rfl⟩ := hstart
        obtain rfl := Option.some.inj hhead
        apply hguard
        simp

end Words

/-! ### Marks in any place -/

/-- The second text is the first with pieces of it replaced by marks. -/
inductive Marked (mark : List Char) : List Char → List Char → Prop
  | nil : Marked mark [] []
  /-- A character that stays. -/
  | keep (c : Char) {cs out : List Char} : Marked mark cs out → Marked mark (c :: cs) (c :: out)
  /-- A piece, possibly empty, that is replaced. -/
  | put (piece : List Char) {cs out : List Char} :
      Marked mark cs out → Marked mark (piece ++ cs) (mark ++ out)

theorem marked_substituteFrom (hit : Cursor → ℕ) (mark : List Char) :
    ∀ cs skip before, Marked mark (cs.drop skip) (substituteFrom hit mark skip before cs) := by
  intro cs
  induction cs with
  | nil =>
      intro skip before
      rw [List.drop_nil, substituteFrom]
      exact .nil
  | cons c cs ih =>
      intro skip before
      cases skip with
      | succ skip =>
          rw [substituteFrom]
          exact ih skip _
      | zero =>
          rw [substituteFrom, List.drop_zero]
          split
          · exact .keep c (ih 0 _)
          · next n _ =>
              -- the match is the character and the `n` after it
              have hpiece : (c :: cs.take n) ++ cs.drop n = c :: cs := by
                rw [List.cons_append, List.take_append_drop]
              rw [← hpiece]
              exact .put _ (ih n _)

/-- A substitution puts marks in the place of its matches. -/
theorem marked_substitute (hit : Cursor → ℕ) (mark cs : List Char) :
    Marked mark cs (substitute hit mark cs) :=
  marked_substituteFrom hit mark cs 0 []

namespace Marked

variable {mark word cs out : List Char} {guard : Char}

theorem starts_of_starts (hhead : mark.head? = some guard) (h : Marked mark cs out) :
    ∀ {word : List Char}, guard ∉ word → word <+: out → word <+: cs := by
  induction h with
  | nil =>
      intro word _ hword
      exact hword
  | keep c _ ih =>
      intro word hguard hword
      cases word with
      | nil => exact List.nil_prefix
      | cons w word =>
          rw [List.mem_cons, not_or] at hguard
          rw [List.cons_prefix_cons] at hword ⊢
          exact ⟨hword.1, ih hguard.2 hword.2⟩
  | put piece _ _ =>
      intro word hguard hword
      cases word with
      | nil => exact List.nil_prefix
      | cons w word =>
          -- the mark begins with the guard
          exfalso
          cases mark with
          | nil => cases hhead
          | cons m mark =>
              obtain rfl := Option.some.inj hhead
              rw [List.cons_append, List.cons_prefix_cons] at hword
              exact hguard (hword.1 ▸ List.mem_cons_self)

/-- Marks make no new occurrence of the word. -/
theorem not_infix (hhead : mark.head? = some guard) (hlast : mark.getLast? = some guard)
    (hguard : guard ∉ word) (hmark : ¬ word <:+: mark) (h : Marked mark cs out)
    (hcs : ¬ word <:+: cs) : ¬ word <:+: out := by
  induction h with
  | nil => exact hcs
  | keep c h ih =>
      intro hword
      rcases List.infix_cons_iff.mp hword with hstart | hinfix
      · apply hcs
        exact ((h.keep c).starts_of_starts hhead hguard hstart).isInfix
      · refine ih (fun hinner => hcs ?_) hinfix
        exact hinner.trans (List.suffix_cons c _).isInfix
  | put piece h ih =>
      intro hword
      rcases infix_mark_append hlast hguard hword with hinside | hafter
      · exact hmark hinside
      · refine ih (fun hinner => hcs ?_) hafter
        exact hinner.trans (List.suffix_append piece _).isInfix

end Marked

/-! ### The matches of a word -/

section Words

variable {hit : Cursor → ℕ} {mark word : List Char} {guard : Char}

/-- **Where a word of the result comes from.** -/
theorem infix_substituteFrom (hhead : mark.head? = some guard) (hlast : mark.getLast? = some guard)
    (hguard : guard ∉ word) (hne : word ≠ []) (hmark : ¬ word <:+: mark) :
    ∀ {cs skip before}, word <:+: substituteFrom hit mark skip before cs →
      ∃ before' rest, rest <:+ cs ∧ word <+: rest ∧ hit ⟨before', rest⟩ = 0 := by
  intro cs
  induction cs with
  | nil =>
      intro skip before h
      rw [substituteFrom] at h
      exact absurd (List.infix_nil.mp h) hne
  | cons c cs ih =>
      intro skip before h
      have hdeeper : ∀ {skip before}, word <:+: substituteFrom hit mark skip before cs →
          ∃ before' rest, rest <:+ c :: cs ∧ word <+: rest ∧ hit ⟨before', rest⟩ = 0 := by
        intro skip before h
        obtain ⟨before', rest, hrest, hword, hhit⟩ := ih h
        exact ⟨before', rest, hrest.trans (List.suffix_cons c cs), hword, hhit⟩
      cases skip with
      | succ skip =>
          rw [substituteFrom] at h
          exact hdeeper h
      | zero =>
          rw [substituteFrom] at h
          split at h
          · next hmiss =>
              rcases List.infix_cons_iff.mp h with hstart | hinfix
              · refine ⟨before, c :: cs, List.suffix_refl _, ?_, hmiss⟩
                cases word with
                | nil => exact absurd rfl hne
                | cons w word =>
                    rw [List.mem_cons, not_or] at hguard
                    rw [List.cons_prefix_cons] at hstart ⊢
                    exact ⟨hstart.1, (marked_substituteFrom hit mark cs 0 _).starts_of_starts
                      hhead hguard.2 hstart.2⟩
              · exact hdeeper hinfix
          · rcases infix_mark_append hlast hguard h with h | h
            · exact absurd h hmark
            · exact hdeeper h

/-- Replacing the word leaves none. -/
theorem not_infix_replaceAll (hhead : mark.head? = some guard)
    (hlast : mark.getLast? = some guard) (hguard : guard ∉ word) (hne : word ≠ [])
    (hmark : ¬ word <:+: mark) (cs : List Char) : ¬ word <:+: replaceAll word mark cs := by
  intro hresult
  obtain ⟨before, rest, -, hword, hhit⟩ :=
    infix_substituteFrom hhead hlast hguard hne hmark hresult
  rw [wordHit, if_pos (List.isPrefixOf_iff_prefix.mpr hword)] at hhit
  exact hne (List.eq_nil_of_length_eq_zero hhit)

end Words

end ChaosDemo
