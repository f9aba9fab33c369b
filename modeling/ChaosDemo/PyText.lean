/-
ChaosDemo/PyText.lean

`str.split` and `str.strip`, with the laws that texts which are built with separators are
read by.  A text of parts that do not hold the separator splits into these parts again
(`pySplit_append`, `pySplit_of_not_mem`), and blanks at the ends are nothing to `strip`.
-/
import Mathlib.Data.List.TakeWhile
import ChaosDemo.Json

namespace ChaosDemo

/-! ### Splitting -/

/-- `text.split(sep)` for a separator of one character. -/
def pySplit (sep : Char) : List Char → List (List Char)
  | [] => [[]]
  | c :: cs =>
      if c = sep then [] :: pySplit sep cs
      else
        match pySplit sep cs with
        | [] => [[c]]
        | item :: items => (c :: item) :: items

theorem pySplit_ne_nil (sep : Char) (cs : List Char) : pySplit sep cs ≠ [] := by
  cases cs with
  | nil => simp [pySplit]
  | cons c cs =>
      rw [pySplit]
      split
      · simp
      · split <;> simp

theorem pySplit_append (sep : Char) (l r : List Char) :
    pySplit sep (l ++ sep :: r) = pySplit sep l ++ pySplit sep r := by
  induction l with
  | nil => simp [pySplit]
  | cons c l ih =>
      rw [List.cons_append, pySplit, pySplit, ih]
      split
      · rfl
      · obtain ⟨item, items, hsplit⟩ := List.exists_cons_of_ne_nil (pySplit_ne_nil sep l)
        simp [hsplit]

theorem pySplit_of_not_mem {sep : Char} {cs : List Char} (h : sep ∉ cs) :
    pySplit sep cs = [cs] := by
  induction cs with
  | nil => rfl
  | cons c cs ih =>
      obtain ⟨hc, hcs⟩ := not_or.mp (mt List.mem_cons.mpr h)
      rw [pySplit, if_neg (Ne.symm hc), ih hcs]

/-- More of the last item. -/
theorem pySplit_append_last {sep : Char} {b : List Char} (hb : sep ∉ b) (l : List Char) :
    ∃ items last, pySplit sep l = items ++ [last] ∧ pySplit sep (l ++ b) = items ++ [last ++ b] := by
  induction l with
  | nil => exact ⟨[], [], rfl, pySplit_of_not_mem hb⟩
  | cons c l ih =>
      obtain ⟨items, last, hl, hlb⟩ := ih
      rw [List.cons_append, pySplit, pySplit, hl, hlb]
      split
      · exact ⟨[] :: items, last, rfl, rfl⟩
      · rcases items with - | ⟨item, items⟩
        · exact ⟨[], c :: last, rfl, rfl⟩
        · exact ⟨(c :: item) :: items, last, rfl, rfl⟩

/-! ### Stripping -/

/-- A text of blanks alone. -/
abbrev Blank (cs : List Char) : Prop := ∀ c ∈ cs, pyIsSpace c = true

theorem pyStrip_append_left {b : List Char} (hb : Blank b) (cs : List Char) :
    pyStrip (String.ofList (b ++ cs)) = pyStrip (String.ofList cs) := by
  unfold pyStrip
  rw [String.toList_ofList, String.toList_ofList, List.dropWhile_append_of_pos hb]

theorem pyStrip_append_right {b : List Char} (hb : Blank b) (cs : List Char) :
    pyStrip (String.ofList (cs ++ b)) = pyStrip (String.ofList cs) := by
  have hrev : ∀ l : List Char, (b.reverse ++ l).dropWhile pyIsSpace = l.dropWhile pyIsSpace :=
    fun l => List.dropWhile_append_of_pos fun c hc => hb c (List.mem_reverse.mp hc)
  unfold pyStrip
  rw [String.toList_ofList, String.toList_ofList, List.dropWhile_append]
  split
  · -- nothing but blanks
    rename_i hnil
    have hcs : cs.dropWhile pyIsSpace = [] := by simpa using hnil
    have hb' : b.dropWhile pyIsSpace = [] := by
      rw [← List.append_nil b, List.dropWhile_append_of_pos hb]
      rfl
    rw [hcs, hb']
  · rw [List.reverse_append, hrev]

/-- A text with no blank in it is its own strip. -/
theorem pyStrip_of_forall {s : String} (h : ∀ c ∈ s.toList, pyIsSpace c = false) :
    pyStrip s = s := by
  have hdrop : ∀ l : List Char, (∀ c ∈ l, pyIsSpace c = false) → l.dropWhile pyIsSpace = l := by
    intro l hl
    cases l with
    | nil => rfl
    | cons c l => rw [List.dropWhile_cons_of_neg (by simp [hl c (by simp)])]
  unfold pyStrip
  rw [hdrop _ h, hdrop _ fun c hc => h c (List.mem_reverse.mp hc), List.reverse_reverse,
    String.ofList_toList]

/-- A text with something in it that is not blank has a strip. -/
theorem pyStrip_ne_empty {s : String} {c : Char} (hmem : c ∈ s.toList)
    (hc : pyIsSpace c = false) : pyStrip s ≠ "" := by
  intro h
  rw [pyStrip, String.ofList_eq_empty_iff, List.reverse_eq_nil_iff,
    List.dropWhile_eq_nil_iff] at h
  have hdrop : s.toList.dropWhile pyIsSpace = [] := by
    cases hrest : s.toList.dropWhile pyIsSpace with
    | nil => rfl
    | cons d rest =>
        -- the first of what is left is not blank
        have hd : pyIsSpace d = false := by
          have hhead := List.head?_dropWhile_not pyIsSpace s.toList
          rw [hrest] at hhead
          exact hhead
        have hblank : pyIsSpace d = true := by
          apply h
          rw [hrest]
          exact List.mem_reverse.mpr List.mem_cons_self
        rw [hd] at hblank
        cases hblank
  have hall := List.dropWhile_eq_nil_iff.mp hdrop c hmem
  rw [hc] at hall
  cases hall

end ChaosDemo
