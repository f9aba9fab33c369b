/-
ChaosDemo/RegexLanguage.lean

What a matcher can match, as a language.  `m.Reads L` says that every match of `m` is a
word of `L` that stands at the place in question:

    d ∈ m ⟨before, after⟩   ⟹   after = w ++ rest,  d = ⟨w.reverse ++ before, rest⟩,  w ∈ L.

Which of the matches is preferred does not matter for this, so the rules are those of the
regular operations: a sequence reads the product, a choice the union.
-/
import Mathlib.Computability.Language
import Mathlib.Data.List.TakeWhile
import Mathlib.Order.CompletePartialOrder
import ChaosDemo.Substitution

namespace ChaosDemo

/-- The first place at which `f` finds something. -/
def searchFrom {α : Type} (f : Cursor → Option α) : List Char → List Char → Option α
  | before, [] => f ⟨before, []⟩
  | before, c :: cs => (f ⟨before, c :: cs⟩).or (searchFrom f (c :: before) cs)

/-- `re.search`, for what `f` makes of a match. -/
def search {α : Type} (f : Cursor → Option α) (text : String) : Option α :=
  searchFrom f [] text.toList

/-- What is found stands somewhere. -/
theorem searchFrom_eq_some {α : Type} {f : Cursor → Option α} {a : α} :
    ∀ {after before : List Char}, searchFrom f before after = some a →
      ∃ front back, after = front ++ back ∧ f ⟨front.reverse ++ before, back⟩ = some a := by
  intro after
  induction after with
  | nil =>
      intro before h
      exact ⟨[], [], rfl, h⟩
  | cons c cs ih =>
      intro before h
      rw [searchFrom, Option.or_eq_some_iff] at h
      rcases h with h | ⟨-, h⟩
      · exact ⟨[], c :: cs, rfl, h⟩
      · obtain ⟨front, back, rfl, hf⟩ := ih h
        refine ⟨c :: front, back, rfl, ?_⟩
        rwa [List.reverse_cons, List.append_assoc]

theorem search_eq_some {α : Type} {f : Cursor → Option α} {text : String} {a : α}
    (h : search f text = some a) :
    ∃ front back, text.toList = front ++ back ∧ f ⟨front.reverse, back⟩ = some a := by
  obtain ⟨front, back, htext, hf⟩ := searchFrom_eq_some h
  rw [List.append_nil] at hf
  exact ⟨front, back, htext, hf⟩

/-- The words of characters of a class, of some length. -/
def classWords (p : Char → Bool) (lo : ℕ) (hi : Option ℕ) : Language Char :=
  {w | (∀ a ∈ w, p a = true) ∧ lo ≤ w.length ∧ ∀ most ∈ hi, w.length ≤ most}

namespace Matcher

/-- The first match at a place, as a text. -/
def firstText (m : Matcher) (c : Cursor) : Option String := (m c).head?.map c.upTo

/-- Every match is a word of the language, at the place. -/
def Reads (m : Matcher) (L : Language Char) : Prop :=
  ∀ c, ∀ d ∈ m c, ∃ w ∈ L, ∃ rest, c.after = w ++ rest ∧ d = ⟨w.reverse ++ c.before, rest⟩

variable {m n : Matcher} {L K : Language Char}

theorem Reads.mono (h : m.Reads L) (hle : L ≤ K) : m.Reads K := by
  intro c d hd
  obtain ⟨w, hw, hrest⟩ := h c d hd
  exact ⟨w, hle hw, hrest⟩

theorem reads_text (s : String) : (text s).Reads {s.toList} := by
  intro c d hd
  rw [text] at hd
  split at hd
  · next hprefix =>
      obtain ⟨rest, hrest⟩ := List.isPrefixOf_iff_prefix.mp hprefix
      obtain rfl := List.mem_singleton.mp hd
      refine ⟨s.toList, rfl, rest, hrest.symm, ?_⟩
      rw [Cursor.move, ← hrest, ← String.length_toList, List.take_left, List.drop_left]
  · cases hd

theorem reads_andThen (hm : m.Reads L) (hn : n.Reads K) : (m.andThen n).Reads (L * K) := by
  intro c d hd
  obtain ⟨e, he, hd⟩ := List.mem_flatMap.mp hd
  obtain ⟨u, hu, rest, hafter, rfl⟩ := hm c e he
  obtain ⟨v, hv, rest', hrest, rfl⟩ := hn _ d hd
  refine ⟨u ++ v, Language.append_mem_mul hu hv, rest', ?_, ?_⟩
  · rw [hafter, List.append_assoc]
    exact congrArg (u ++ ·) hrest
  · rw [List.reverse_append, List.append_assoc]

theorem reads_oneOf {ms : List Matcher} (h : ∀ m ∈ ms, m.Reads L) : (oneOf ms).Reads L := by
  intro c d hd
  obtain ⟨m, hm, hd⟩ := List.mem_flatMap.mp hd
  exact h m hm c d hd

theorem reads_inOrder_nil : (inOrder []).Reads 1 := by
  intro c d hd
  obtain rfl := List.mem_singleton.mp hd
  exact ⟨[], rfl, d.after, rfl, rfl⟩

theorem reads_inOrder_cons {ms : List Matcher} (hm : m.Reads L) (hms : (inOrder ms).Reads K) :
    (inOrder (m :: ms)).Reads (L * K) :=
  reads_andThen hm hms

/-- A run that is taken has the class and a length within the bounds. -/
theorem take_of_mem_runs {p : Char → Bool} {lo : ℕ} {hi : Option ℕ} {c : Cursor} {k : ℕ}
    (hk : k ∈ runs p lo hi c) : c.after.take k ∈ classWords p lo hi ∧ k ≤ c.after.length := by
  rw [runs, List.mem_filter, List.mem_range, decide_eq_true_eq, Nat.lt_succ_iff, le_min_iff] at hk
  obtain ⟨⟨hlongest, hmost⟩, hlo⟩ := hk
  have hprefix : c.after.takeWhile p <+: c.after := List.takeWhile_prefix p
  have hlength : k ≤ c.after.length := hlongest.trans hprefix.length_le
  have hsize : (c.after.take k).length = k := by rw [List.length_take, min_eq_left hlength]
  refine ⟨⟨?_, ?_, ?_⟩, hlength⟩
  · intro a ha
    have htake : c.after.take k = (c.after.takeWhile p).take k := by
      obtain ⟨rest, hrest⟩ := hprefix
      conv_lhs => rw [← hrest]
      exact List.take_append_of_le_length hlongest
    rw [htake] at ha
    exact List.mem_takeWhile_imp (List.mem_of_mem_take ha)
  · rwa [hsize]
  · intro most hmem
    rw [hsize]
    rwa [Option.mem_def.mp hmem, Option.getD_some] at hmost

theorem reads_move {p : Char → Bool} {lo : ℕ} {hi : Option ℕ} {c d : Cursor}
    (hd : ∃ k ∈ runs p lo hi c, d = c.move k) :
    ∃ w ∈ classWords p lo hi, ∃ rest, c.after = w ++ rest ∧ d = ⟨w.reverse ++ c.before, rest⟩ := by
  obtain ⟨k, hk, rfl⟩ := hd
  exact ⟨c.after.take k, (take_of_mem_runs hk).1, c.after.drop k,
    (List.take_append_drop k c.after).symm, rfl⟩

theorem reads_many (p : Char → Bool) (lo : ℕ) (hi : Option ℕ) :
    (many p lo hi).Reads (classWords p lo hi) := by
  intro c d hd
  obtain ⟨k, hk, rfl⟩ := List.mem_map.mp hd
  exact reads_move ⟨k, List.mem_reverse.mp hk, rfl⟩

theorem reads_few (p : Char → Bool) (lo : ℕ) : (few p lo).Reads (classWords p lo none) := by
  intro c d hd
  obtain ⟨k, hk, rfl⟩ := List.mem_map.mp hd
  exact reads_move ⟨k, hk, rfl⟩

/-- Every word of the class that stands at the place is a match. -/
theorem mem_many_of_word {p : Char → Bool} {lo : ℕ} {hi : Option ℕ} {w rest before : List Char}
    (hw : w ∈ classWords p lo hi) :
    ⟨w.reverse ++ before, rest⟩ ∈ many p lo hi ⟨before, w ++ rest⟩ := by
  obtain ⟨hclass, hlo, hmost⟩ := hw
  have hlongest : w.length ≤ ((w ++ rest).takeWhile p).length := by
    rw [List.takeWhile_append_of_pos hclass, List.length_append]
    exact Nat.le_add_right _ _
  refine List.mem_map.mpr ⟨w.length, List.mem_reverse.mpr ?_, ?_⟩
  · rw [runs, List.mem_filter, List.mem_range, decide_eq_true_eq, Nat.lt_succ_iff, le_min_iff]
    refine ⟨⟨hlongest, ?_⟩, hlo⟩
    cases hi with
    | none => exact hlongest
    | some most => exact hmost most rfl
  · rw [Cursor.move, List.take_left, List.drop_left]

/-- What a hit takes is a word of the language. -/
theorem Reads.take_hit (h : m.Reads L) (c : Cursor) :
    m.hit c = 0 ∨ c.after.take (m.hit c) ∈ L := by
  rw [hit]
  cases hhead : (m c).head? with
  | none => exact .inl rfl
  | some d =>
      obtain ⟨w, hw, rest, hafter, rfl⟩ := h c d (List.mem_of_head? hhead)
      right
      show c.after.take (c.after.length - rest.length) ∈ L
      rwa [hafter, List.length_append, Nat.add_sub_cancel, List.take_left]

/-- The text of a match is the word. -/
theorem upTo_of_read (c : Cursor) (w rest : List Char) :
    c.upTo ⟨w.reverse ++ c.before, rest⟩ = String.ofList w := by
  have hlength : (w.reverse ++ c.before).length - c.before.length = w.reverse.length := by
    rw [List.length_append, Nat.add_sub_cancel]
  rw [Cursor.upTo, hlength, List.take_left, List.reverse_reverse]

/-- **The text of a first match** is a word of the language that occurs in the text. -/
theorem Reads.search_firstText (h : m.Reads L) {text found : String}
    (hfound : search m.firstText text = some found) :
    found.toList ∈ L ∧ found.toList <:+: text.toList := by
  obtain ⟨front, back, htext, hfirst⟩ := search_eq_some hfound
  obtain ⟨d, hd, rfl⟩ := Option.map_eq_some_iff.mp hfirst
  obtain ⟨w, hw, rest, hback, rfl⟩ := h _ d (List.mem_of_head? hd)
  rw [upTo_of_read, String.toList_ofList]
  refine ⟨hw, front, rest, ?_⟩
  rw [htext, List.append_assoc]
  exact congrArg (front ++ ·) hback.symm

end Matcher

end ChaosDemo
