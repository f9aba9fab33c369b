/-
ChaosDemo/Quantiles.lean

Cut points of a sorted sample, as the exclusive method places them.  The sample
`s 0 ≤ ... ≤ s last` stands at the multiples of the width `n`:

    position     n        2n      ...     (last + 1) n
    value        s 0      s 1     ...     s last

The cut at `t` lies on the line through the two entries around `t`.  Before the first
entry and after the last one the line of the outermost two goes on, so that a cut there
leaves the sample unless these two entries are equal (`le_cutAt_iff`, `cutAt_le_iff`).
-/
import Mathlib.Data.List.NodupEquivFin
import Mathlib.Data.List.Sort
import Mathlib.Tactic.Linarith
import Mathlib.Tactic.Ring
import Mathlib.Tactic.FieldSimp
import Mathlib.Tactic.GCongr

namespace ChaosDemo

/-- The sample does not fall up to its last entry. -/
def Ascending {K : Type} [LE K] (s : ℕ → K) (last : ℕ) : Prop :=
  ∀ a b, a ≤ b → b ≤ last → s a ≤ s b

section Cuts

variable {K : Type} [Field K] [LinearOrder K] [IsStrictOrderedRing K]

/-- The number of the entry that the line at `t` ends in. -/
def cell (last n t : ℕ) : ℕ :=
  if t / n < 1 then 1 else if last < t / n then last else t / n

/-- The cut of the sample at `t`. -/
def cutAt (s : ℕ → K) (last n t : ℕ) : K :=
  let j := cell last n t
  let delta : ℤ := t - j * n
  (s (j - 1) * ((n - delta : ℤ) : K) + s j * (delta : K)) / n

theorem one_le_cell {last n t : ℕ} (hlast : 1 ≤ last) : 1 ≤ cell last n t := by
  unfold cell
  split_ifs <;> omega

theorem cell_le {last n t : ℕ} (hlast : 1 ≤ last) : cell last n t ≤ last := by
  unfold cell
  split_ifs <;> omega

theorem cell_mono {last n t t' : ℕ} (hlast : 1 ≤ last) (h : t ≤ t') :
    cell last n t ≤ cell last n t' := by
  have hdiv : t / n ≤ t' / n := Nat.div_le_div_right h
  unfold cell
  split_ifs <;> omega

/-- Only the last line goes on above its end. -/
theorem le_mul_of_cell_lt {last n t : ℕ} (hn : 0 < n) (h : cell last n t < last) :
    t ≤ (cell last n t + 1) * n := by
  have hcell : t / n ≤ cell last n t := by
    revert h
    unfold cell
    split_ifs <;> omega
  have hlt : t / n < cell last n t + 1 := Nat.lt_succ_of_le hcell
  exact ((Nat.div_lt_iff_lt_mul hn).mp hlt).le

/-- Only the first line goes on below its start. -/
theorem mul_le_of_one_lt_cell {last n t : ℕ} (h : 1 < cell last n t) :
    cell last n t * n ≤ t := by
  have hcell : cell last n t ≤ t / n := by
    revert h
    unfold cell
    split_ifs <;> omega
  calc cell last n t * n ≤ t / n * n := Nat.mul_le_mul_right n hcell
    _ ≤ t := Nat.div_mul_le_self t n

/-- The cut starts from the lower entry of its line. -/
theorem cutAt_eq_lower {s : ℕ → K} {last n t : ℕ} (hn : 0 < n) :
    cutAt s last n t = s (cell last n t - 1) +
      (s (cell last n t) - s (cell last n t - 1)) * ((t : K) - cell last n t * n) / n := by
  have hn' : (n : K) ≠ 0 := Nat.cast_ne_zero.mpr hn.ne'
  simp only [cutAt]
  push_cast
  field_simp
  ring

/-- The cut ends in the upper entry of its line. -/
theorem cutAt_eq_upper {s : ℕ → K} {last n t : ℕ} (hn : 0 < n) :
    cutAt s last n t = s (cell last n t) +
      (s (cell last n t) - s (cell last n t - 1)) *
        ((t : K) - (cell last n t + 1) * n) / n := by
  have hn' : (n : K) ≠ 0 := Nat.cast_ne_zero.mpr hn.ne'
  rw [cutAt_eq_lower hn]
  field_simp
  ring

section Sample

variable {s : ℕ → K} {last n : ℕ}

theorem rise_nonneg (hs : Ascending s last) (hlast : 1 ≤ last) (t : ℕ) :
    0 ≤ s (cell last n t) - s (cell last n t - 1) :=
  sub_nonneg.mpr (hs _ _ (Nat.sub_le _ _) (cell_le hlast))

/-- A cut on a line that does not go on below its start is at least the lower entry. -/
theorem lower_le_cutAt (hs : Ascending s last) (hlast : 1 ≤ last) (hn : 0 < n) {t : ℕ}
    (h : cell last n t * n ≤ t) : s (cell last n t - 1) ≤ cutAt s last n t := by
  have hpos : (0 : K) ≤ (t : K) - cell last n t * n := by
    rw [sub_nonneg]
    exact_mod_cast h
  rw [cutAt_eq_lower hn]
  exact le_add_of_nonneg_right
    (div_nonneg (mul_nonneg (rise_nonneg hs hlast t) hpos) (Nat.cast_nonneg n))

/-- A cut on a line that does not go on above its end is at most the upper entry. -/
theorem cutAt_le_upper (hs : Ascending s last) (hlast : 1 ≤ last) (hn : 0 < n) {t : ℕ}
    (h : t ≤ (cell last n t + 1) * n) : cutAt s last n t ≤ s (cell last n t) := by
  have hneg : (t : K) - (cell last n t + 1) * n ≤ 0 := by
    rw [sub_nonpos]
    exact_mod_cast h
  rw [cutAt_eq_upper hn]
  exact add_le_of_nonpos_right
    (div_nonpos_of_nonpos_of_nonneg
      (mul_nonpos_of_nonneg_of_nonpos (rise_nonneg hs hlast t) hneg) (Nat.cast_nonneg n))

/-- A later cut is no lower: on one line by its slope, on two lines because the entry
    between them separates the cuts. -/
theorem cutAt_mono (hs : Ascending s last) (hlast : 1 ≤ last) (hn : 0 < n) {t t' : ℕ}
    (h : t ≤ t') : cutAt s last n t ≤ cutAt s last n t' := by
  rcases (cell_mono (n := n) hlast h).eq_or_lt with hcell | hcell
  · have hrise := rise_nonneg (n := n) hs hlast t'
    have ht : (t : K) ≤ t' := Nat.cast_le.mpr h
    rw [cutAt_eq_lower hn, cutAt_eq_lower hn, hcell]
    gcongr
  · have hfirst := one_le_cell (n := n) (t := t) hlast
    have hupper := cell_le (n := n) (t := t') hlast
    calc cutAt s last n t ≤ s (cell last n t) :=
          cutAt_le_upper hs hlast hn (le_mul_of_cell_lt hn (by omega))
      _ ≤ s (cell last n t' - 1) := hs _ _ (by omega) (by omega)
      _ ≤ cutAt s last n t' :=
          lower_le_cutAt hs hlast hn (mul_le_of_one_lt_cell (by omega))

theorem cell_of_lt {t : ℕ} (ht : t < n) : cell last n t = 1 := by
  simp [cell, Nat.div_eq_of_lt ht]

theorem cell_of_gt (hlast : 1 ≤ last) {t : ℕ} (hn : 0 < n) (ht : (last + 1) * n < t) :
    cell last n t = last := by
  have hdiv : last + 1 ≤ t / n := (Nat.le_div_iff_mul_le hn).mpr ht.le
  unfold cell
  split_ifs <;> omega

/-- A cut stays above the sample's first entry, unless it lies before it on a line that
    rises. -/
theorem le_cutAt_iff (hs : Ascending s last) (hlast : 1 ≤ last) (hn : 0 < n) {t : ℕ} :
    s 0 ≤ cutAt s last n t ↔ n ≤ t ∨ s 1 = s 0 := by
  rcases le_or_gt n t with ht | ht
  · have hstart : cell last n t * n ≤ t := by
      rcases (one_le_cell (n := n) (t := t) hlast).eq_or_lt with h | h
      · rw [← h, one_mul]
        exact ht
      · exact mul_le_of_one_lt_cell h
    have hcell := cell_le (n := n) (t := t) hlast
    have hle : s 0 ≤ cutAt s last n t :=
      (hs 0 _ (Nat.zero_le _) (by omega)).trans (lower_le_cutAt hs hlast hn hstart)
    exact ⟨fun _ => .inl ht, fun _ => hle⟩
  · have hneg : (t : K) - n < 0 := by
      rw [sub_neg]
      exact_mod_cast ht
    have hn' : (0 : K) < n := Nat.cast_pos.mpr hn
    have hrise : 0 ≤ s 1 - s 0 := sub_nonneg.mpr (hs 0 1 (Nat.zero_le _) hlast)
    rw [cutAt_eq_lower hn, cell_of_lt ht]
    simp only [Nat.sub_self, Nat.cast_one, one_mul]
    constructor
    · intro h
      right
      have hprod : 0 ≤ (s 1 - s 0) * ((t : K) - n) / n := by linarith
      rw [le_div_iff₀ hn', zero_mul] at hprod
      have hzero : s 1 - s 0 ≤ 0 := nonpos_of_mul_nonneg_left hprod hneg
      linarith
    · rintro (h | h)
      · omega
      · rw [h, sub_self, zero_mul, zero_div, add_zero]

/-- A cut stays below the sample's last entry, unless it lies after it on a line that
    rises. -/
theorem cutAt_le_iff (hs : Ascending s last) (hlast : 1 ≤ last) (hn : 0 < n) {t : ℕ} :
    cutAt s last n t ≤ s last ↔ t ≤ (last + 1) * n ∨ s (last - 1) = s last := by
  rcases le_or_gt t ((last + 1) * n) with ht | ht
  · have hend : t ≤ (cell last n t + 1) * n := by
      rcases (cell_le (n := n) (t := t) hlast).eq_or_lt with h | h
      · rw [h]
        exact ht
      · exact le_mul_of_cell_lt hn h
    have hle : cutAt s last n t ≤ s last :=
      (cutAt_le_upper hs hlast hn hend).trans (hs _ _ (cell_le hlast) le_rfl)
    exact ⟨fun _ => .inl ht, fun _ => hle⟩
  · have hpos : 0 < (t : K) - (last + 1) * n := by
      rw [sub_pos]
      exact_mod_cast ht
    have hn' : (0 : K) < n := Nat.cast_pos.mpr hn
    have hrise : 0 ≤ s last - s (last - 1) :=
      sub_nonneg.mpr (hs _ _ (Nat.sub_le _ _) le_rfl)
    rw [cutAt_eq_upper hn, cell_of_gt hlast hn ht]
    constructor
    · intro h
      right
      have hprod : (s last - s (last - 1)) * ((t : K) - (last + 1) * n) / n ≤ 0 := by
        linarith
      rw [div_le_iff₀ hn', zero_mul] at hprod
      have hzero : s last - s (last - 1) ≤ 0 := nonpos_of_mul_nonpos_left hprod hpos
      linarith
    · rintro (h | h)
      · omega
      · rw [h, sub_self, zero_mul, zero_div, add_zero]

end Sample

end Cuts

/-! ### The sample of a list -/

section SampleOf

variable {K : Type} [Zero K] [LinearOrder K] {data : List K}

/-- The entries of a list in ascending order, from position 0. -/
def sampleOf (data : List K) (k : ℕ) : K := (data.insertionSort (· ≤ ·)).getD k 0

theorem sampleOf_eq {k : ℕ} (hk : k < (data.insertionSort (· ≤ ·)).length) :
    sampleOf data k = (data.insertionSort (· ≤ ·)).get ⟨k, hk⟩ := by
  simp [sampleOf, List.getD_eq_getElem?_getD, List.getElem?_eq_getElem hk]

theorem sampleOf_mem {k : ℕ} (hk : k < data.length) : sampleOf data k ∈ data := by
  rw [sampleOf_eq (by simpa using hk)]
  exact (List.mem_insertionSort (· ≤ ·)).mp (List.get_mem _ _)

/-- Every entry of the list has its place in the sample. -/
theorem exists_sampleOf_eq {x : K} (hx : x ∈ data) :
    ∃ k < data.length, sampleOf data k = x := by
  obtain ⟨k, hk⟩ := List.mem_iff_get.mp ((List.mem_insertionSort (· ≤ ·)).mpr hx)
  refine ⟨k, by simpa using k.isLt, ?_⟩
  rw [sampleOf_eq k.isLt]
  exact hk

theorem sampleOf_ascending {last : ℕ} (h : last < data.length) :
    Ascending (sampleOf data) last := by
  intro a b hab hb
  have hsorted := List.pairwise_insertionSort (α := K) (· ≤ ·) data
  have hlen : (data.insertionSort (· ≤ ·)).length = data.length :=
    List.length_insertionSort (· ≤ ·) data
  rcases hab.eq_or_lt with rfl | hlt
  · exact le_rfl
  · rw [sampleOf_eq (by omega), sampleOf_eq (by omega)]
    exact List.pairwise_iff_getElem.mp hsorted a b _ _ hlt

theorem sampleOf_first {lo : K} (hlo : IsLeast {x | x ∈ data} lo) :
    sampleOf data 0 = lo := by
  obtain ⟨k, hk, rfl⟩ := exists_sampleOf_eq hlo.1
  exact le_antisymm (sampleOf_ascending hk 0 k (Nat.zero_le k) le_rfl)
    (hlo.2 (sampleOf_mem (by omega)))

theorem sampleOf_final {hi : K} (hhi : IsGreatest {x | x ∈ data} hi) :
    sampleOf data (data.length - 1) = hi := by
  obtain ⟨k, hk, rfl⟩ := exists_sampleOf_eq hhi.1
  exact le_antisymm (hhi.2 (sampleOf_mem (by omega)))
    (sampleOf_ascending (by omega) k _ (by omega) le_rfl)

/-- An entry stands twice in the list where it has two places in the sample. -/
theorem two_le_count_iff {x : K} :
    2 ≤ data.count x ↔
      ∃ a b, a < b ∧ b < data.length ∧ sampleOf data a = x ∧ sampleOf data b = x := by
  have hlen : (data.insertionSort (· ≤ ·)).length = data.length :=
    List.length_insertionSort (· ≤ ·) data
  rw [← (List.perm_insertionSort (· ≤ ·) data).count_eq,
    ← List.duplicate_iff_two_le_count, List.duplicate_iff_exists_distinct_get]
  constructor
  · rintro ⟨a, b, hab, ha, hb⟩
    refine ⟨a, b, hab, by omega, ?_, ?_⟩
    · rw [sampleOf_eq a.isLt, ha]
    · rw [sampleOf_eq b.isLt, hb]
  · rintro ⟨a, b, hab, hb, hxa, hxb⟩
    refine ⟨⟨a, by omega⟩, ⟨b, by omega⟩, hab, ?_, ?_⟩
    · rw [← hxa, sampleOf_eq]
    · rw [← hxb, sampleOf_eq]

theorem sampleOf_one_iff {lo : K} (hlo : IsLeast {x | x ∈ data} lo)
    (hlen : 2 ≤ data.length) : sampleOf data 1 = sampleOf data 0 ↔ 2 ≤ data.count lo := by
  have hfirst := sampleOf_first hlo
  rw [two_le_count_iff]
  constructor
  · intro h
    exact ⟨0, 1, Nat.zero_lt_one, by omega, hfirst, h.trans hfirst⟩
  · rintro ⟨a, b, hab, hb, -, hxb⟩
    have hasc := sampleOf_ascending hb
    refine le_antisymm ?_ (hasc 0 1 (Nat.zero_le 1) (by omega))
    calc sampleOf data 1 ≤ sampleOf data b := hasc 1 b (by omega) le_rfl
      _ = sampleOf data 0 := by rw [hxb, hfirst]

theorem sampleOf_penultimate_iff {hi : K} (hhi : IsGreatest {x | x ∈ data} hi)
    (hlen : 2 ≤ data.length) :
    sampleOf data (data.length - 1 - 1) = sampleOf data (data.length - 1) ↔
      2 ≤ data.count hi := by
  have hfinal := sampleOf_final hhi
  have hasc : Ascending (sampleOf data) (data.length - 1) := sampleOf_ascending (by omega)
  rw [two_le_count_iff]
  constructor
  · intro h
    exact ⟨data.length - 1 - 1, data.length - 1, by omega, by omega, h.trans hfinal, hfinal⟩
  · rintro ⟨a, b, hab, hb, hxa, -⟩
    refine le_antisymm (hasc _ _ (by omega) le_rfl) ?_
    calc sampleOf data (data.length - 1) = sampleOf data a := by rw [hfinal, hxa]
      _ ≤ sampleOf data (data.length - 1 - 1) := hasc a _ (by omega) (by omega)

end SampleOf

end ChaosDemo
