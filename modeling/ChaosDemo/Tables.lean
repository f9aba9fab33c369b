/-
ChaosDemo/Tables.lean

Tables that a loop fills, and lists from which repetitions are dropped.

    tabulate   an entry for each key, in the order in which the keys come first,
               with all that the items of this key add
    firsts     of items that count as the same, the first one

The entry of a key is the fold over its items (`mem_tabulate_iff`).  So what the entries add
up to is what the items add up to (`sum_tabulate`), and where the order of the items does not
show in an entry it shows in a table only as the order of its entries (`tabulate_perm`).
-/
import Mathlib.Algebra.BigOperators.Group.List.Basic
import Mathlib.Data.List.Induction
import Mathlib.Data.List.Nodup

namespace ChaosDemo

namespace Table

section Entries

variable {K S X T : Type*}

/-- The keys of a table. -/
abbrev keys (table : List (K × S)) : List K := table.map Prod.fst

/-- A table with each key once is read at an entry. -/
theorem lookup_of_mem [BEq K] [LawfulBEq K] {table : List (K × S)} (h : (keys table).Nodup)
    {e : K × S} (he : e ∈ table) : table.lookup e.1 = some e.2 := by
  obtain ⟨before, after, rfl⟩ := List.append_of_mem he
  refine List.lookup_eq_some_iff.mpr ⟨before, after, rfl, fun d hd => ?_⟩
  rw [bne_iff_ne]
  intro heq
  rw [keys, List.map_append, List.map_cons] at h
  exact (List.nodup_append.mp h).2.2 d.1 (List.mem_map_of_mem hd) e.1 List.mem_cons_self heq.symm

variable [DecidableEq K] {empty : S} {k : K} {f : S → S}

/-- Change the entry of a key, made empty first where there is none. -/
def upsert (empty : S) (k : K) (f : S → S) : List (K × S) → List (K × S)
  | [] => [(k, f empty)]
  | e :: table => if e.1 = k then (e.1, f e.2) :: table else e :: upsert empty k f table

theorem upsert_of_eq {e : K × S} {table : List (K × S)} (h : e.1 = k) :
    upsert empty k f (e :: table) = (e.1, f e.2) :: table :=
  if_pos h

theorem upsert_of_ne {e : K × S} {table : List (K × S)} (h : e.1 ≠ k) :
    upsert empty k f (e :: table) = e :: upsert empty k f table :=
  if_neg h

theorem keys_upsert (table : List (K × S)) :
    keys (upsert empty k f table) =
      if k ∈ keys table then keys table else keys table ++ [k] := by
  induction table with
  | nil => rfl
  | cons e table ih =>
      by_cases h : e.1 = k
      · rw [upsert_of_eq h, if_pos (List.mem_map.mpr ⟨e, List.mem_cons_self, h⟩)]
        rfl
      · have hmem : k ∈ keys (e :: table) ↔ k ∈ keys table := by
          simp [keys, Ne.symm h]
        rw [upsert_of_ne h, keys, List.map_cons, ← keys, ih]
        by_cases hk : k ∈ keys table
        · rw [if_pos hk, if_pos (hmem.mpr hk)]
          rfl
        · rw [if_neg hk, if_neg (mt hmem.mp hk)]
          rfl

theorem nodup_keys_upsert {table : List (K × S)} (h : (keys table).Nodup) :
    (keys (upsert empty k f table)).Nodup := by
  rw [keys_upsert]
  by_cases hk : k ∈ keys table
  · rwa [if_pos hk]
  · rw [if_neg hk, List.nodup_append]
    refine ⟨h, List.nodup_singleton k, ?_⟩
    rintro a ha b hb rfl
    exact hk (List.mem_singleton.mp hb ▸ ha)

/-- An entry after an update is that of another key, or the changed one. -/
theorem mem_upsert_iff {table : List (K × S)} (hnodup : (keys table).Nodup) {e : K × S} :
    e ∈ upsert empty k f table ↔ (e ∈ table ∧ e.1 ≠ k) ∨
      (e.1 = k ∧ ((∃ s, (k, s) ∈ table ∧ e.2 = f s) ∨ (k ∉ keys table ∧ e.2 = f empty))) := by
  induction table with
  | nil => simp [upsert, keys, Prod.ext_iff]
  | cons d table ih =>
      obtain ⟨hd, hnodup⟩ := List.nodup_cons.mp hnodup
      by_cases h : d.1 = k
      · subst h
        rw [upsert_of_eq rfl, List.mem_cons]
        have hkey : ∀ {e : K × S}, e ∈ table → e.1 ≠ d.1 := fun he heq =>
          hd (heq ▸ List.mem_map_of_mem he)
        constructor
        · rintro (rfl | he)
          · exact .inr ⟨rfl, .inl ⟨d.2, List.mem_cons_self, rfl⟩⟩
          · exact .inl ⟨List.mem_cons_of_mem d he, hkey he⟩
        · rintro (⟨he, hne⟩ | ⟨hk, ⟨s, hs, hval⟩ | ⟨hnone, -⟩⟩)
          · rcases List.mem_cons.mp he with rfl | he
            · exact absurd rfl hne
            · exact .inr he
          · rcases List.mem_cons.mp hs with hs | hs
            · exact .inl (Prod.ext hk (by rw [hval, ← hs]))
            · exact absurd rfl (hkey (e := (d.1, s)) hs)
          · exact absurd List.mem_cons_self hnone
      · rw [upsert_of_ne h, List.mem_cons, ih hnodup]
        have hnone : k ∉ keys (d :: table) ↔ k ∉ keys table := by
          simp [keys, Ne.symm h]
        have hsome : ∀ s, (k, s) ∈ d :: table ↔ (k, s) ∈ table := fun s => by
          rw [List.mem_cons, or_iff_right]
          rintro rfl
          exact h rfl
        simp only [hnone, hsome, List.mem_cons]
        constructor
        · rintro (rfl | ⟨he, hne⟩ | he)
          · exact .inl ⟨.inl rfl, h⟩
          · exact .inl ⟨.inr he, hne⟩
          · exact .inr he
        · rintro (⟨rfl | he, hne⟩ | he)
          · exact .inl rfl
          · exact .inr (.inl ⟨he, hne⟩)
          · exact .inr (.inr he)

/-- A sum over the entries grows by what the change adds. -/
theorem sum_upsert {M : Type*} [AddCommMonoid M] {μ : S → M} {w : M} (h0 : μ empty = 0)
    (hf : ∀ s, μ (f s) = μ s + w) (table : List (K × S)) :
    ((upsert empty k f table).map fun e => μ e.2).sum = (table.map fun e => μ e.2).sum + w := by
  induction table with
  | nil => simp [upsert, hf, h0]
  | cons e table ih =>
      by_cases h : e.1 = k
      · rw [upsert_of_eq h, List.map_cons, List.map_cons, List.sum_cons, List.sum_cons, hf,
          add_right_comm]
      · rw [upsert_of_ne h, List.map_cons, List.map_cons, List.sum_cons, List.sum_cons, ih,
          add_assoc]

variable {key : X → K} {add : S → X → S} {xs ys : List X}

/-- The table of all items. -/
def tabulate (empty : S) (key : X → K) (add : S → X → S) (xs : List X) : List (K × S) :=
  xs.foldl (fun table x => upsert empty (key x) (add · x) table) []

theorem tabulate_concat (x : X) : tabulate empty key add (xs ++ [x]) =
    upsert empty (key x) (add · x) (tabulate empty key add xs) :=
  List.foldl_concat ..

theorem nodup_keys_tabulate (xs : List X) : (keys (tabulate empty key add xs)).Nodup := by
  induction xs using List.reverseRecOn with
  | nil => exact List.nodup_nil
  | append_singleton xs x ih =>
      rw [tabulate_concat]
      exact nodup_keys_upsert ih

theorem mem_tabulate_iff {s : S} : (k, s) ∈ tabulate empty key add xs ↔
    (∃ x ∈ xs, key x = k) ∧ s = (xs.filter (key · = k)).foldl add empty := by
  induction xs using List.reverseRecOn generalizing k s with
  | nil => simp [tabulate]
  | append_singleton xs x ih =>
      have hkeys : ∀ l, l ∈ keys (tabulate empty key add xs) ↔ ∃ y ∈ xs, key y = l := by
        intro l
        constructor
        · intro hl
          obtain ⟨e, he, rfl⟩ := List.mem_map.mp hl
          exact (ih.mp he).1
        · exact fun hl => List.mem_map_of_mem (ih.mpr ⟨hl, rfl⟩)
      rw [tabulate_concat, mem_upsert_iff (nodup_keys_tabulate xs), hkeys]
      simp only [ih, List.mem_append, List.mem_singleton, List.filter_append]
      by_cases hk : key x = k
      · subst hk
        have hfold : ((xs.filter (key · = key x)) ++ [x].filter (key · = key x)).foldl add empty =
            add ((xs.filter (key · = key x)).foldl add empty) x := by
          simp
        rw [hfold]
        constructor
        · rintro (⟨-, hne⟩ | ⟨-, ⟨s', ⟨-, rfl⟩, hs⟩ | ⟨hnone, hs⟩⟩)
          · exact absurd rfl hne
          · exact ⟨⟨x, .inr rfl, rfl⟩, hs⟩
          · have hnil : xs.filter (key · = key x) = [] := by
              simpa using hnone
            rw [hnil]
            exact ⟨⟨x, .inr rfl, rfl⟩, hs⟩
        · rintro ⟨-, hs⟩
          refine .inr ⟨rfl, ?_⟩
          by_cases hsome : ∃ y ∈ xs, key y = key x
          · exact .inl ⟨_, ⟨hsome, rfl⟩, hs⟩
          · have hnil : xs.filter (key · = key x) = [] := by
              simpa using hsome
            rw [hnil] at hs
            exact .inr ⟨hsome, hs⟩
      · have hfold : (xs.filter (key · = k) ++ [x].filter (key · = k)).foldl add empty =
            (xs.filter (key · = k)).foldl add empty := by
          simp [hk]
        rw [hfold]
        constructor
        · rintro (⟨⟨⟨y, hy, hkey⟩, hs⟩, -⟩ | ⟨hkey, -⟩)
          · exact ⟨⟨y, .inl hy, hkey⟩, hs⟩
          · exact absurd hkey.symm hk
        · rintro ⟨⟨y, hy | rfl, hkey⟩, hs⟩
          · exact .inl ⟨⟨⟨y, hy, hkey⟩, hs⟩, Ne.symm hk⟩
          · exact absurd hkey hk

/-- What the entries add up to is what the items add up to. -/
theorem sum_tabulate {M : Type*} [AddCommMonoid M] (empty : S) (key : X → K) (add : S → X → S)
    {μ : S → M} {w : X → M} (h0 : μ empty = 0) (hadd : ∀ s x, μ (add s x) = μ s + w x)
    (xs : List X) :
    ((tabulate empty key add xs).map fun e => μ e.2).sum = (xs.map w).sum := by
  induction xs using List.reverseRecOn with
  | nil => rfl
  | append_singleton xs x ih =>
      rw [tabulate_concat, sum_upsert h0 (fun s => hadd s x), ih, List.map_append,
        List.sum_append, List.map_singleton, List.sum_singleton]

/-- The order of the items is not seen in what is seen of each entry. -/
theorem tabulate_perm (key : X → K) {g : S → T}
    (hg : ∀ xs ys : List X, xs.Perm ys → g (xs.foldl add empty) = g (ys.foldl add empty))
    (h : xs.Perm ys) :
    ((tabulate empty key add xs).map (Prod.map id g)).Perm
      ((tabulate empty key add ys).map (Prod.map id g)) := by
  have hnodup : ∀ zs, ((tabulate empty key add zs).map (Prod.map id g)).Nodup := by
    intro zs
    refine List.Nodup.of_map Prod.fst ?_
    rw [List.map_map]
    exact nodup_keys_tabulate zs
  have hsub : ∀ {xs ys : List X}, xs.Perm ys → ∀ e,
      e ∈ (tabulate empty key add xs).map (Prod.map id g) →
        e ∈ (tabulate empty key add ys).map (Prod.map id g) := by
    intro xs ys h e he
    obtain ⟨⟨k, s⟩, hmem, rfl⟩ := List.mem_map.mp he
    obtain ⟨⟨x, hx, hk⟩, rfl⟩ := mem_tabulate_iff.mp hmem
    refine List.mem_map.mpr ⟨_, mem_tabulate_iff.mpr ⟨⟨x, h.subset hx, hk⟩, rfl⟩, ?_⟩
    exact Prod.ext rfl (hg _ _ (h.symm.filter _))
  rw [List.perm_ext_iff_of_nodup (hnodup xs) (hnodup ys)]
  exact fun e => ⟨hsub h e, hsub h.symm e⟩

end Entries

/-! ### Without repetitions -/

section Firsts

variable {X : Type*} {same : X → X → Bool} {xs : List X}

/-- Of the items that are the same, the first one. -/
def firsts (same : X → X → Bool) (xs : List X) : List X :=
  xs.foldl (fun kept x => if kept.any (same · x) then kept else kept ++ [x]) []

theorem firsts_concat (xs : List X) (x : X) : firsts same (xs ++ [x]) =
    if (firsts same xs).any (same · x) then firsts same xs else firsts same xs ++ [x] :=
  List.foldl_concat ..

theorem firsts_subset : firsts same xs ⊆ xs := by
  induction xs using List.reverseRecOn with
  | nil => exact List.Subset.refl []
  | append_singleton xs x ih =>
      rw [firsts_concat]
      by_cases h : (firsts same xs).any (same · x) = true
      · rw [if_pos h]
        exact List.Subset.trans ih (List.subset_append_left xs [x])
      · rw [if_neg h]
        exact List.append_subset.mpr
          ⟨List.Subset.trans ih (List.subset_append_left xs [x]),
            List.subset_append_right xs [x]⟩

/-- No two that are kept are the same. -/
theorem firsts_pairwise : (firsts same xs).Pairwise fun a b => same a b = false := by
  induction xs using List.reverseRecOn with
  | nil => exact List.Pairwise.nil
  | append_singleton xs x ih =>
      rw [firsts_concat]
      by_cases h : (firsts same xs).any (same · x) = true
      · rwa [if_pos h]
      · rw [if_neg h, List.pairwise_append]
        refine ⟨ih, List.pairwise_singleton .., fun a ha b hb => ?_⟩
        obtain rfl := List.mem_singleton.mp hb
        rw [Bool.eq_false_iff]
        exact fun hsame => h (List.any_eq_true.mpr ⟨a, ha, hsame⟩)

/-- Of every item one that is the same is kept. -/
theorem exists_first {x : X} (hx : x ∈ xs) (hself : same x x = true) :
    ∃ a ∈ firsts same xs, same a x = true := by
  induction xs using List.reverseRecOn with
  | nil => cases hx
  | append_singleton xs y ih =>
      rw [firsts_concat]
      by_cases h : (firsts same xs).any (same · y) = true
      · rw [if_pos h]
        rcases List.mem_append.mp hx with hx | hx
        · exact ih hx
        · rw [List.mem_singleton.mp hx]
          exact List.any_eq_true.mp h
      · rw [if_neg h]
        rcases List.mem_append.mp hx with hx | hx
        · obtain ⟨a, ha, hsame⟩ := ih hx
          exact ⟨a, List.mem_append_left [y] ha, hsame⟩
        · refine ⟨x, List.mem_append_right _ hx, hself⟩

/-- Where no two items are the same, all are kept. -/
theorem firsts_of_pairwise (h : xs.Pairwise fun a b => same a b = false) :
    firsts same xs = xs := by
  induction xs using List.reverseRecOn with
  | nil => rfl
  | append_singleton xs x ih =>
      obtain ⟨hxs, -, hx⟩ := List.pairwise_append.mp h
      rw [firsts_concat, ih hxs, if_neg]
      rw [List.any_eq_true]
      rintro ⟨a, ha, hsame⟩
      rw [hx a ha x (List.mem_singleton_self x)] at hsame
      cases hsame

end Firsts

end Table

end ChaosDemo
