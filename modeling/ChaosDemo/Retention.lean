/-
ChaosDemo/Retention.lean

A directory that keeps its last files by name.  Each call writes one file and then deletes
the first ones in the order of the names:

    archive keep d (name, content)  =  prune keep (put d name content)

What such a directory is for is to keep the files that were written last.  It does so in
every state of a run exactly if no call writes a name below the name before it
(`keepsNewest_iff`): only then the order of the names is the order of the calls.
-/
import Mathlib.Data.List.Chain
import Mathlib.Data.List.Sort
import Mathlib.Data.List.Infix

namespace ChaosDemo

/-- The last `n` entries. -/
def newest {γ : Type} (n : ℕ) (l : List γ) : List γ := l.drop (l.length - n)

/-- A directory: names and contents, in the order in which they were written last. -/
abbrev Directory (α β : Type) := List (α × β)

namespace Directory

section Operations

variable {α β : Type} [LinearOrder α]

/-- Writes a file; an older one of the name is replaced. -/
def put (d : Directory α β) (name : α) (content : β) : Directory α β :=
  d.filter (fun e => e.1 ≠ name) ++ [(name, content)]

/-- Deletes a file, if it is there. -/
def unlink (d : Directory α β) (name : α) : Directory α β := d.filter (fun e => e.1 ≠ name)

/-- The names in their order. -/
def listing (d : Directory α β) : List α := (d.map Prod.fst).insertionSort (· ≤ ·)

/-- Deletes the first files until `keep` are left. -/
def prune (keep : ℕ) (d : Directory α β) : Directory α β :=
  let files := d.listing
  if keep < files.length then (files.take (files.length - keep)).foldl unlink d else d

/-- Writes a file and deletes the first ones. -/
def archive (keep : ℕ) (d : Directory α β) (e : α × β) : Directory α β :=
  prune keep (d.put e.1 e.2)

/-- The files of a run of which none is ever deleted, in the order of their last writing. -/
def archived (calls : List (α × β)) : Directory α β :=
  calls.foldl (fun d e => d.put e.1 e.2) []

/-- The directory after a run. -/
def after (keep : ℕ) (calls : List (α × β)) : Directory α β := calls.foldl (archive keep) []

/-- The names rise in the order of the writing. -/
def Rising (d : Directory α β) : Prop := d.Pairwise fun e e' => e.1 < e'.1

/-- The directory after `calls` holds what was written last, and its last `n` names are
    those that were written last, in the order of the writing. -/
structure HoldsNewest (keep n : ℕ) (calls : List (α × β)) : Prop where
  length_le : (after keep calls).length ≤ keep
  last_mem : ∀ e, calls.getLast? = some e → e ∈ after keep calls
  perm : (after keep calls).Perm (newest keep (archived calls))
  order : newest n (after keep calls).listing =
    (newest n (newest keep (archived calls))).map Prod.fst

end Operations

/-! ### The last entries of a list -/

section Newest

variable {γ δ : Type}

@[simp] theorem newest_nil (n : ℕ) : newest n ([] : List γ) = [] := by
  simp [newest]

theorem length_newest (n : ℕ) (l : List γ) : (newest n l).length = min n l.length := by
  simp only [newest, List.length_drop]
  omega

theorem map_newest (f : γ → δ) (n : ℕ) (l : List γ) :
    newest n (l.map f) = (newest n l).map f := by
  simp [newest, List.map_drop]

theorem newest_suffix (n : ℕ) (l : List γ) : newest n l <:+ l := List.drop_suffix _ _

/-- One more at the end takes the place of one at the start. -/
theorem newest_succ_append (n : ℕ) (l : List γ) (x : γ) :
    newest (n + 1) (l ++ [x]) = newest n l ++ [x] := by
  have hlen : (l ++ [x]).length - (n + 1) = l.length - n := by
    simp only [List.length_append, List.length_singleton]
    omega
  rw [newest, hlen, List.drop_append_of_le_length (Nat.sub_le _ _)]
  rfl

theorem newest_newest {m n : ℕ} (h : m ≤ n) (l : List γ) : newest m (newest n l) = newest m l := by
  simp only [newest, List.drop_drop, List.length_drop]
  congr 1
  omega

theorem getLast?_newest {n : ℕ} (hn : 1 ≤ n) (l : List γ) :
    (newest n l).getLast? = l.getLast? := by
  rcases l.eq_nil_or_concat' with rfl | ⟨l, x, rfl⟩
  · rw [newest_nil]
  · obtain ⟨n, rfl⟩ := Nat.exists_eq_add_of_le' hn
    rw [newest_succ_append]
    simp

/-- To drop entries is to keep those that are not among the dropped. -/
theorem filter_notMem_take [DecidableEq δ] (f : γ → δ) {l : List γ} (h : (l.map f).Nodup)
    (m : ℕ) : l.filter (fun x => f x ∉ (l.map f).take m) = l.drop m := by
  induction l generalizing m with
  | nil => simp
  | cons x l ih =>
      obtain ⟨hx, hl⟩ := List.nodup_cons.mp h
      cases m with
      | zero => simp
      | succ m =>
          have hrest : l.filter (fun y => f y ∉ f x :: (l.map f).take m) =
              l.filter fun y => f y ∉ (l.map f).take m := by
            refine List.filter_congr fun y hy => ?_
            have hne : f y ≠ f x := fun heq => hx (heq ▸ List.mem_map_of_mem hy)
            simp [hne]
          have hfirst : (x :: l).filter (fun y => f y ∉ f x :: (l.map f).take m) =
              l.filter fun y => f y ∉ f x :: (l.map f).take m := by
            simp
          show (x :: l).filter (fun y => f y ∉ f x :: (l.map f).take m) = l.drop m
          rw [hfirst, hrest, ih hl]

end Newest

/-! ### What an operation leaves -/

section Operations

variable {α β : Type} [LinearOrder α] {d : Directory α β} {name : α} {content : β}

theorem put_nodup (h : (d.map Prod.fst).Nodup) :
    ((d.put name content).map Prod.fst).Nodup := by
  rw [put, List.map_append, List.nodup_append]
  refine ⟨h.sublist (List.filter_sublist.map _), by simp, ?_⟩
  intro a ha b hb
  obtain ⟨e, he, rfl⟩ := List.mem_map.mp ha
  obtain rfl : b = name := by simpa using hb
  simpa using (List.mem_filter.mp he).2

theorem foldl_unlink (names : List α) (d : Directory α β) :
    names.foldl unlink d = d.filter fun e => e.1 ∉ names := by
  induction names generalizing d with
  | nil => simp
  | cons name names ih =>
      rw [List.foldl_cons, ih, unlink, List.filter_filter]
      refine List.filter_congr fun e _ => ?_
      simp [Bool.and_comm]

theorem prune_eq (keep : ℕ) (d : Directory α β) :
    prune keep d = d.filter fun e => e.1 ∉ d.listing.take (d.listing.length - keep) := by
  by_cases h : keep < d.listing.length
  · show (if keep < d.listing.length then _ else d) = _
    rw [if_pos h, foldl_unlink]
  · show (if keep < d.listing.length then _ else d) = _
    rw [if_neg h]
    have hzero : d.listing.length - keep = 0 := by omega
    simp [hzero]

theorem prune_nodup {keep : ℕ} (h : (d.map Prod.fst).Nodup) :
    ((prune keep d).map Prod.fst).Nodup := by
  rw [prune_eq]
  exact h.sublist (List.filter_sublist.map _)

theorem listing_perm (d : Directory α β) : d.listing.Perm (d.map Prod.fst) :=
  List.perm_insertionSort _ _

theorem listing_sorted (d : Directory α β) : d.listing.Pairwise (· ≤ ·) :=
  List.pairwise_insertionSort _ _

/-- Deleting the first names leaves the last ones. -/
theorem listing_prune {keep : ℕ} (h : (d.map Prod.fst).Nodup) :
    (prune keep d).listing = newest keep d.listing := by
  have hnodup : d.listing.Nodup := d.listing_perm.nodup_iff.mpr h
  have hdrop := filter_notMem_take id (by simpa using hnodup) (d.listing.length - keep)
  simp only [List.map_id, id] at hdrop
  have hmap : (d.filter fun e => e.1 ∉ d.listing.take (d.listing.length - keep)).map Prod.fst =
      (d.map Prod.fst).filter fun a => a ∉ d.listing.take (d.listing.length - keep) := by
    rw [List.filter_map]
    rfl
  refine List.Perm.eq_of_pairwise' (listing_sorted _)
    ((listing_sorted d).sublist (newest_suffix keep _).sublist) ?_
  refine (listing_perm _).trans ?_
  rw [prune_eq, hmap, newest, ← hdrop]
  exact (d.listing_perm.filter _).symm

/-- The last name of a listing is its greatest one. -/
theorem le_of_getLast?_listing {a : α} (h : d.listing.getLast? = some a) {e : α × β}
    (he : e ∈ d) : e.1 ≤ a := by
  obtain ⟨names, hnames⟩ := List.getLast?_eq_some_iff.mp h
  have hmem : e.1 ∈ d.listing := d.listing_perm.mem_iff.mpr (List.mem_map_of_mem he)
  have hsorted := listing_sorted d
  rw [hnames] at hmem hsorted
  rcases List.mem_append.mp hmem with hmem | hmem
  · exact (List.pairwise_append.mp hsorted).2.2 _ hmem a (List.mem_singleton_self a)
  · exact (List.mem_singleton.mp hmem).le

end Operations

/-! ### Runs whose names do not fall -/

section Rising

variable {α β : Type} [LinearOrder α] {d : Directory α β}

theorem Rising.nodup (h : Rising d) : (d.map Prod.fst).Nodup :=
  List.pairwise_map.mpr (h.imp fun hlt => hlt.ne)

theorem Rising.listing (h : Rising d) : d.listing = d.map Prod.fst :=
  List.Pairwise.insertionSort_eq (List.pairwise_map.mpr (h.imp fun hlt => hlt.le))

theorem Rising.prune (h : Rising d) (keep : ℕ) : prune keep d = newest keep d := by
  rw [prune_eq, h.listing, List.length_map]
  exact filter_notMem_take Prod.fst h.nodup _

/-- A name above all others only comes to the end. -/
theorem put_of_lt {name : α} {content : β} (h : ∀ e ∈ d, e.1 < name) :
    d.put name content = d ++ [(name, content)] := by
  have hkeep : d.filter (fun e => e.1 ≠ name) = d :=
    List.filter_eq_self.mpr fun e he => by simpa using (h e he).ne
  rw [put, hkeep]

/-- The last name takes the new content. -/
theorem put_last {name : α} {content old : β} (h : ∀ e ∈ d, e.1 < name) :
    put (d ++ [(name, old)]) name content = d ++ [(name, content)] := by
  have hkeep : d.filter (fun e => e.1 ≠ name) = d :=
    List.filter_eq_self.mpr fun e he => by simpa using (h e he).ne
  rw [put, List.filter_append, hkeep]
  simp

/-- One step of a run whose names do not fall: the names rise on, and the directory is what
    was written last. -/
theorem Rising.archive {keep : ℕ} (hkeep : 1 ≤ keep) (h : Rising d) {e : α × β}
    (hle : ∀ l, d.getLast? = some l → l.1 ≤ e.1) :
    Rising (d.put e.1 e.2) ∧
      archive keep (newest keep d) e = newest keep (d.put e.1 e.2) := by
  obtain ⟨keep, rfl⟩ := Nat.exists_eq_add_of_le' hkeep
  obtain ⟨name, content⟩ := e
  -- below the last name, everything is below the new one
  have hbelow : ∀ {d : Directory α β}, Rising d → (∀ e ∈ d, e.1 < name) →
      Rising (d ++ [(name, content)]) := by
    intro d hd hlt
    refine List.pairwise_append.mpr ⟨hd, List.pairwise_singleton _ _, ?_⟩
    intro e he e' he'
    rw [List.mem_singleton.mp he']
    exact hlt e he
  have hkept : ∀ {d : Directory α β} (m : ℕ), (∀ e ∈ d, e.1 < name) →
      ∀ e ∈ newest m d, e.1 < name :=
    fun m hlt e he => hlt e ((newest_suffix m _).subset he)
  have hrest : ∀ {d : Directory α β} (m : ℕ), Rising d → Rising (newest m d) :=
    fun m hd => hd.sublist (newest_suffix m _).sublist
  rcases d.eq_nil_or_concat' with rfl | ⟨d, ⟨last, old⟩, rfl⟩
  · have hone : Rising [(name, content)] := List.pairwise_singleton _ _
    refine ⟨hone, ?_⟩
    rw [newest_nil]
    exact hone.prune _
  · obtain ⟨hd, -, hlast⟩ := List.pairwise_append.mp h
    replace hlast : ∀ e ∈ d, e.1 < last := fun e he => hlast e he _ (List.mem_singleton_self _)
    have hstep : last ≤ name := hle (last, old) (by simp)
    rcases hstep.eq_or_lt with rfl | hlt
    · rw [put_last hlast]
      have hnew := hbelow (hrest keep hd) (hkept keep hlast)
      refine ⟨hbelow hd hlast, ?_⟩
      rw [newest_succ_append, Directory.archive, put_last (hkept keep hlast), hnew.prune,
        newest_succ_append, newest_newest le_rfl, newest_succ_append]
    · have hall : ∀ e ∈ d ++ [(last, old)], e.1 < name := by
        intro e he
        rcases List.mem_append.mp he with he | he
        · exact (hlast e he).trans hlt
        · rw [List.mem_singleton.mp he]
          exact hlt
      rw [put_of_lt hall]
      have hnew := hbelow (hrest (keep + 1) h) (hkept (keep + 1) hall)
      refine ⟨hbelow h hall, ?_⟩
      rw [Directory.archive, put_of_lt (hkept (keep + 1) hall), hnew.prune,
        newest_succ_append, newest_newest (Nat.le_succ keep), newest_succ_append]

theorem archived_concat (calls : List (α × β)) (e : α × β) :
    archived (calls ++ [e]) = (archived calls).put e.1 e.2 := by
  simp [archived]

theorem after_concat (keep : ℕ) (calls : List (α × β)) (e : α × β) :
    after keep (calls ++ [e]) = Directory.archive keep (after keep calls) e := by
  simp [after]

/-- The call just made is the last one that was written. -/
theorem getLast?_archived (calls : List (α × β)) :
    (archived calls).getLast? = calls.getLast? := by
  rcases calls.eq_nil_or_concat' with rfl | ⟨calls, e, rfl⟩
  · rfl
  · rw [archived_concat, put]
    simp

theorem isChain_concat_iff {γ : Type} {r : γ → γ → Prop} {l : List γ} {x : γ} :
    (l ++ [x]).IsChain r ↔ l.IsChain r ∧ ∀ y, l.getLast? = some y → r y x := by
  rw [List.isChain_append]
  simp

/-- A run whose names do not fall leaves what was written last. -/
theorem after_of_chain {keep : ℕ} (hkeep : 1 ≤ keep) {calls : List (α × β)}
    (h : calls.IsChain fun e e' => e.1 ≤ e'.1) :
    Rising (archived calls) ∧ after keep calls = newest keep (archived calls) := by
  induction calls using List.reverseRecOn with
  | nil => exact ⟨List.Pairwise.nil, (newest_nil keep).symm⟩
  | append_singleton calls e ih =>
      obtain ⟨hcalls, hle⟩ := isChain_concat_iff.mp h
      obtain ⟨hrising, hafter⟩ := ih hcalls
      rw [archived_concat, after_concat, hafter]
      refine hrising.archive hkeep fun l hl => hle l ?_
      rw [← getLast?_archived]
      exact hl

theorem HoldsNewest.of_chain {keep n : ℕ} (hkeep : 1 ≤ keep) {calls : List (α × β)}
    (h : calls.IsChain fun e e' => e.1 ≤ e'.1) : HoldsNewest keep n calls := by
  obtain ⟨hrising, hafter⟩ := after_of_chain hkeep h
  have hkept : Rising (newest keep (archived calls)) :=
    hrising.sublist (newest_suffix keep _).sublist
  refine ⟨?_, ?_, ?_, ?_⟩
  · rw [hafter, length_newest]
    exact min_le_left _ _
  · intro e he
    rw [hafter]
    refine List.mem_of_getLast? ?_
    rw [getLast?_newest hkeep, getLast?_archived, he]
  · rw [hafter]
  · rw [hafter, hkept.listing, map_newest]

theorem after_nodup (keep : ℕ) (calls : List (α × β)) :
    ((after keep calls).map Prod.fst).Nodup := by
  induction calls using List.reverseRecOn with
  | nil => exact List.nodup_nil
  | append_singleton calls e ih =>
      rw [after_concat]
      exact prune_nodup (put_nodup ih)

/-- A name below the one before it does not come last. -/
theorem HoldsNewest.le {keep n : ℕ} (hkeep : 1 ≤ keep) (hn : 1 ≤ n) {calls : List (α × β)}
    {e l : α × β} (hbefore : HoldsNewest keep n calls)
    (h : HoldsNewest keep n (calls ++ [e])) (hl : calls.getLast? = some l) : l.1 ≤ e.1 := by
  by_contra hlt
  have hput : l ∈ (after keep calls).put e.1 e.2 := by
    have hne : l.1 ≠ e.1 := fun heq => hlt heq.le
    exact List.mem_append_left _
      (List.mem_filter.mpr ⟨hbefore.last_mem l hl, by simpa using hne⟩)
  have hlast := congrArg List.getLast? h.order
  rw [getLast?_newest hn, List.getLast?_map, getLast?_newest hn, getLast?_newest hkeep,
    getLast?_archived, after_concat, Directory.archive,
    listing_prune (put_nodup (after_nodup keep calls)), getLast?_newest hkeep] at hlast
  simp only [List.getLast?_concat, Option.map_some] at hlast
  exact hlt (le_of_getLast?_listing hlast hput)

/-- The directory holds what was written last after every call of a run exactly if no call
    writes a name below the name before it. -/
theorem keepsNewest_iff {keep n : ℕ} (hkeep : 1 ≤ keep) (hn : 1 ≤ n)
    {calls : List (α × β)} :
    (∀ done, done <+: calls → HoldsNewest keep n done) ↔
      calls.IsChain fun e e' => e.1 ≤ e'.1 := by
  constructor
  · intro h
    induction calls using List.reverseRecOn with
    | nil => exact List.IsChain.nil
    | append_singleton calls e ih =>
        refine isChain_concat_iff.mpr ⟨?_, ?_⟩
        · exact ih fun done hdone => h done (hdone.trans (List.prefix_append calls [e]))
        · intro l hl
          exact (h calls (List.prefix_append calls [e])).le hkeep hn
            (h (calls ++ [e]) List.prefix_rfl) hl
  · intro h done hdone
    have hchain : done.IsChain fun e e' => e.1 ≤ e'.1 :=
      List.IsChain.infix h hdone.isInfix
    exact HoldsNewest.of_chain hkeep hchain

end Rising

end Directory

end ChaosDemo
