/-
ChaosDemo/RateKeys.lean

The keys under which the limiter counts.  A key is a row of segments with colons between
them, and no segment holds a colon, so a key splits into its segments again:

    sliding   service : rate : resource : dimension : subject
    fixed     service : rate : resource : dimension : subject : bucket

Two keys are therefore equal exactly where their segments are, and a row of five is never
a row of six.  What is left of a subject in its segment is another matter: `normalizeSegment`
is not injective in general, but it is on the texts of addresses (`AddressText`).
-/
import ChaosDemo.PyText
import ChaosDemo.RateLimiter

namespace ChaosDemo

variable {K : Type} [Field K] [LinearOrder K]

/-! ### Segments -/

/-- A segment, by its characters. -/
def segment (value : String) : List Char := (normalizeSegment value).toList

/-- The character that stands for `c` in a segment. -/
def segmentChar (c : Char) : Char := if c = ' ' ∨ c = '/' ∨ c = ':' then '_' else c

theorem segment_eq (value : String) :
    segment value = if pyStrip value = "" then "unknown".toList
      else (pyStrip value).toList.map segmentChar := by
  show (if pyStrip value = "" then "unknown" else String.ofList _).toList = _
  split
  · rfl
  · exact String.toList_ofList

theorem segmentChar_ne (c : Char) : segmentChar c ≠ ':' := by
  unfold segmentChar
  split
  · decide
  · rename_i hkeep
    exact fun hc => hkeep (.inr (.inr hc))

/-- No segment holds a colon. -/
theorem not_mem_segment (value : String) : ':' ∉ segment value := by
  rw [segment_eq]
  split
  · decide
  · intro hmem
    obtain ⟨c, -, hc⟩ := List.mem_map.mp hmem
    exact segmentChar_ne c hc

theorem not_mem_repr (b : ℤ) : ':' ∉ b.repr.toList := by
  have hdigits : ∀ n : ℕ, ':' ∉ n.repr.toList := by
    intro n hmem
    rw [Nat.toList_repr] at hmem
    have hdigit := Nat.isDigit_of_mem_toDigits (by decide) (by decide) hmem
    exact absurd hdigit (by decide)
  cases b with
  | ofNat n => exact hdigits n
  | negSucc n =>
      intro hmem
      have hmem' : ':' ∈ ("-" ++ n.succ.repr).toList := hmem
      rw [String.toList_append] at hmem'
      rcases List.mem_append.mp hmem' with h | h
      · exact absurd h (by decide)
      · exact hdigits _ h

/-! ### Keys -/

namespace RedisBackend

variable (backend : RedisBackend) (rule rule' : RateLimitRule K) (subjectId subjectId' : String)

theorem toList_baseKey :
    (backend.buildBaseKey rule subjectId).toList =
      segment backend.serviceName ++ ':' :: ("rate".toList ++ ':' :: (segment rule.resource ++
        ':' :: (segment rule.dimension ++ ':' :: segment subjectId))) := by
  show (normalizeSegment backend.serviceName ++ ":" ++ "rate" ++ ":" ++
    normalizeSegment rule.resource ++ ":" ++ normalizeSegment rule.dimension ++ ":" ++
    normalizeSegment subjectId).toList = _
  simp [segment]

/-- A sliding key splits into its five segments. -/
theorem pySplit_baseKey :
    pySplit ':' (backend.buildBaseKey rule subjectId).toList =
      [segment backend.serviceName, "rate".toList, segment rule.resource, segment rule.dimension,
        segment subjectId] := by
  rw [toList_baseKey, pySplit_append, pySplit_append, pySplit_append, pySplit_append,
    pySplit_of_not_mem (not_mem_segment _), pySplit_of_not_mem (by decide),
    pySplit_of_not_mem (not_mem_segment _), pySplit_of_not_mem (not_mem_segment _),
    pySplit_of_not_mem (not_mem_segment _)]
  rfl

/-- A fixed key has the bucket as a sixth. -/
theorem pySplit_bucketKey (b : ℤ) :
    pySplit ':' (backend.bucketKey rule subjectId b).toList =
      pySplit ':' (backend.buildBaseKey rule subjectId).toList ++ [b.repr.toList] := by
  have hkey : (backend.bucketKey rule subjectId b).toList =
      (backend.buildBaseKey rule subjectId).toList ++ ':' :: b.repr.toList := by
    unfold bucketKey
    simp
  rw [hkey, pySplit_append, pySplit_of_not_mem (not_mem_repr b)]

variable {backend rule rule' subjectId subjectId'}

theorem segment_inj {value value' : String} :
    segment value = segment value' ↔ normalizeSegment value = normalizeSegment value' :=
  String.toList_inj

/-- Two sliding keys of a service. -/
theorem baseKey_eq_iff :
    backend.buildBaseKey rule subjectId = backend.buildBaseKey rule' subjectId' ↔
      normalizeSegment rule.resource = normalizeSegment rule'.resource ∧
      normalizeSegment rule.dimension = normalizeSegment rule'.dimension ∧
      normalizeSegment subjectId = normalizeSegment subjectId' := by
  constructor
  · intro h
    have hsplit := congrArg (fun key => pySplit ':' key.toList) h
    simp only [pySplit_baseKey, List.cons.injEq, true_and, and_true, segment_inj] at hsplit
    exact hsplit
  · rintro ⟨hresource, hdimension, hsubject⟩
    unfold buildBaseKey
    rw [hresource, hdimension, hsubject]

/-- Two fixed keys of a service. -/
theorem bucketKey_eq_iff {b b' : ℤ} :
    backend.bucketKey rule subjectId b = backend.bucketKey rule' subjectId' b' ↔
      (normalizeSegment rule.resource = normalizeSegment rule'.resource ∧
        normalizeSegment rule.dimension = normalizeSegment rule'.dimension ∧
        normalizeSegment subjectId = normalizeSegment subjectId') ∧ b = b' := by
  constructor
  · intro h
    have hsplit := congrArg (fun key => pySplit ':' key.toList) h
    simp only [pySplit_bucketKey, pySplit_baseKey, List.cons_append, List.nil_append,
      List.cons.injEq, true_and, and_true, segment_inj, String.toList_inj] at hsplit
    obtain ⟨hresource, hdimension, hsubject, hb⟩ := hsplit
    exact ⟨⟨hresource, hdimension, hsubject⟩, Int.repr_injective hb⟩
  · rintro ⟨hsegments, rfl⟩
    unfold bucketKey
    rw [baseKey_eq_iff.mpr hsegments]

/-- A row of five is no row of six. -/
theorem baseKey_ne_bucketKey (b : ℤ) :
    backend.buildBaseKey rule subjectId ≠ backend.bucketKey rule' subjectId' b := by
  intro h
  have hlen := congrArg (fun key => (pySplit ':' key.toList).length) h
  simp [pySplit_bucketKey, pySplit_baseKey] at hlen

end RedisBackend

/-! ### Addresses -/

/-- What the texts of IPv4 and IPv6 addresses are like. -/
structure AddressText (s : String) : Prop where
  ne : s ≠ ""
  blank : ∀ c ∈ s.toList, pyIsSpace c = false
  slash : '/' ∉ s.toList
  underscore : '_' ∉ s.toList

theorem segmentChar_inj {c c' : Char} (hc : c ≠ ' ' ∧ c ≠ '/' ∧ c ≠ '_')
    (hc' : c' ≠ ' ' ∧ c' ≠ '/' ∧ c' ≠ '_') (h : segmentChar c = segmentChar c') : c = c' := by
  unfold segmentChar at h
  grind

theorem map_segmentChar_inj {l l' : List Char} (hl : ∀ c ∈ l, c ≠ ' ' ∧ c ≠ '/' ∧ c ≠ '_')
    (hl' : ∀ c ∈ l', c ≠ ' ' ∧ c ≠ '/' ∧ c ≠ '_')
    (h : l.map segmentChar = l'.map segmentChar) : l = l' := by
  induction l generalizing l' with
  | nil => exact (List.map_eq_nil_iff.mp h.symm).symm
  | cons c l ih =>
      rcases l' with - | ⟨c', l'⟩
      · cases h
      · obtain ⟨hc, hrest⟩ := List.cons.inj h
        rw [segmentChar_inj (hl c (by simp)) (hl' c' (by simp)) hc,
          ih (fun d hd => hl d (by simp [hd])) (fun d hd => hl' d (by simp [hd])) hrest]

/-- Different addresses have different segments. -/
theorem AddressText.segment_injective {s s' : String} (hs : AddressText s) (hs' : AddressText s')
    (h : normalizeSegment s = normalizeSegment s') : s = s' := by
  have hchar : ∀ {s : String}, AddressText s → ∀ c ∈ s.toList, c ≠ ' ' ∧ c ≠ '/' ∧ c ≠ '_' := by
    intro s hs c hc
    refine ⟨?_, ?_, ?_⟩
    · rintro rfl
      exact absurd (hs.blank _ hc) (by decide)
    · rintro rfl
      exact hs.slash hc
    · rintro rfl
      exact hs.underscore hc
  have hsegment := RedisBackend.segment_inj.mpr h
  rw [segment_eq, segment_eq, pyStrip_of_forall hs.blank, pyStrip_of_forall hs'.blank,
    if_neg hs.ne, if_neg hs'.ne] at hsegment
  apply String.toList_inj.mp
  exact map_segmentChar_inj (hchar hs) (hchar hs') hsegment

/-! ### The result -/

/-- **Rate-limit keys.**  For one service, two sliding keys are equal exactly where their
segments are, two fixed keys exactly where their buckets are as well, no sliding key is a
fixed key, and under one rule no two addresses share a key. -/
theorem rateKeys_separate (backend : RedisBackend) :
    (∀ (rule rule' : RateLimitRule K) (subjectId subjectId' : String),
      backend.buildBaseKey rule subjectId = backend.buildBaseKey rule' subjectId' ↔
        normalizeSegment rule.resource = normalizeSegment rule'.resource ∧
        normalizeSegment rule.dimension = normalizeSegment rule'.dimension ∧
        normalizeSegment subjectId = normalizeSegment subjectId') ∧
    (∀ (rule rule' : RateLimitRule K) (subjectId subjectId' : String) (b b' : ℤ),
      backend.bucketKey rule subjectId b = backend.bucketKey rule' subjectId' b' ↔
        (normalizeSegment rule.resource = normalizeSegment rule'.resource ∧
          normalizeSegment rule.dimension = normalizeSegment rule'.dimension ∧
          normalizeSegment subjectId = normalizeSegment subjectId') ∧ b = b') ∧
    (∀ (rule rule' : RateLimitRule K) (subjectId subjectId' : String) (b : ℤ),
      backend.buildBaseKey rule subjectId ≠ backend.bucketKey rule' subjectId' b) ∧
    ∀ (rule : RateLimitRule K) (subjectId subjectId' : String), AddressText subjectId →
      AddressText subjectId' → subjectId ≠ subjectId' →
        backend.buildBaseKey rule subjectId ≠ backend.buildBaseKey rule subjectId' ∧
        ∀ b b', backend.bucketKey rule subjectId b ≠ backend.bucketKey rule subjectId' b' := by
  refine ⟨fun _ _ _ _ => RedisBackend.baseKey_eq_iff, fun _ _ _ _ _ _ =>
    RedisBackend.bucketKey_eq_iff, fun _ _ _ _ b => RedisBackend.baseKey_ne_bucketKey b, ?_⟩
  intro rule subjectId subjectId' hs hs' hne
  constructor
  · intro hkey
    exact hne (hs.segment_injective hs' (RedisBackend.baseKey_eq_iff.mp hkey).2.2)
  · intro b b' hkey
    exact hne (hs.segment_injective hs' (RedisBackend.bucketKey_eq_iff.mp hkey).1.2.2)

theorem order_ne : "order" ≠ "" := by decide

theorem clientIp_ne : "client_ip" ≠ "" := by decide

/-- Thirty orders a second for each address. -/
def orderRule : RateLimitRule ℚ where
  resource := "order"
  algorithm := .sliding
  limit := 30
  window := 1
  dimension := "client_ip"
  limit_nonneg := by decide
  window_pos := by norm_num
  resource_ne := order_ne
  dimension_ne := clientIp_ne

/-- Two neighbours, one of them by IPv6. -/
theorem rateKeys_separate_neighbours :
    (RedisBackend.mk "chaos-demo").buildBaseKey orderRule "2001:db8::1" ≠
      (RedisBackend.mk "chaos-demo").buildBaseKey orderRule "10.0.0.9" := by
  have hblank : ∀ s : String, s.toList.all (fun c => !pyIsSpace c) = true →
      ∀ c ∈ s.toList, pyIsSpace c = false := by
    intro s hs c hc
    simpa using List.all_eq_true.mp hs c hc
  have hv6 : AddressText "2001:db8::1" :=
    ⟨by decide, hblank _ (by decide), by decide, by decide⟩
  have hv4 : AddressText "10.0.0.9" :=
    ⟨by decide, hblank _ (by decide), by decide, by decide⟩
  exact ((rateKeys_separate ⟨"chaos-demo"⟩).2.2.2 orderRule _ _ hv6 hv4 (by decide)).1

end ChaosDemo
