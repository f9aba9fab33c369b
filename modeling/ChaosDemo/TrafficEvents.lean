/-
ChaosDemo/TrafficEvents.lean

Which requests leave a mobile number in the record.  A value has one when a text in it
shows a number (`shows_maskText`), when one of its integers or floats is one, or when a
key of a dictionary has one, unless a key further up masks all of it (`Leaks`).  Method,
path, time and status are written as they are.

The text of an event is cut where its separators are; none of them is a digit, so every
number stands in one of the parts (`hasMobile_append_cons`).  A record has no mobile number
exactly when no part of the request keeps one (`recordsNoMobile_iff`).
-/
import ChaosDemo.TrafficLeaks

namespace ChaosDemo

section Values

variable (chars : CharClasses) (floatText : ℚ → String)

mutual

/-- A mobile number is left of a value that is recorded under a key. -/
def Leaks (key : String) : PyJson → Prop
  | .str s => keyMask key = none ∧ Exposed chars s
  | .int i => keyMask key = none ∧ HasMobile (toString i).toList
  | .float x => keyMask key = none ∧ HasMobile (floatChars floatText x)
  | .obj fields => keyMask key = none ∧ LeaksFields fields
  | .arr items => keyMask key = none ∧ LeaksItems items
  | .null => False
  | .bool _ => False

/-- Keys are not masked. -/
def LeaksFields : List (String × PyJson) → Prop
  | [] => False
  | (k, v) :: fields => (Shows k ∨ Leaks k v) ∨ LeaksFields fields

def LeaksItems : List PyJson → Prop
  | [] => False
  | v :: items => Leaks "" v ∨ LeaksItems items

end

end Values

/-! ### Texts without digits -/

/-- A mobile number begins with a one. -/
theorem HasMobile.one_mem {text : List Char} (h : HasMobile text) : '1' ∈ text := by
  obtain ⟨front, run, back, hrun, second, rest, rfl, -⟩ := h
  rw [hrun.split]
  simp

theorem Shows.one_mem {s : String} (h : Shows s) : '1' ∈ s.toList := by
  obtain ⟨front, run, back, hrun, ⟨second, rest, rfl, -⟩, -⟩ := h
  rw [hrun.split]
  simp

theorem not_shows_mask {key mask : String} (h : keyMask key = some mask) : ¬ Shows mask := by
  intro hshows
  have hone := hshows.one_mem
  rw [keyMask] at h
  split at h
  · rw [← Option.some.inj h] at hone
    exact absurd hone (by decide)
  · split at h
    · rw [← Option.some.inj h] at hone
      exact absurd hone (by decide)
    · cases h

/-- A header that is recorded keeps its value, and its name has no digit. -/
theorem keyMask_allowed {key : String} (h : pyLower key ∈ allowedHeaders) :
    keyMask key = none := by
  rw [keyMask]
  simp only [allowedHeaders, List.mem_cons, List.not_mem_nil, or_false] at h
  rcases h with h | h | h | h | h <;> rw [h] <;> decide

theorem not_shows_allowed {key : String} (h : pyLower key ∈ allowedHeaders) : ¬ Shows key := by
  intro hshows
  have hone : '1' ∈ (pyLower key).toList := by
    rw [pyLower, String.toList_ofList]
    exact List.mem_map.mpr ⟨'1', hshows.one_mem, rfl⟩
  have hnames : ∀ name ∈ allowedHeaders, '1' ∉ name.toList := by decide
  exact hnames _ h hone

/-! ### The text of a value -/

variable {chars : CharClasses} {floatText : ℚ → String}

/-- The items of a list stand in its text. -/
theorem hasMobile_dumpsItems : ∀ items : List PyJson,
    HasMobile (dumpsItems floatText items) ↔ ∃ v ∈ items, HasMobile (dumps floatText v)
  | [] => by
      simp only [List.not_mem_nil, false_and, exists_false, iff_false]
      exact not_hasMobile_nil
  | [v] => by simp [dumpsItems]
  | v :: w :: items => by
      rw [dumpsItems, hasMobile_append_cons (by decide), hasMobile_cons (by decide),
        hasMobile_dumpsItems (w :: items), List.exists_mem_cons_iff _ v]

/-- So do the keys and the values of a dictionary. -/
theorem hasMobile_dumpsFields : ∀ fields : List (String × PyJson),
    HasMobile (dumpsFields floatText fields) ↔
      ∃ f ∈ fields, Shows f.1 ∨ HasMobile (dumps floatText f.2)
  | [] => by
      simp only [List.not_mem_nil, false_and, exists_false, iff_false]
      exact not_hasMobile_nil
  | [(k, v)] => by
      rw [dumpsFields, hasMobile_append_cons (by decide), hasMobile_cons (by decide),
        hasMobile_jsonString]
      simp
  | (k, v) :: f :: fields => by
      rw [dumpsFields, hasMobile_append_cons (by decide), hasMobile_cons (by decide),
        hasMobile_append_cons (by decide), hasMobile_cons (by decide), hasMobile_jsonString,
        hasMobile_dumpsFields (f :: fields), List.exists_mem_cons_iff _ (k, v), or_assoc]

/-- The brackets around a text are no digits. -/
theorem hasMobile_brackets {a b : Char} {text : List Char} (ha : a.isDigit = false)
    (hb : b.isDigit = false) : HasMobile (a :: (text ++ [b])) ↔ HasMobile text := by
  rw [hasMobile_cons ha, hasMobile_append_cons hb, or_iff_left not_hasMobile_nil]

/-- A key that is masked hides its value. -/
theorem hasMobile_maskUnder {key : String} {v : PyJson} :
    HasMobile (dumps floatText (maskUnder key v)) ↔
      keyMask key = none ∧ HasMobile (dumps floatText v) := by
  rw [maskUnder]
  cases hmask : keyMask key with
  | none =>
      rw [eq_self, true_and]
  | some mask =>
      show HasMobile (jsonString mask).toList ↔ _
      rw [hasMobile_jsonString]
      exact iff_of_false (not_shows_mask hmask) (fun h => nomatch h.1)

mutual

/-- **What is left of a value.** -/
theorem hasMobile_maskValue : ∀ (key : String) (v : PyJson),
    HasMobile (dumps floatText (maskValue chars key v)) ↔ Leaks chars floatText key v
  | key, .str s => by
      rw [maskValue, hasMobile_maskUnder, Leaks]
      show _ ∧ HasMobile (jsonString (maskText chars s)).toList ↔ _
      rw [hasMobile_jsonString, shows_maskText]
  | key, .int i => by
      rw [maskValue, hasMobile_maskUnder, Leaks, dumps]
      all_goals nofun
  | key, .float x => by
      rw [maskValue, hasMobile_maskUnder, Leaks, dumps]
      all_goals nofun
  | key, .obj fields => by
      rw [maskValue, hasMobile_maskUnder, Leaks, dumps, hasMobile_brackets (by decide) (by decide),
        hasMobile_dumpsFields, hasMobile_maskFields fields]
  | key, .arr items => by
      rw [maskValue, hasMobile_maskUnder, Leaks, dumps, hasMobile_brackets (by decide) (by decide),
        hasMobile_dumpsItems, hasMobile_maskItems items]
  | key, .null => by
      rw [maskValue, hasMobile_maskUnder, Leaks, iff_false]
      · rintro ⟨-, h⟩
        have hone : '1' ∈ "null".toList := h.one_mem
        exact absurd hone (by decide)
      all_goals nofun
  | key, .bool b => by
      rw [maskValue, hasMobile_maskUnder, Leaks, iff_false]
      · rintro ⟨-, h⟩
        have hone : '1' ∈ if b then "true".toList else "false".toList := h.one_mem
        cases b <;> exact absurd hone (by decide)
      all_goals nofun

theorem hasMobile_maskFields : ∀ fields : List (String × PyJson),
    (∃ f ∈ maskFields chars fields, Shows f.1 ∨ HasMobile (dumps floatText f.2)) ↔
      LeaksFields chars floatText fields
  | [] => by simp [maskFields, LeaksFields]
  | (k, v) :: fields => by
      rw [maskFields, LeaksFields, List.exists_mem_cons_iff, hasMobile_maskValue k v,
        hasMobile_maskFields fields]

theorem hasMobile_maskItems : ∀ items : List PyJson,
    (∃ v ∈ maskItems chars items, HasMobile (dumps floatText v)) ↔
      LeaksItems chars floatText items
  | [] => by simp [maskItems, LeaksItems]
  | v :: items => by
      rw [maskItems, LeaksItems, List.exists_mem_cons_iff, hasMobile_maskValue "" v,
        hasMobile_maskItems items]

end

/-! ### The text of an event -/

/-- What is left of the headers. -/
theorem hasMobile_sanitizeHeaders {headers : List (String × String)} :
    (∃ f ∈ sanitizeHeaders chars headers, Shows f.1 ∨ HasMobile (dumps floatText f.2)) ↔
      ∃ h ∈ headers, pyLower h.1 ∈ allowedHeaders ∧ Exposed chars h.2 := by
  have hvalue : ∀ h : String × String, pyLower h.1 ∈ allowedHeaders →
      (Shows h.1 ∨ HasMobile (dumps floatText (maskValue chars h.1 (.str h.2))) ↔
        Exposed chars h.2) := by
    intro h hallowed
    rw [hasMobile_maskValue, Leaks, keyMask_allowed hallowed, eq_self, true_and,
      or_iff_right (not_shows_allowed hallowed)]
  constructor
  · rintro ⟨f, hf, hleak⟩
    obtain ⟨h, hh, rfl⟩ := List.mem_map.mp hf
    dsimp only at hleak
    obtain ⟨hmem, hallowed⟩ := List.mem_filter.mp hh
    have hallowed : pyLower h.1 ∈ allowedHeaders := of_decide_eq_true hallowed
    exact ⟨h, hmem, hallowed, (hvalue h hallowed).mp hleak⟩
  · rintro ⟨h, hmem, hallowed, hleak⟩
    have hkept : h ∈ headers.filter fun h => pyLower h.1 ∈ allowedHeaders :=
      List.mem_filter.mpr ⟨hmem, decide_eq_true hallowed⟩
    refine ⟨_, List.mem_map.mpr ⟨h, hkept, rfl⟩, ?_⟩
    dsimp only
    exact (hvalue h hallowed).mpr hleak

/-- A part of a request that keeps a mobile number. -/
inductive RequestLeaks (chars : CharClasses) (floatText : ℚ → String) (request : TrafficRequest)
    (now status : ℤ) : Prop
  | ts (h : HasMobile (toString now).toList)
  | method (h : Shows request.method)
  | path (h : Shows request.path)
  | query (h : Exposed chars request.query)
  | header (name value : String) (h : (name, value) ∈ request.headers)
      (hallowed : pyLower name ∈ allowedHeaders) (hleak : Exposed chars value)
  | body (h : Leaks chars floatText "body" request.body)
  | status (h : HasMobile (toString status).toList)

/-- **The numbers of an event.** -/
theorem hasMobile_trafficEvent {request : TrafficRequest} {now status : ℤ} :
    HasMobile (dumps floatText (trafficEvent chars request now status)) ↔
      RequestLeaks chars floatText request now status := by
  have hkey : ∀ key ∈ ["ts", "method", "path", "query", "headers", "body", "status"],
      ¬ Shows key := by
    intro key hkey hshows
    have hnone : ∀ key ∈ ["ts", "method", "path", "query", "headers", "body", "status"],
        '1' ∉ key.toList := by decide
    exact hnone key hkey hshows.one_mem
  simp only [List.forall_mem_cons] at hkey
  obtain ⟨hts, hmethod, hpath, hquery, hheaders, hbody, hstatus, -⟩ := hkey
  have hplain : keyMask "query" = none := by decide
  have hheader : HasMobile (dumps floatText (.obj (sanitizeHeaders chars request.headers))) ↔
      ∃ h ∈ request.headers, pyLower h.1 ∈ allowedHeaders ∧ Exposed chars h.2 := by
    rw [dumps, hasMobile_brackets (by decide) (by decide), hasMobile_dumpsFields,
      hasMobile_sanitizeHeaders]
  rw [trafficEvent, dumps, hasMobile_brackets (by decide) (by decide), hasMobile_dumpsFields]
  simp only [List.exists_mem_cons_iff, List.not_mem_nil, false_and, exists_false, or_false, hts, hmethod,
    hpath, hquery, hheaders, hbody, hstatus, false_or, hheader, hasMobile_maskValue, Leaks, hplain,
    true_and]
  simp only [dumps, hasMobile_jsonString]
  constructor
  · rintro (h | h | h | h | ⟨h, hmem, hallowed, hleak⟩ | h | h)
    · exact .ts h
    · exact .method h
    · exact .path h
    · exact .query h
    · exact .header h.1 h.2 hmem hallowed hleak
    · exact .body h
    · exact .status h
  · rintro (h | h | h | h | ⟨name, value, hmem, hallowed, hleak⟩ | h | h)
    · exact .inl h
    · exact .inr (.inl h)
    · exact .inr (.inr (.inl h))
    · exact .inr (.inr (.inr (.inl h)))
    · exact .inr (.inr (.inr (.inr (.inl ⟨(name, value), hmem, hallowed, hleak⟩))))
    · exact .inr (.inr (.inr (.inr (.inr (.inl h)))))
    · exact .inr (.inr (.inr (.inr (.inr (.inr h)))))

/-- What is put into the queue of a request has no mobile number. -/
def RecordsNoMobile (chars : CharClasses) (floatText : ℚ → String) (enabled : Bool)
    (request : TrafficRequest) (now status : ℤ) : Prop :=
  ∀ event, recordSuccessTraffic chars enabled request now status = some event →
    ¬ HasMobile (dumps floatText event)

/-- **A record has no mobile number** exactly when the request is not recorded, or nothing of
it keeps one. -/
theorem recordsNoMobile_iff (chars : CharClasses) (floatText : ℚ → String) (enabled : Bool)
    (request : TrafficRequest) (now status : ℤ) :
    RecordsNoMobile chars floatText enabled request now status ↔
      enabled = false ∨ isProbePath request.path = true ∨ 400 ≤ status ∨
        ¬ RequestLeaks chars floatText request now status := by
  rw [RecordsNoMobile, recordSuccessTraffic]
  split
  · next h => exact iff_of_true nofun (.inl h)
  split
  · next h => exact iff_of_true nofun (.inr (.inl h))
  split
  · next h => exact iff_of_true nofun (.inr (.inr (.inl h)))
  · next henabled hprobe hstatus =>
      rw [or_iff_right henabled, or_iff_right hprobe, or_iff_right hstatus,
        ← hasMobile_trafficEvent]
      constructor
      · intro h
        exact h _ rfl
      · rintro h event hevent
        rw [← Option.some.inj hevent]
        exact h

/-- Letters, digits, `_` and Chinese characters. -/
def sampleClasses : CharClasses where
  word := fun c => c.isAlphanum || c == '_' || isChinese c
  decimal := Char.isDigit
  decimal_of_digit := fun _ h => h
  word_of_decimal := fun c h => by simp [Char.isAlphanum, h]

/-- A request with a note in its body. -/
def noteRequest : TrafficRequest where
  method := "POST"
  path := "/api/order"
  query := ""
  headers := []
  headers_nodup := List.nodup_nil
  body := .obj [("note", .str "手机13800138000")]

/-- The number is behind a Chinese character, where there is no word boundary. -/
theorem not_recordsNoMobile_note :
    ¬ RecordsNoMobile sampleClasses (fun _ => "0.0") true noteRequest 1700000000 200 := by
  have hnumber : Mobile ['1', '3', '8', '0', '0', '1', '3', '8', '0', '0', '0'] :=
    ⟨'3', ['8', '0', '0', '1', '3', '8', '0', '0', '0'], rfl, rfl, rfl, List.all_eq_true.mp rfl⟩
  have hbefore : ∀ c ∈ ['手', '机'].getLast?, c.isDigit = false ∧ hides c = false := by
    intro c hc
    rw [← Option.some.inj hc]
    exact ⟨rfl, rfl⟩
  have htext : "手机13800138000".toList = ['手', '机'] ++
      ['1', '3', '8', '0', '0', '1', '3', '8', '0', '0', '0'] ++ [] := by
    decide
  have hexposed : Exposed sampleClasses "手机13800138000" :=
    ⟨_, _, _, ⟨htext, hnumber.all_digits, fun c hc => (hbefore c hc).1, nofun⟩,
      ⟨hnumber, fun c hc => (hbefore c hc).2⟩, .inl ⟨'机', rfl, rfl⟩⟩
  have hleaks : Leaks sampleClasses (fun _ => "0.0") "body" noteRequest.body := by
    have hbody : keyMask "body" = none := by decide
    have hnote : keyMask "note" = none := by decide
    rw [noteRequest, Leaks, LeaksFields, Leaks]
    exact ⟨hbody, .inl (.inr ⟨hnote, hexposed⟩)⟩
  have hrecorded : recordSuccessTraffic sampleClasses true noteRequest 1700000000 200 =
      some (trafficEvent sampleClasses noteRequest 1700000000 200) := by
    have hprobe : isProbePath noteRequest.path = false := by decide
    rw [recordSuccessTraffic, hprobe]
    simp
  intro h
  exact h _ hrecorded (hasMobile_trafficEvent.mpr (.body hleaks))

end ChaosDemo
