/-
ChaosDemo/Traffic.lean

The recording of traffic (chaos_service/traffic.py): the event that is made of a request
that succeeded, and the text that is written of it.

Body, query and headers are masked: what stands under a key for a phone or a name, and in
texts the mobile numbers and Chinese names.  A mobile number is found between two word
boundaries, and a letter, `_` or a Chinese character is a word character as a digit is.

What the word characters and the decimal digits are to a regular expression, and the text of
a float, are parameters.  A full queue drops the event; this is left out.
-/
import ChaosDemo.IdempotencyStore
import ChaosDemo.Report
import ChaosDemo.Substitution

namespace ChaosDemo

/-- The classes of characters that `\w` and `\d` match. -/
structure CharClasses where
  word : Char → Bool
  decimal : Char → Bool
  decimal_of_digit : ∀ c, c.isDigit = true → decimal c = true
  word_of_decimal : ∀ c, decimal c = true → word c = true

/-! ### Masks -/

/-- `\b1[3-9]\d{9}\b`. -/
def mobilePattern (chars : CharClasses) : Matcher :=
  .inOrder [.boundary chars.word, .many (· = '1') 1 (some 1),
    .many (fun c => '3' ≤ c && c ≤ '9') 1 (some 1), .many chars.decimal 9 (some 9),
    .boundary chars.word]

/-- `[\u4e00-\u9fff]`. -/
def isChinese (c : Char) : Bool := '\u4e00' ≤ c && c ≤ '\u9fff'

/-- `([\u4e00-\u9fff]{1})[\u4e00-\u9fff]{1,3}`. -/
def namePattern : Matcher := .inOrder [.many isChinese 1 (some 1), .many isChinese 1 (some 3)]

/-- What is written for a mobile number. -/
def mobileMark : List Char := "1**********".toList

/-- `re.sub(r"\b1[3-9]\d{9}\b", "1**********", v)`. -/
def maskMobiles (chars : CharClasses) (cs : List Char) : List Char :=
  substitute (mobilePattern chars).hit mobileMark cs

/-- `re.sub(r"([\u4e00-\u9fff]{1})[\u4e00-\u9fff]{1,3}", r"\1**", v)`. -/
def maskNames (cs : List Char) : List Char :=
  substituteBy namePattern.hit (fun c => c.after.take 1 ++ ['*', '*']) cs

/-- A text, masked. -/
def maskText (chars : CharClasses) (s : String) : String :=
  String.ofList (maskNames (maskMobiles chars s.toList))

/-- `s.lower()`, on letters of ASCII. -/
def pyLower (s : String) : String := String.ofList (s.toList.map Char.toLower)

/-- What is written for every value under a key. -/
def keyMask (key : String) : Option String :=
  let key := (pyLower key).toList
  if textIn "phone".toList key || textIn "mobile".toList key then some "***-****-****"
  else if textIn "name".toList key then some "***"
  else none

/-- The mask of a key, where it has one, and else the value. -/
def maskUnder (key : String) (v : PyJson) : PyJson :=
  match keyMask key with
  | some mask => .str mask
  | none => v

mutual

/-- `mask_value`. -/
def maskValue (chars : CharClasses) (key : String) : PyJson → PyJson
  | .str s => maskUnder key (.str (maskText chars s))
  | .obj fields => maskUnder key (.obj (maskFields chars fields))
  | .arr items => maskUnder key (.arr (maskItems chars items))
  | v => maskUnder key v

def maskFields (chars : CharClasses) : List (String × PyJson) → List (String × PyJson)
  | [] => []
  | (k, v) :: fields => (k, maskValue chars k v) :: maskFields chars fields

def maskItems (chars : CharClasses) : List PyJson → List PyJson
  | [] => []
  | v :: items => maskValue chars "" v :: maskItems chars items

end

/-! ### Events -/

/-- A request as it is recorded.  A body that is not JSON is null. -/
structure TrafficRequest where
  method : String
  path : String
  query : String
  headers : List (String × String)
  /-- No header is there twice. -/
  headers_nodup : (headers.map Prod.fst).Nodup
  body : PyJson

/-- `allow`. -/
def allowedHeaders : List String :=
  ["content-type", "x-idempotency-key", "x-request-id", "user-agent", "x-forwarded-for"]

/-- `sanitize_headers`. -/
def sanitizeHeaders (chars : CharClasses) (headers : List (String × String)) :
    List (String × PyJson) :=
  (headers.filter fun h => pyLower h.1 ∈ allowedHeaders).map fun h =>
    (h.1, maskValue chars h.1 (.str h.2))

/-- The event of a request. -/
def trafficEvent (chars : CharClasses) (request : TrafficRequest) (now status : ℤ) : PyJson :=
  .obj [("ts", .int now), ("method", .str request.method), ("path", .str request.path),
    ("query", maskValue chars "query" (.str request.query)),
    ("headers", .obj (sanitizeHeaders chars request.headers)),
    ("body", maskValue chars "body" request.body), ("status", .int status)]

/-- The paths that are not recorded. -/
def isProbePath (path : String) : Bool :=
  path ∈ ["/healthz", "/live", "/ready", "/metrics"] || "/static/".toList.isPrefixOf path.toList

/-- `record_success_traffic`: the event that is put into the queue. -/
def recordSuccessTraffic (chars : CharClasses) (enabled : Bool) (request : TrafficRequest)
    (now status : ℤ) : Option PyJson :=
  if enabled = false then none
  else if isProbePath request.path then none
  else if 400 ≤ status then none
  else some (trafficEvent chars request now status)

/-! ### The text of an event -/

/-- The text of a float. -/
def floatChars (floatText : ℚ → String) : PyFloat → List Char
  | .fin q => (floatText q).toList
  | .inf negative => if negative then "-Infinity".toList else "Infinity".toList
  | .nan => "NaN".toList

mutual

/-- `json.dumps(item, ensure_ascii=False)`. -/
def dumps (floatText : ℚ → String) : PyJson → List Char
  | .null => "null".toList
  | .bool b => if b then "true".toList else "false".toList
  | .int i => (toString i).toList
  | .float x => floatChars floatText x
  | .str s => (jsonString s).toList
  | .arr items => '[' :: (dumpsItems floatText items ++ [']'])
  | .obj fields => '\x7b' :: (dumpsFields floatText fields ++ ['\x7d'])

def dumpsItems (floatText : ℚ → String) : List PyJson → List Char
  | [] => []
  | [v] => dumps floatText v
  | v :: w :: items => dumps floatText v ++ ',' :: ' ' :: dumpsItems floatText (w :: items)

def dumpsFields (floatText : ℚ → String) : List (String × PyJson) → List Char
  | [] => []
  | [(k, v)] => (jsonString k).toList ++ ':' :: ' ' :: dumps floatText v
  | (k, v) :: f :: fields =>
      (jsonString k).toList ++ ':' :: ' ' :: (dumps floatText v ++
        ',' :: ' ' :: dumpsFields floatText (f :: fields))

end

end ChaosDemo
