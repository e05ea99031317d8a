/-!
# JSON values

A JSON value as read from a definition file. Objects keep their fields in the
order their keys first appeared; a key written twice keeps its first place and
takes the later value. Numbers keep the distinction that matters to readers of
counts: a whole number written with digits only and below 2^64 is a `count`; a
negative whole number down to -2^63 is `negative`; every other number is a
`decimal`, held as its sign, a 64-bit significand and a power of ten.
-/

namespace GrammarDoc

namespace Json

/-- A JSON number, classified as a reader of counts needs it. -/
inductive Number where
  /-- A whole number below 2^64 written with digits only. -/
  | count (n : UInt64)
  /-- The negative whole number `-magnitude`, for a magnitude from 1 to 2^63. -/
  | negative (magnitude : UInt64)
  /-- Any other number: about `significand * 10 ^ exponent`, negated if `negative`. -/
  | decimal (negative : Bool) (significand : UInt64) (exponent : Int)
  deriving Inhabited, Repr, DecidableEq

/-- A JSON value. -/
inductive Value where
  | null
  | bool (b : Bool)
  | number (n : Number)
  | string (s : String)
  | array (items : List Value)
  /-- Fields in the order their keys first appeared, keys distinct. -/
  | object (fields : List (String × Value))
  deriving Inhabited, Repr

/-- The fields with `key` set to `value`: in place if the key is there, else at the end. -/
def insertField : List (String × Value) → String → Value → List (String × Value)
  | [], key, value => [(key, value)]
  | (k, v) :: rest, key, value =>
    if k = key then (key, value) :: rest else (k, v) :: insertField rest key value

/-- A value found under a key is smaller than the fields it was found in. -/
theorem sizeOf_lookup_lt {fields : List (String × Value)} {key : String} {v : Value}
    (h : fields.lookup key = some v) : sizeOf v < sizeOf fields := by
  induction fields with
  | nil => simp at h
  | cons kv rest ih =>
    obtain ⟨k, w⟩ := kv
    by_cases hk : key = k
    · subst hk
      simp at h
      subst h
      simp
      omega
    · have : (key == k) = false := by simpa using hk
      simp [List.lookup_cons, this] at h
      have := ih h
      simp
      omega

end Json

end GrammarDoc
