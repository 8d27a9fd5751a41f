/-!
This module contains the values a document is made of, the `<-` operator that reads them into the
fields of an object, and dates with their formatter.
-/

abbrev Date :=
  -- An instant, counted in ticks of any fixed length below a second.
  Int

structure DateFormatter where
  -- The two directions of a `DateFormatter` with a given `dateFormat`, in a fixed time zone and
  -- locale.
  string : String → Date → String
  date : String → String → Option Date

namespace Date

def defaultFormat : String := "yyyy-MM-dd HH:mm:ss"

def convertToString (dateFormatter : DateFormatter) (date : Date)
    (dateFormat : String := defaultFormat) : String :=
  dateFormatter.string dateFormat date

def getDateFormatted (dateFormatter : DateFormatter) (date : Date)
    (dateFormat : String := defaultFormat) : Option Date :=
  dateFormatter.date dateFormat (convertToString dateFormatter date dateFormat)

end Date

structure NSError where
  domain : String
  code : Int
  deriving DecidableEq, Repr

inductive JSONValue where
  | null
  | string (s : String)
  | int (i : Int)
  | intArray (is : List Int)
  | date (d : Date)
  | timestamp (d : Date)
  deriving DecidableEq, Repr

namespace JSONValue

def string? : JSONValue → Option String
  | string s => some s
  | _ => none

def int? : JSONValue → Option Int
  | int i => some i
  | _ => none

def intArray? : JSONValue → Option (List Int)
  | intArray is => some is
  | _ => none

def timestamp? : JSONValue → Option Date
  | timestamp d => some d
  | _ => none

def stored : JSONValue → JSONValue
  -- What Firestore returns for a stored value: a `Date` comes back as the `Timestamp` of its
  -- instant.
  | date d => timestamp d
  | v => v

end JSONValue

abbrev JSON := List (String × JSONValue)

namespace JSON

def stored (json : JSON) : JSON :=
  json.map fun (key, value) => (key, value.stored)

def value (map : JSON) (key : String) (cast : JSONValue → Option α) : Option α :=
  (map.lookup key).bind cast

def assign (field : α) (map : JSON) (key : String) (cast : JSONValue → Option α) : α :=
  -- `field <- map[key]`. A missing key and a value of another type leave the field as it is.
  (map.value key cast).getD field

theorem lookup_stored (json : JSON) (key : String)
    : json.stored.lookup key = (json.lookup key).map JSONValue.stored := by
  induction json with
  | nil => rfl
  | cons entry json ih =>
    obtain ⟨k, v⟩ := entry
    by_cases h : key = k
    . subst h
      simp [stored]
    . have hbeq : (key == k) = false := by simpa using h
      rw [List.lookup_cons, hbeq]
      simp only [stored, List.map_cons, List.lookup_cons, hbeq]
      exact ih

end JSON
