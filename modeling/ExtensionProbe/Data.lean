import ExtensionProbe.Calendar
import ExtensionProbe.Number.Binary64
import ExtensionProbe.Text

/-!
# Values of data files

What a data file, a command line or a caller hands over before it is checked: one type for every value
that a JSON or YAML document can hold, and for the failures that a log is told of.

* `lookup_put`, `lookup_put_of_ne`: a value that is put under a text is found under it, and what is under
  another one stays.
-/

namespace ExtensionProbe

/-- A value before it is checked. -/
inductive Data where
  | null
  | bool (b : Bool)
  | int (n : Int)
  | float (x : Binary64)
  | text (s : Text)
  | bytes (b : List UInt8)
  | date (d : Date)
  | timestamp (t : Timestamp)
  | path (s : Text)
  | list (items : List Data)
  | tuple (items : List Data)
  | set (items : List Data)
  | map (entries : List (Data × Data))
  /-- A kind of failures, by its name. -/
  | failureKind (name : String)
  /-- A failure of a kind, with the values that it was raised with. -/
  | failure (kind : String) (arguments : List Data)
deriving Repr, Inhabited

namespace Data

/-- The number that a key counts as, if it counts as a whole one: booleans and whole doubles do. -/
def wholeKey? : Data → Option Int
  | bool b => some (if b then 1 else 0)
  | int n => some n
  | float x => x.toInt?
  | _ => none

mutual

/-- Whether two values are the same key of a mapping. -/
def sameKey : Data → Data → Bool
  | null, null => true
  | text s, text t => s == t
  | bytes s, bytes t => s == t
  | date d, date e => d == e
  | timestamp t, timestamp u => t.sameInstant u
  | path s, path t => s == t
  | float x, float y => x.sameNumber y
  | tuple xs, tuple ys => sameKeys xs ys
  | x, y =>
    match wholeKey? x, wholeKey? y with
    | some m, some n => m == n
    | _, _ => false

/-- Whether two rows of values are the same key. -/
def sameKeys : List Data → List Data → Bool
  | [], [] => true
  | x :: xs, y :: ys => sameKey x y && sameKeys xs ys
  | _, _ => false

end

/-- Puts a value under a key. A key that is there keeps its place and its first form. -/
def put (entries : List (Data × Data)) (key value : Data) : List (Data × Data) :=
  match entries with
  | [] => [(key, value)]
  | (k, v) :: rest => if sameKey k key then (k, value) :: rest else (k, v) :: put rest key value

/-- Adds a value to a row without repetitions. -/
def addMember (items : List Data) (item : Data) : List Data :=
  if items.any (sameKey · item) then items else items ++ [item]

/-- The value under a text in a mapping. -/
def lookup (entries : List (Data × Data)) (name : Text) : Option Data :=
  match entries with
  | [] => none
  | (k, v) :: rest => if sameKey k (text name) then some v else lookup rest name

theorem sameKey_text (s t : Text) : sameKey (text s) (text t) = (s == t) := by
  simp [sameKey]

theorem lookup_put (entries : List (Data × Data)) (name : Text) (value : Data) :
    lookup (put entries (text name) value) name = some value := by
  induction entries with
  | nil => simp [put, lookup, sameKey_text]
  | cons e rest ih => by_cases h : sameKey e.1 (text name) <;> simp [put, lookup, h, ih]

theorem sameKey_text_iff {k : Data} {t : Text} : sameKey k (text t) = true ↔ k = text t := by
  cases k <;> simp [sameKey, wholeKey?]

theorem lookup_put_of_ne {entries : List (Data × Data)} {a b : Text} {value : Data} (h : a ≠ b) :
    lookup (put entries (text a) value) b = lookup entries b := by
  have hother : sameKey (text a) (text b) = false := by
    rw [sameKey_text, beq_eq_false_iff_ne]
    exact h
  induction entries with
  | nil => simp [put, lookup, hother]
  | cons e more ih =>
    obtain ⟨k, old⟩ := e
    by_cases hk : sameKey k (text a) = true
    · cases sameKey_text_iff.1 hk
      simp [put, lookup, hk, hother]
    · simp [put, lookup, hk, ih]

/-- Only the key that something is put under may be new. -/
theorem of_mem_put {entries : List (Data × Data)} {key value : Data} {e : Data × Data}
    (h : e ∈ put entries key value) : (∃ f ∈ entries, e.1 = f.1) ∨ e.1 = key := by
  induction entries with
  | nil => exact .inr (congrArg Prod.fst (List.mem_singleton.1 h))
  | cons f rest ih =>
    rw [put] at h
    split at h
    · rcases List.mem_cons.1 h with rfl | h
      · exact .inl ⟨f, List.mem_cons_self, rfl⟩
      · exact .inl ⟨e, List.mem_cons_of_mem _ h, rfl⟩
    · rcases List.mem_cons.1 h with rfl | h
      · exact .inl ⟨_, List.mem_cons_self, rfl⟩
      · exact (ih h).imp_left fun ⟨g, hg, hkey⟩ => ⟨g, List.mem_cons_of_mem _ hg, hkey⟩

/-- To put what is there already changes nothing. -/
theorem put_of_lookup {entries : List (Data × Data)} {name : Text} {value : Data}
    (h : lookup entries name = some value) : put entries (text name) value = entries := by
  induction entries with
  | nil => cases h
  | cons e rest ih =>
    rw [lookup] at h
    by_cases hkey : sameKey e.1 (text name) = true
    · rw [if_pos hkey] at h
      cases h
      simp only [put, hkey, if_true]
    · rw [if_neg hkey] at h
      simp only [put, hkey, if_false, ih h, Bool.false_eq_true]

/-- Which keys there are does not depend on what is put under a key. -/
theorem map_fst_put (entries : List (Data × Data)) (key value other : Data) :
    (put entries key value).map Prod.fst = (put entries key other).map Prod.fst := by
  induction entries with
  | nil => rfl
  | cons e rest ih =>
    by_cases h : sameKey e.1 key = true
    · simp only [put, h, if_true, List.map_cons]
    · simp only [put, h, if_false, List.map_cons, ih, Bool.false_eq_true]

/-- Whether a value is a set. -/
def isSet : Data → Bool
  | set _ => true
  | _ => false

/-- Whether a value counts as none given: null, false, zero, or one without members. -/
def isNothing : Data → Bool
  | null => true
  | bool b => !b
  | int n => n == 0
  | float x => x.isInt 0
  | text s => s.isEmpty
  | bytes b => b.isEmpty
  | list items => items.isEmpty
  | tuple items => items.isEmpty
  | set items => items.isEmpty
  | map entries => entries.isEmpty
  | _ => false

/-- The name of a value's kind in messages. -/
def kindName : Data → String
  | null => "NoneType"
  | bool _ => "bool"
  | int _ => "int"
  | float _ => "float"
  | text _ => "str"
  | bytes _ => "bytes"
  | date _ => "date"
  | timestamp _ => "datetime"
  | path _ => "PosixPath"
  | list _ => "list"
  | tuple _ => "tuple"
  | set _ => "set"
  | map _ => "dict"
  | failureKind _ => "type"
  | failure kind _ => kind

/-- An optional text as a value. -/
def ofOption (s : Option Text) : Data :=
  match s with
  | none => null
  | some s => text s

/-- A record as a mapping from names. -/
def record (fields : List (String × Data)) : Data :=
  map (fields.map fun f => (text f.1, f.2))

/-- Values under texts as a mapping. -/
def mapping (entries : List (Text × Data)) : Data :=
  map (entries.map fun e => (text e.1, e.2))

theorem record_eq_mapping (fields : List (String × Data)) :
    record fields = mapping (fields.map fun f => (Text.ofString f.1, f.2)) := by
  rw [record, mapping, List.map_map]
  rfl

end Data

end ExtensionProbe
