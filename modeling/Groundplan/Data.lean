import Groundplan.Calendar

/-!
# Plain data

The values that pass between this library and the world outside: parsed JSON, the replies of a
cloud, the fields of a record. Maps keep their entries in order of first insertion.

## Main definitions

* `Data`: a plain value
* `Entries`: the entries of a map, `Entries.set`, `Entries.get?`
* `Data.isTruthy`: whether a value counts as present
* `Data.depth`: how deep lists and maps stand inside one another
* `Data.textAt`, `Data.intAt`, …: reading records
* `Data.same`: equality, numbers being compared by value

## Main results

* `Entries.get?_set_self`, `Entries.get?_set_of_ne`: writing changes the entry of its key only
* `Entries.get?_erase_self`, `Entries.get?_erase_of_ne`: so does dropping an entry
-/

namespace Groundplan

/-- A plain value. -/
inductive Data where
  | null
  | bool (b : Bool)
  | int (i : Int)
  | float (x : Binary64)
  | text (s : String)
  | list (items : List Data)
  | map (entries : List (String × Data))
  | moment (m : Moment)
deriving BEq, Repr, Inhabited

/-- The entries of a map in order of first insertion. -/
abbrev Entries (α : Type) := List (String × α)

namespace Entries

variable {α : Type}

/-- The value under a key. -/
def get? (key : String) (es : Entries α) : Option α :=
  es.lookup key

/-- Whether a key has a value. -/
def has (key : String) (es : Entries α) : Bool :=
  (es.get? key).isSome

/-- Puts a value under a key: in place of the old value, or at the end. -/
def set (key : String) (v : α) : Entries α → Entries α
  | [] => [(key, v)]
  | (k, w) :: es => if key == k then (k, v) :: es else (k, w) :: set key v es

/-- The entries without a key. -/
def erase (key : String) (es : Entries α) : Entries α :=
  es.filter fun e => !(e.1 == key)

/-- Writes all entries of a second map into a first. -/
def merge (es fs : Entries α) : Entries α :=
  fs.foldl (fun acc e => acc.set e.1 e.2) es

@[simp] theorem get?_nil (key : String) : get? key ([] : Entries α) = none := rfl

@[simp] theorem get?_set_self (key : String) (v : α) (es : Entries α) :
    (es.set key v).get? key = some v := by
  induction es with
  | nil => simp [set, get?]
  | cons e es ih =>
    obtain ⟨k, w⟩ := e
    by_cases h : key = k
    · subst h; simp [set, get?]
    · simp only [set, get?, beq_iff_eq, h, ↓reduceIte] at ih ⊢
      rw [List.lookup_cons, show (key == k) = false from by simpa using h]
      exact ih

theorem get?_set_of_ne {key other : String} (h : other ≠ key) (v : α) (es : Entries α) :
    (es.set key v).get? other = es.get? other := by
  induction es with
  | nil =>
    have : (other == key) = false := by simpa using h
    simp [set, get?, List.lookup_cons, this]
  | cons e es ih =>
    obtain ⟨k, w⟩ := e
    by_cases hk : key = k
    · subst hk
      have : (other == key) = false := by simpa using h
      simp [set, get?, List.lookup_cons, this]
    · simp only [set, get?, beq_iff_eq, hk, ↓reduceIte] at ih ⊢
      rw [List.lookup_cons, List.lookup_cons, ih]

@[simp] theorem get?_erase_self (key : String) (es : Entries α) :
    (es.erase key).get? key = none := by
  induction es with
  | nil => rfl
  | cons e es ih =>
    obtain ⟨k, w⟩ := e
    by_cases h : k = key
    · simpa [erase, get?, h] using ih
    · have hk : (key == k) = false := by simpa using fun h' => h h'.symm
      simpa [erase, get?, h, List.lookup_cons, hk] using ih

theorem get?_erase_of_ne {key other : String} (h : other ≠ key) (es : Entries α) :
    (es.erase key).get? other = es.get? other := by
  induction es with
  | nil => rfl
  | cons e es ih =>
    obtain ⟨k, w⟩ := e
    by_cases hk : k = key
    · subst hk
      have ho : (other == k) = false := by simpa using h
      simpa [erase, get?, List.lookup_cons, ho] using ih
    · simp only [get?, erase] at ih ⊢
      rw [List.filter_cons_of_pos (by simpa using hk), List.lookup_cons, List.lookup_cons, ih]

end Entries

namespace Data

/-- Whether a value counts as present: not null, not false, not zero and not empty. -/
def isTruthy : Data → Bool
  | .null => false
  | .bool b => b
  | .int i => i != 0
  | .float x => !x.isZero
  | .text s => s != ""
  | .list xs => !xs.isEmpty
  | .map es => !es.isEmpty
  | .moment _ => true

mutual

/-- How deep lists and maps stand inside one another in a value. -/
def depth : Data → Nat
  | .list xs => itemsDepth 0 xs + 1
  | .map es => entriesDepth 0 es + 1
  | .null => 0
  | .bool _ => 0
  | .int _ => 0
  | .float _ => 0
  | .text _ => 0
  | .moment _ => 0

/-- The depth of the deepest of some items, or that of those before if it is greater. -/
def itemsDepth (found : Nat) : List Data → Nat
  | [] => found
  | x :: xs => itemsDepth (max found (depth x)) xs

/-- The depth of the deepest of some entries, or that of those before if it is greater. -/
def entriesDepth (found : Nat) : List (String × Data) → Nat
  | [] => found
  | (_, v) :: es => entriesDepth (max found (depth v)) es

end

/-- A number as an integer or a binary64; truth values count as zero and one. -/
inductive Numeric where
  | int (i : Int)
  | float (x : Binary64)
deriving DecidableEq, Repr, Inhabited

/-- A number as a value. -/
def Numeric.toData : Numeric → Data
  | .int i => .int i
  | .float x => .float x

/-- The number that a value is. -/
def numeric? : Data → Option Numeric
  | .bool b => some (.int b.toNat)
  | .int i => some (.int i)
  | .float x => some (.float x)
  | _ => none

/-- The order of two numbers, in exact arithmetic. -/
def Numeric.compare? : Numeric → Numeric → Option Ordering
  | .int i, .int j => some (compare i j)
  | .int i, .float y => Binary64.compareInt? i y
  | .float x, .int j => (Binary64.compareInt? j x).map Ordering.swap
  | .float x, .float y => Binary64.compare? x y

/-- The text of a value that is one. -/
def text? : Data → Option String
  | .text s => some s
  | _ => none

/-- An optional text as a value. -/
def ofText? : Option String → Data
  | some s => .text s
  | none => .null

/-- A list of texts as a value. -/
def ofTexts (xs : List String) : Data :=
  .list (xs.map .text)

/-- A natural as a value. -/
def ofNat (n : Nat) : Data :=
  .int n

/-- The entry of a map; nothing in other values. -/
def field? (key : String) : Data → Option Data
  | .map es => Entries.get? key es
  | _ => none

/-! ## Reading records -/

/-- The entry of a map, null if there is none. -/
def child (d : Data) (key : String) : Data :=
  (d.field? key).getD .null

/-- The text under a key. -/
def textAt? (d : Data) (key : String) : Option String :=
  (d.field? key).bind text?

/-- The text under a key, or a default. -/
def textAt (d : Data) (key : String) (default : String := "") : String :=
  (d.textAt? key).getD default

/-- The text under a key, or a default if the key is missing; nothing if it holds no text. -/
def textOr? (d : Data) (key default : String) : Option String :=
  match d.field? key with
  | none => some default
  | some v => v.text?

/-- The integer under a key, or a default. -/
def intAt (d : Data) (key : String) (default : Int := 0) : Int :=
  match d.field? key with
  | some (.int i) => i
  | _ => default

/-- The flag under a key, or a default. -/
def flagAt (d : Data) (key : String) (default : Bool := false) : Bool :=
  match d.field? key with
  | some (.bool b) => b
  | _ => default

/-- The items of the list under a key. -/
def itemsAt (d : Data) (key : String) : List Data :=
  match d.field? key with
  | some (.list xs) => xs
  | _ => []

/-- The texts in the list under a key. -/
def textsAt (d : Data) (key : String) : List String :=
  (d.itemsAt key).filterMap text?

/-- The entries of a map; none of another value. -/
def entries : Data → Entries Data
  | .map es => es
  | _ => []

mutual

/-- A value with every text in it replaced. -/
def mapTexts (f : String → String) : Data → Data
  | .text s => .text (f s)
  | .list xs => .list (mapItemTexts f xs)
  | .map es => .map (mapEntryTexts f es)
  | d => d

/-- The items of a list with every text in them replaced. -/
def mapItemTexts (f : String → String) : List Data → List Data
  | [] => []
  | x :: xs => mapTexts f x :: mapItemTexts f xs

/-- The entries of a map with every text in their values replaced. -/
def mapEntryTexts (f : String → String) : List (String × Data) → List (String × Data)
  | [] => []
  | (k, v) :: es => (k, mapTexts f v) :: mapEntryTexts f es

end

/-! ## Numbers -/

mutual

/-- Whether all numbers in a value are finite. -/
def isFinite : Data → Bool
  | .float (.infinite _) => false
  | .float .nan => false
  | .list xs => areFinite xs
  | .map es => areEntriesFinite es
  | _ => true

/-- Whether all numbers in the items of a list are finite. -/
def areFinite : List Data → Bool
  | [] => true
  | x :: xs => isFinite x && areFinite xs

/-- Whether all numbers in the entries of a map are finite. -/
def areEntriesFinite : List (String × Data) → Bool
  | [] => true
  | (_, v) :: es => isFinite v && areEntriesFinite es

end

/-! ## Equality -/

mutual

/-- Equality of values: numbers and truth values by their numeric value, maps by their entries in
any order. -/
def same : Data → Data → Bool
  | .null, .null => true
  | .text s, .text t => s == t
  | .list xs, .list ys => sameItems xs ys
  | .map es, .map fs => es.length == fs.length && sameEntries es fs
  | .moment m, .moment n =>
    (m.offset.isSome == n.offset.isSome) && m.micros == n.micros
  | x, y =>
    match x.numeric?, y.numeric? with
    | some a, some b => a.compare? b == some .eq
    | _, _ => false

/-- Equality of lists, item by item. -/
def sameItems : List Data → List Data → Bool
  | [], [] => true
  | x :: xs, y :: ys => same x y && sameItems xs ys
  | _, _ => false

/-- Whether every entry of the first map has an equal one in the second. -/
def sameEntries : List (String × Data) → List (String × Data) → Bool
  | [], _ => true
  | (k, v) :: es, fs =>
    match fs.lookup k with
    | some w => same v w && sameEntries es fs
    | none => false

end

end Data

end Groundplan
