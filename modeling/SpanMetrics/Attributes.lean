import SpanMetrics.Value

/-!
# SpanMetrics.Attributes — attribute sets

An attribute set maps keys to values and keeps the order in which the keys were first written.
`get?` is the view through which every other operation is described.

* `get?_insert` — what is written is read back, and nothing else changes.
* `size_insert` — only a new key makes the set larger.
-/

namespace SpanMetrics

/-- Attributes in the order of their first writing, each key once. -/
structure Attributes where
  /-- The attributes in order. -/
  entries : List (String × Value)
  /-- No key occurs twice. -/
  nodup : (entries.map (·.1)).Nodup

namespace Attributes

/-- Replaces the value of a key where it stands, or adds the key at the end. -/
def put (key : String) (value : Value) : List (String × Value) → List (String × Value)
  | [] => [(key, value)]
  | e :: es => if e.1 = key then (key, value) :: es else e :: put key value es

theorem keys_put (key : String) (value : Value) (es : List (String × Value)) :
    (put key value es).map (·.1) =
      if key ∈ es.map (·.1) then es.map (·.1) else es.map (·.1) ++ [key] := by
  induction es with
  | nil => simp [put]
  | cons e es ih =>
    by_cases h : e.1 = key
    · simp [put, h]
    · have h' : ¬ key = e.1 := fun hk => h hk.symm
      simp only [put, h, if_false, List.map_cons, ih, List.mem_cons, h', false_or]
      split <;> simp

theorem nodup_put (key : String) (value : Value) {es : List (String × Value)}
    (h : (es.map (·.1)).Nodup) : ((put key value es).map (·.1)).Nodup := by
  rw [keys_put]
  split
  · exact h
  · next hk =>
    refine List.nodup_append.2 ⟨h, by simp, ?_⟩
    intro a ha b hb hab
    simp only [List.mem_singleton] at hb
    exact hk (hb ▸ hab ▸ ha)

/-- The set without attributes. -/
def empty : Attributes := ⟨[], List.nodup_nil⟩

instance : Inhabited Attributes := ⟨empty⟩

/-- The set with one attribute written. -/
def insert (attributes : Attributes) (key : String) (value : Value) : Attributes :=
  ⟨put key value attributes.entries, nodup_put key value attributes.nodup⟩

/-- The set that results from writing the attributes in order. -/
def ofList (entries : List (String × Value)) : Attributes :=
  entries.foldl (fun attributes e => attributes.insert e.1 e.2) empty

/-- The value under a key. -/
def get? (attributes : Attributes) (key : String) : Option Value :=
  attributes.entries.lookup key

/-- The key is present, whatever its value. -/
def has (attributes : Attributes) (key : String) : Bool :=
  (attributes.get? key).isSome

/-- The number of keys. -/
def size (attributes : Attributes) : Nat :=
  attributes.entries.length

/-- The text under a key that holds a string. -/
def string? (attributes : Attributes) (key : String) : Option String :=
  (attributes.get? key).bind Value.string?

/-- The string form of the value under a key. -/
def text? (attributes : Attributes) (key : String) : Option String :=
  (attributes.get? key).bind Value.text?

/-- The key holds the given string. -/
def holds (attributes : Attributes) (key : String) (s : String) : Bool :=
  attributes.string? key == some s

/-- The value under the first key that is present. -/
def first? (attributes : Attributes) (keys : List String) : Option Value :=
  keys.findSome? attributes.get?

/-- The string form of the value under the first key that is present; a later key does not stand in
for a value without a string form. -/
def firstText? (attributes : Attributes) (keys : List String) : Option String :=
  (attributes.first? keys).bind Value.text?

/-! ## What the operations do to the view -/

theorem lookup_pair (a : String) (b : Value) (es : List (String × Value)) (k : String) :
    ((a, b) :: es).lookup k = if k = a then some b else es.lookup k := by
  by_cases h : k = a
  · simp [h]
  · have hk : (k == a) = false := by simpa using h
    simp [List.lookup_cons, h, hk]

theorem lookup_put (key : String) (value : Value) (es : List (String × Value)) (k : String) :
    (put key value es).lookup k = if k = key then some value else es.lookup k := by
  induction es with
  | nil => simp [put, lookup_pair]
  | cons e es ih =>
    obtain ⟨a, b⟩ := e
    by_cases ha : a = key
    · subst ha
      by_cases h : k = a <;> simp [put, lookup_pair, h]
    · by_cases h : k = a
      · subst h
        simp [put, ha]
      · simp [put, ha, lookup_pair, h, ih]

@[simp] theorem get?_empty (k : String) : empty.get? k = none := rfl

@[simp] theorem get?_insert (attributes : Attributes) (key : String) (value : Value) (k : String) :
    (attributes.insert key value).get? k = if k = key then some value else attributes.get? k :=
  lookup_put key value attributes.entries k

@[simp] theorem size_empty : empty.size = 0 := rfl

theorem mem_keys_iff (es : List (String × Value)) (k : String) :
    k ∈ es.map (·.1) ↔ (es.lookup k).isSome = true := by
  induction es with
  | nil => simp
  | cons e es ih =>
    obtain ⟨a, b⟩ := e
    rw [List.map_cons, List.mem_cons, ih, lookup_pair]
    by_cases h : k = a <;> simp [h]

/-- Writing a key that is present keeps the size; a new key adds one. -/
theorem size_insert (attributes : Attributes) (key : String) (value : Value) :
    (attributes.insert key value).size =
      if attributes.has key then attributes.size else attributes.size + 1 := by
  have h := congrArg List.length (keys_put key value attributes.entries)
  have hm := mem_keys_iff attributes.entries key
  by_cases hk : attributes.has key = true
  · rw [if_pos (hm.2 hk)] at h
    simp only [List.length_map] at h
    simp only [size, insert, h, hk, if_true]
  · rw [if_neg (fun hc => hk (hm.1 hc))] at h
    simp only [List.length_append, List.length_map, List.length_singleton] at h
    simp [size, insert, h, hk]

end Attributes

end SpanMetrics
