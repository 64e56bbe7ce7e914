import Mathlib.Data.List.Dedup
import Mathlib.Data.List.Perm.Subperm
import SpanMetrics.Proofs.Footprint

/-!
# SpanMetrics.Proofs.Recording — recording several attributes

A span takes an attribute only while there is room for it. If there is room for all keys of a list
together with those that the span has, then every attribute of the list is taken, whatever the order.

* `Attributes.Recorded` — the attributes are such as a span takes.
* `Attributes.get?_recordAll_of_notMem` — the keys outside a list stay as they are.
* `Attributes.get?_recordAll_of_mem` — an attribute of a list is read back.
-/

namespace SpanMetrics.Attributes

variable {attributes : Attributes} {entries : List (String × Value)} {key : String} {value : Value}

/-- An attribute that a span takes if it has room. -/
def Takes (e : String × Value) : Prop :=
  e.1 ≠ "" ∧ e.2.recordable = true

/-- Every attribute is one that a span takes. -/
def Recorded (attributes : Attributes) : Prop :=
  ∀ key value, attributes.get? key = some value → Takes (key, value)

theorem recorded_empty : empty.Recorded := by
  intro key value h
  cases h

theorem Recorded.record (h : attributes.Recorded) (k : String) (v : Value) :
    (attributes.record k v).Recorded := by
  intro key value hvalue
  unfold Attributes.record at hvalue
  split at hvalue
  · next htaken =>
    rw [get?_insert] at hvalue
    split at hvalue
    · next hkey =>
      subst hkey
      exact ⟨htaken.1, Option.some.inj hvalue ▸ htaken.2.1⟩
    · exact h key value hvalue
  · exact h key value hvalue

theorem Recorded.recordAll (h : attributes.Recorded) (entries : List (String × Value)) :
    (attributes.recordAll entries).Recorded := by
  induction entries generalizing attributes with
  | nil => exact h
  | cons e entries ih => exact ih (h.record e.1 e.2)

theorem recordAll_cons (attributes : Attributes) (e : String × Value)
    (entries : List (String × Value)) :
    attributes.recordAll (e :: entries) = (attributes.record e.1 e.2).recordAll entries :=
  rfl

theorem recordAll_append (attributes : Attributes) (entries entries' : List (String × Value)) :
    attributes.recordAll (entries ++ entries') =
      (attributes.recordAll entries).recordAll entries' :=
  List.foldl_append

/-- The keys outside a list stay as they are. -/
theorem get?_recordAll_of_notMem (h : key ∉ entries.map (·.1)) :
    (attributes.recordAll entries).get? key = attributes.get? key := by
  induction entries generalizing attributes with
  | nil => rfl
  | cons e entries ih =>
    rw [List.map_cons, List.mem_cons, not_or] at h
    exact (ih h.2).trans (attributes.get?_record_of_ne e.2 h.1)

/-- A value that is there stays there when it is recorded again. -/
theorem get?_record_of_get? (h : attributes.get? key = some value) {k : String} {v : Value}
    (hsame : k = key → v = value) : (attributes.record k v).get? key = some value := by
  by_cases hk : key = k
  · subst hk
    -- taken again or not, the value is the same
    unfold record
    split
    · rw [get?_insert, if_pos rfl, hsame rfl]
    · exact h
  · exact (attributes.get?_record_of_ne v hk).trans h

/-- A value that is there stays there, if the list has no other one for its key. -/
theorem get?_recordAll_of_get? (h : attributes.get? key = some value)
    (hunique : ∀ value', (key, value') ∈ entries → value' = value) :
    (attributes.recordAll entries).get? key = some value := by
  induction entries generalizing attributes with
  | nil => exact h
  | cons e entries ih =>
    rw [recordAll_cons]
    apply ih
    · apply get?_record_of_get? h
      rintro rfl
      exact hunique e.2 List.mem_cons_self
    · intro value' hmem
      exact hunique value' (List.mem_cons_of_mem e hmem)

/-! ## Room for a list -/

/-- The keys of the attributes and those of the list are no more than a span may carry. -/
def HasRoomFor (attributes : Attributes) (entries : List (String × Value)) : Prop :=
  (attributes.entries.map (·.1) ++ entries.map (·.1)).dedup.length ≤ limit

instance : Decidable (attributes.HasRoomFor entries) :=
  inferInstanceAs (Decidable (_ ≤ _))

/-- While the list is recorded, there is room for each of its keys. -/
theorem HasRoomFor.hasRoom {before after : List (String × Value)} {e : String × Value}
    (h : attributes.HasRoomFor (before ++ e :: after)) :
    (attributes.recordAll before).hasRoom e.1 = true := by
  rw [hasRoom_iff]
  by_cases hhas : (attributes.recordAll before).has e.1 = true
  · exact .inl hhas
  · right
    -- the key and the keys so far are different keys, all of them counted in the room
    have hnodup : (e.1 :: (attributes.recordAll before).entries.map (·.1)).Nodup := by
      refine List.nodup_cons.2 ⟨?_, (attributes.recordAll before).nodup⟩
      rw [mem_keys_iff]
      exact hhas
    have hsub : e.1 :: (attributes.recordAll before).entries.map (·.1) ⊆
        (attributes.entries.map (·.1) ++ (before ++ e :: after).map (·.1)).dedup := by
      intro k hk
      rw [List.mem_dedup, List.map_append, List.map_cons, List.mem_append, List.mem_append]
      rcases List.mem_cons.1 hk with rfl | hk
      · exact .inr (.inr List.mem_cons_self)
      · by_cases hmem : k ∈ before.map (·.1)
        · exact .inr (.inl hmem)
        · left
          rw [mem_keys_iff] at hk ⊢
          exact (congrArg Option.isSome (get?_recordAll_of_notMem hmem)).symm.trans hk
    have hle := (List.subperm_of_subset hnodup hsub).length_le
    have hlimit : _ ≤ limit := h
    rw [List.length_cons, List.length_map] at hle
    unfold size
    omega

/-- An attribute of a list is read back, if there is room for the list and it has no other value for the
key. -/
theorem get?_recordAll_of_mem (hroom : attributes.HasRoomFor entries)
    (hmem : (key, value) ∈ entries) (htakes : Takes (key, value))
    (hunique : ∀ value', (key, value') ∈ entries → value' = value) :
    (attributes.recordAll entries).get? key = some value := by
  obtain ⟨before, after, rfl⟩ := List.append_of_mem hmem
  have htaken : ((attributes.recordAll before).record key value).get? key = some value :=
    get?_record_self _ htakes.1 htakes.2 hroom.hasRoom
  rw [recordAll_append, recordAll_cons]
  refine get?_recordAll_of_get? htaken ?_
  intro value' hafter
  exact hunique value' (List.mem_append_right before (List.mem_cons_of_mem _ hafter))

end SpanMetrics.Attributes
