/-!
# Finite maps as lists

A finite map is a list of pairs in which no key stands twice.  `put` replaces
the value of a key in its place or adds the pair at the end; `drop` removes
the pair of a key.
-/

namespace FieldRules

/-- A finite map whose keys are strings. -/
abbrev Assoc (α : Type) := List (String × α)

namespace Assoc

variable {α : Type}

/-- The value of a key. -/
def find? (m : Assoc α) (key : String) : Option α :=
  match m with
  | [] => none
  | (k, v) :: rest => if k = key then some v else find? rest key

/-- The map with a value for a key. -/
def put (m : Assoc α) (key : String) (value : α) : Assoc α :=
  match m with
  | [] => [(key, value)]
  | (k, v) :: rest => if k = key then (key, value) :: rest else (k, v) :: put rest key value

/-- The map without a key. -/
def drop (m : Assoc α) (key : String) : Assoc α :=
  match m with
  | [] => []
  | (k, v) :: rest => if k = key then drop rest key else (k, v) :: drop rest key

/-- Whether the key has a value. -/
def has (m : Assoc α) (key : String) : Bool :=
  (m.find? key).isSome

@[simp] theorem find?_nil (key : String) : find? ([] : Assoc α) key = none := rfl

theorem find?_cons (k : String) (v : α) (m : Assoc α) (key : String) :
    find? ((k, v) :: m) key = if k = key then some v else find? m key := rfl

@[simp] theorem find?_put_self (m : Assoc α) (key : String) (value : α) :
    (m.put key value).find? key = some value := by
  induction m with
  | nil => simp [put, find?_cons]
  | cons head rest ih =>
    obtain ⟨k, v⟩ := head
    by_cases h : k = key <;> simp [put, find?_cons, h, ih]

theorem find?_put_of_ne (m : Assoc α) {key other : String} (value : α) (h : key ≠ other) :
    (m.put key value).find? other = m.find? other := by
  induction m with
  | nil => simp [put, find?_cons, h]
  | cons head rest ih =>
    obtain ⟨k, v⟩ := head
    by_cases hk : k = key
    · subst hk; simp [put, find?_cons, h]
    · simp [put, find?_cons, hk, ih]

@[simp] theorem find?_drop_self (m : Assoc α) (key : String) :
    (m.drop key).find? key = none := by
  induction m with
  | nil => rfl
  | cons head rest ih =>
    obtain ⟨k, v⟩ := head
    by_cases h : k = key <;> simp [drop, find?_cons, h, ih]

theorem find?_drop_of_ne (m : Assoc α) {key other : String} (h : key ≠ other) :
    (m.drop key).find? other = m.find? other := by
  induction m with
  | nil => rfl
  | cons head rest ih =>
    obtain ⟨k, v⟩ := head
    by_cases hk : k = key
    · subst hk; simp [drop, find?_cons, h, ih]
    · simp [drop, find?_cons, hk, ih]

theorem find?_map {β : Type} (f : α → β) (m : Assoc α) (key : String) :
    Assoc.find? (m.map fun entry => (entry.1, f entry.2)) key = (m.find? key).map f := by
  induction m with
  | nil => rfl
  | cons head rest ih =>
    obtain ⟨k, v⟩ := head
    by_cases h : k = key <;> simp [find?_cons, h, ih]

theorem mem_keys_iff (m : Assoc α) (key : String) :
    key ∈ m.map (·.1) ↔ (m.find? key).isSome = true := by
  induction m with
  | nil => simp
  | cons head rest ih =>
    obtain ⟨k, v⟩ := head
    by_cases h : k = key
    · simp [find?_cons, h]
    · simp [find?_cons, h, Ne.symm h, ← ih]

/-- An entry of a map in which no key stands twice is what its key has. -/
theorem mem_iff_find? {m : Assoc α} (hnodup : (m.map (·.1)).Nodup) {key : String} {value : α} :
    (key, value) ∈ m ↔ m.find? key = some value := by
  induction m with
  | nil => simp
  | cons head rest ih =>
    obtain ⟨k, v⟩ := head
    obtain ⟨hhead, hrest⟩ := List.nodup_cons.1 hnodup
    rw [find?_cons, List.mem_cons, ih hrest]
    by_cases h : k = key
    · subst h
      have hnone : find? rest k = none := by
        rw [← Option.not_isSome_iff_eq_none, ← mem_keys_iff]
        exact hhead
      simp [hnone, eq_comm]
    · simp [h, Ne.symm h]

/-- The order of the entries of a map in which no key stands twice does not matter. -/
theorem find?_perm {m other : Assoc α} (hperm : other.Perm m) (hnodup : (m.map (·.1)).Nodup)
    (key : String) : other.find? key = m.find? key := by
  have hother : (other.map (·.1)).Nodup := ((hperm.map _).nodup_iff).2 hnodup
  refine Option.ext fun value => ?_
  rw [← mem_iff_find? hother, ← mem_iff_find? hnodup]
  exact hperm.mem_iff

theorem nodup_keys_put {m : Assoc α} (hnodup : (m.map (·.1)).Nodup) (key : String) (value : α) :
    ((m.put key value).map (·.1)).Nodup := by
  induction m with
  | nil => simp [put]
  | cons head rest ih =>
    obtain ⟨k, v⟩ := head
    obtain ⟨hhead, hrest⟩ := List.nodup_cons.1 hnodup
    rw [put]
    split
    · rename_i h
      exact List.nodup_cons.2 ⟨h ▸ hhead, hrest⟩
    · rename_i h
      refine List.nodup_cons.2 ⟨?_, ih hrest⟩
      rw [mem_keys_iff] at hhead ⊢
      rwa [find?_put_of_ne rest value (Ne.symm h)]

theorem nodup_keys_drop {m : Assoc α} (hnodup : (m.map (·.1)).Nodup) (key : String) :
    ((m.drop key).map (·.1)).Nodup := by
  induction m with
  | nil => exact hnodup
  | cons head rest ih =>
    obtain ⟨k, v⟩ := head
    obtain ⟨hhead, hrest⟩ := List.nodup_cons.1 hnodup
    rw [drop]
    split
    · exact ih hrest
    · rename_i h
      refine List.nodup_cons.2 ⟨?_, ih hrest⟩
      rw [mem_keys_iff] at hhead ⊢
      rwa [find?_drop_of_ne rest (Ne.symm h)]

end Assoc

end FieldRules
