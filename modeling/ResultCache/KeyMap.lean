/-!
Contract: finite maps from fingerprint keys.

Owns:
- `Key`, the signed 64-bit fingerprint of a fetch;
- `KeyMap`, an association list without repeated keys, with look-up, insertion
  in place, removal and filtering, and the equations of each through look-up and
  through the number of entries.

Does not own: how keys are derived.
-/

namespace ResultCache

abbrev Key := Int64

/-- A finite map from keys. -/
structure KeyMap (Value : Type) where
  entries : List (Key × Value)
  distinct : (entries.map Prod.fst).Nodup := by simp

namespace KeyMap

variable {Value : Type}

def findIn (key : Key) : List (Key × Value) → Option Value
  | [] => none
  | (present, value) :: rest => if present = key then some value else findIn key rest

/-- The pairs with the value at `key` set: in place, or at the end. -/
def setIn (key : Key) (value : Value) : List (Key × Value) → List (Key × Value)
  | [] => [(key, value)]
  | (present, old) :: rest =>
    if present = key then (key, value) :: rest else (present, old) :: setIn key value rest

private theorem mem_setIn_keys (key : Key) (value : Value) :
    ∀ (pairs : List (Key × Value)) (other : Key),
      other ∈ (setIn key value pairs).map Prod.fst ↔ other = key ∨ other ∈ pairs.map Prod.fst
  | [], other => by simp [setIn]
  | (present, old) :: rest, other => by
    by_cases same : present = key
    · simp [setIn, same]
    · have tail := mem_setIn_keys key value rest other
      simp only [setIn, if_neg same, List.map_cons, List.mem_cons, tail]
      constructor
      · rintro (first | first | first) <;> simp [first]
      · rintro (first | first | first) <;> simp [first]

private theorem nodup_setIn_keys (key : Key) (value : Value) :
    ∀ pairs : List (Key × Value), (pairs.map Prod.fst).Nodup →
      ((setIn key value pairs).map Prod.fst).Nodup
  | [], _ => by simp [setIn]
  | (present, old) :: rest, distinct => by
    by_cases same : present = key
    · subst same
      simpa [setIn] using distinct
    · simp only [List.map_cons, List.nodup_cons] at distinct
      simp only [setIn, if_neg same, List.map_cons, List.nodup_cons, mem_setIn_keys]
      refine ⟨?_, nodup_setIn_keys key value rest distinct.2⟩
      rintro (first | first)
      · exact same first
      · exact distinct.1 first

def empty : KeyMap Value := ⟨[], by simp⟩

def get? (map : KeyMap Value) (key : Key) : Option Value := findIn key map.entries

def contains (map : KeyMap Value) (key : Key) : Bool := (map.get? key).isSome

def insert (map : KeyMap Value) (key : Key) (value : Value) : KeyMap Value :=
  ⟨setIn key value map.entries, nodup_setIn_keys key value map.entries map.distinct⟩

def filter (map : KeyMap Value) (keep : Key → Value → Bool) : KeyMap Value :=
  ⟨map.entries.filter fun pair => keep pair.1 pair.2,
    (List.filter_sublist.map Prod.fst).nodup map.distinct⟩

def erase (map : KeyMap Value) (key : Key) : KeyMap Value :=
  map.filter fun present _ => present ≠ key

def size (map : KeyMap Value) : Nat := map.entries.length

@[simp] theorem get?_empty (key : Key) : (empty : KeyMap Value).get? key = none := rfl

@[simp] theorem size_empty : (empty : KeyMap Value).size = 0 := rfl

private theorem findIn_setIn (key : Key) (value : Value) (other : Key) :
    ∀ pairs : List (Key × Value),
      findIn other (setIn key value pairs) = if key = other then some value else findIn other pairs
  | [] => by simp [setIn, findIn]
  | (present, old) :: rest => by
    have tail := findIn_setIn key value other rest
    by_cases same : present = key
    · subst same
      by_cases hit : present = other <;> simp [setIn, findIn, hit]
    · by_cases hit : present = other
      · subst hit
        simp [setIn, findIn, same, Ne.symm same]
      · simp [setIn, findIn, same, hit, tail]

/-- A look-up after an insertion finds the new value at its key and is unchanged
elsewhere. -/
theorem get?_insert (map : KeyMap Value) (key other : Key) (value : Value) :
    (map.insert key value).get? other = if key = other then some value else map.get? other :=
  findIn_setIn key value other map.entries

@[simp] theorem get?_insert_self (map : KeyMap Value) (key : Key) (value : Value) :
    (map.insert key value).get? key = some value := by simp [get?_insert]

private theorem findIn_none (key : Key) :
    ∀ pairs : List (Key × Value), key ∉ pairs.map Prod.fst → findIn key pairs = none
  | [], _ => rfl
  | (present, old) :: rest, absent => by
    simp only [List.map_cons, List.mem_cons, not_or] at absent
    simp [findIn, Ne.symm absent.1, findIn_none key rest absent.2]

private theorem findIn_filter (keep : Key → Value → Bool) (key : Key) :
    ∀ pairs : List (Key × Value), (pairs.map Prod.fst).Nodup →
      findIn key (pairs.filter fun pair => keep pair.1 pair.2) =
        (findIn key pairs).filter fun value => keep key value
  | [], _ => rfl
  | (present, old) :: rest, distinct => by
    simp only [List.map_cons, List.nodup_cons] at distinct
    have tail := findIn_filter keep key rest distinct.2
    by_cases hit : present = key
    · subst hit
      by_cases kept : keep present old
      · simp [findIn, kept, Option.filter]
      · have absent : findIn present rest = none := findIn_none present rest distinct.1
        simp [findIn, kept, tail, absent, Option.filter]
    · by_cases kept : keep present old <;> simp [findIn, hit, kept, tail]

/-- A look-up in a filtered map finds what is kept. -/
theorem get?_filter (map : KeyMap Value) (keep : Key → Value → Bool) (key : Key) :
    (map.filter keep).get? key = (map.get? key).filter fun value => keep key value :=
  findIn_filter keep key map.entries map.distinct

/-- A look-up after a removal finds nothing at the key and is unchanged elsewhere. -/
theorem get?_erase (map : KeyMap Value) (key other : Key) :
    (map.erase key).get? other = if other = key then none else map.get? other := by
  rw [erase, get?_filter]
  by_cases same : other = key
  · cases map.get? other <;> simp [same]
  · cases map.get? other <;> simp [same]

/-! ### Sizes -/

private theorem findIn_isSome (key : Key) :
    ∀ pairs : List (Key × Value), (findIn key pairs).isSome = true ↔ key ∈ pairs.map Prod.fst
  | [] => by simp [findIn]
  | (present, old) :: rest => by
    have tail := findIn_isSome key rest
    by_cases same : present = key
    · simp [findIn, same]
    · simp only [findIn, if_neg same, List.map_cons, List.mem_cons, tail]
      simp [Ne.symm same]

theorem contains_iff (map : KeyMap Value) (key : Key) :
    map.contains key = true ↔ key ∈ map.entries.map Prod.fst :=
  findIn_isSome key map.entries

private theorem length_setIn (key : Key) (value : Value) :
    ∀ pairs : List (Key × Value),
      (setIn key value pairs).length =
        pairs.length + if key ∈ pairs.map Prod.fst then 0 else 1
  | [] => rfl
  | (present, old) :: rest => by
    have tail := length_setIn key value rest
    by_cases same : present = key
    · simp [setIn, same]
    · simp only [setIn, if_neg same, List.length_cons, tail, List.map_cons, List.mem_cons]
      simp only [Ne.symm same, false_or]
      omega

/-- An insertion makes room for a key that was not there. -/
theorem size_insert (map : KeyMap Value) (key : Key) (value : Value) :
    (map.insert key value).size = map.size + if map.contains key then 0 else 1 := by
  simp only [contains_iff]
  exact length_setIn key value map.entries

private theorem length_filter_ne (key : Key) :
    ∀ pairs : List (Key × Value), (pairs.map Prod.fst).Nodup →
      (pairs.filter fun pair => pair.1 ≠ key).length +
        (if key ∈ pairs.map Prod.fst then 1 else 0) = pairs.length
  | [], _ => rfl
  | (present, old) :: rest, distinct => by
    simp only [List.map_cons, List.nodup_cons] at distinct
    have tail := length_filter_ne key rest distinct.2
    by_cases same : present = key
    · subst same
      simp only [if_neg distinct.1, Nat.add_zero] at tail
      simpa using tail
    · by_cases member : key ∈ rest.map Prod.fst
      · simp only [if_pos member] at tail
        simpa [same, member] using tail
      · simp only [if_neg member] at tail
        simpa [same, Ne.symm same, member] using tail

/-- A removal takes away a key that was there. -/
theorem size_erase (map : KeyMap Value) (key : Key) :
    (map.erase key).size + (if map.contains key then 1 else 0) = map.size := by
  simp only [contains_iff]
  exact length_filter_ne key map.entries map.distinct

theorem size_filter_le (map : KeyMap Value) (keep : Key → Value → Bool) :
    (map.filter keep).size ≤ map.size :=
  List.length_filter_le _ _

end KeyMap

end ResultCache
