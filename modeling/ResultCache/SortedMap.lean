/-!
Contract: finite maps kept in key order.

Owns:
- `SortedMap`, an association list in strictly increasing key order, which is
  the one representation of a finite map over an ordered key type;
- insertion, where the last value given for a key stays, and what is found after it;
- that a map is told by its entries, whatever their order;
- the law that rebuilding a map from its own entries gives the map back, and that a map of
  any pairs has no other entries than these.

Does not own: how a map is written or read by a format.
-/

namespace ResultCache

/-- Pairs in strictly increasing key order. -/
structure SortedMap (Index Value : Type) [Ord Index] where
  entries : List (Index × Value)
  sorted : entries.Pairwise fun first second => compare first.1 second.1 = .lt := by simp

namespace SortedMap

variable {Index Value : Type} [Ord Index]

/-- The sorted pairs with one more, in its place; a present key takes the new value. -/
def placeIn (index : Index) (value : Value) : List (Index × Value) → List (Index × Value)
  | [] => [(index, value)]
  | (present, old) :: rest =>
    match compare index present with
    | .lt => (index, value) :: (present, old) :: rest
    | .eq => (index, value) :: rest
    | .gt => (present, old) :: placeIn index value rest

/-- What is there after a pair takes its place: the pair, and others that were there before. -/
theorem mem_placeIn {index : Index} {value : Value} {pair : Index × Value} :
    ∀ {pairs : List (Index × Value)}, pair ∈ placeIn index value pairs →
      pair = (index, value) ∨ pair ∈ pairs
  | [], member => .inl (List.mem_singleton.1 member)
  | (present, old) :: rest, member => by
    unfold placeIn at member
    split at member
    · exact List.mem_cons.1 member
    · exact (List.mem_cons.1 member).imp_right (List.mem_cons_of_mem _)
    · rcases List.mem_cons.1 member with first | behind
      · exact .inr (List.mem_cons.2 (.inl first))
      · exact (mem_placeIn behind).imp_right (List.mem_cons_of_mem _)

private theorem sorted_placeIn [Std.TransOrd Index] [Std.LawfulEqOrd Index] (index : Index)
    (value : Value) :
    ∀ pairs : List (Index × Value),
      pairs.Pairwise (fun first second => compare first.1 second.1 = .lt) →
      (placeIn index value pairs).Pairwise fun first second => compare first.1 second.1 = .lt
  | [], _ => by simp [placeIn]
  | (present, old) :: rest, sorted => by
    have parts := List.pairwise_cons.1 sorted
    unfold placeIn
    split
    · next before =>
      refine List.pairwise_cons.2 ⟨?_, sorted⟩
      intro pair member
      rcases List.mem_cons.1 member with first | behind
      · subst first; exact before
      · exact Std.TransCmp.lt_trans before (parts.1 pair behind)
    · next same =>
      have equal : index = present := Std.LawfulEqCmp.compare_eq_iff_eq.1 same
      subst equal
      exact List.pairwise_cons.2 ⟨parts.1, parts.2⟩
    · next after =>
      refine List.pairwise_cons.2 ⟨?_, sorted_placeIn index value rest parts.2⟩
      intro pair member
      rcases mem_placeIn member with rfl | behind
      · exact Std.OrientedCmp.gt_iff_lt.1 after
      · exact parts.1 pair behind

variable [Std.TransOrd Index] [Std.LawfulEqOrd Index]

def empty : SortedMap Index Value := ⟨[], by simp⟩

def insert (map : SortedMap Index Value) (index : Index) (value : Value) :
    SortedMap Index Value :=
  ⟨placeIn index value map.entries, sorted_placeIn index value map.entries map.sorted⟩

/-- The map of a list of pairs, where the last value given for an index stays. -/
def ofPairs (pairs : List (Index × Value)) : SortedMap Index Value :=
  pairs.foldl (fun map pair => map.insert pair.1 pair.2) empty

omit [Std.TransOrd Index] in
private theorem find?_placeIn [DecidableEq Index] (index other : Index) (value : Value) :
    ∀ pairs : List (Index × Value),
      ((placeIn index value pairs).find? fun pair => pair.1 = other).map Prod.snd =
        if index = other then some value
        else (pairs.find? fun pair => pair.1 = other).map Prod.snd
  | [] => by by_cases same : index = other <;> simp [placeIn, same]
  | (present, old) :: rest => by
    have tail := find?_placeIn index other value rest
    unfold placeIn
    split
    · by_cases same : index = other <;> simp [same]
    · next equal =>
      have present_eq : index = present := Std.LawfulEqCmp.compare_eq_iff_eq.1 equal
      subst present_eq
      by_cases same : index = other <;> simp [same]
    · next after =>
      have differs : index ≠ present := by
        intro same
        have equal : compare index present = .eq := Std.LawfulEqCmp.compare_eq_iff_eq.2 same
        rw [equal] at after
        cases after
      by_cases hit : present = other
      · subst hit
        simp [differs]
      · simpa [hit] using tail

/-- A look-up after an insertion finds the new value at its index and is unchanged
elsewhere. -/
theorem find?_insert [DecidableEq Index] (map : SortedMap Index Value) (index other : Index)
    (value : Value) :
    ((map.insert index value).entries.find? fun pair => pair.1 = other).map Prod.snd =
      if index = other then some value
      else (map.entries.find? fun pair => pair.1 = other).map Prod.snd :=
  find?_placeIn index other value map.entries

omit [Std.LawfulEqOrd Index] in
/-- An entry is what a look-up finds at its index. -/
theorem mem_entries_iff [DecidableEq Index] (map : SortedMap Index Value) (index : Index)
    (value : Value) :
    (index, value) ∈ map.entries ↔
      (map.entries.find? fun pair => pair.1 = index).map Prod.snd = some value := by
  obtain ⟨entries, sorted⟩ := map
  constructor
  · intro member
    induction entries with
    | nil => cases member
    | cons entry rest inductionHypothesis =>
      have parts := List.pairwise_cons.1 sorted
      rcases List.mem_cons.1 member with first | behind
      · simp [← first]
      · have differs : entry.1 ≠ index := by
          intro same
          have before := parts.1 _ behind
          rw [same, (Std.ReflCmp.compare_self : compare index index = .eq)] at before
          cases before
        simpa [differs] using inductionHypothesis parts.2 behind
  · intro found
    obtain ⟨⟨present, _⟩, hit, rfl⟩ := Option.map_eq_some_iff.1 found
    obtain rfl : present = index := by simpa using List.find?_some hit
    exact List.mem_of_find?_eq_some hit

/-- The entries after an insertion: the new one, and those of other indices. -/
theorem mem_insert_iff [DecidableEq Index] (map : SortedMap Index Value) (index other : Index)
    (value found : Value) :
    (other, found) ∈ (map.insert index value).entries ↔
      if index = other then found = value else (other, found) ∈ map.entries := by
  rw [mem_entries_iff, find?_insert, mem_entries_iff]
  split
  · rw [Option.some.injEq, eq_comm]
  · rfl

omit [Std.TransOrd Index] [Std.LawfulEqOrd Index] in
private theorem congrEntries {first second : SortedMap Index Value}
    (same : first.entries = second.entries) : first = second := by
  cases first
  cases second
  cases same
  rfl

omit [Std.LawfulEqOrd Index] in
/-- Maps with the same entries are the same. -/
theorem ext_mem {first second : SortedMap Index Value}
    (same : ∀ index value, (index, value) ∈ first.entries ↔ (index, value) ∈ second.entries) :
    first = second := by
  have distinct (map : SortedMap Index Value) : map.entries.Nodup := by
    refine map.sorted.imp ?_
    rintro entry _ before rfl
    rw [(Std.ReflCmp.compare_self : compare entry.1 entry.1 = .eq)] at before
    cases before
  have perm : first.entries.Perm second.entries :=
    (List.perm_ext_iff_of_nodup (distinct first) (distinct second)).2 fun entry =>
      same entry.1 entry.2
  refine congrEntries (perm.eq_of_pairwise ?_ first.sorted second.sorted)
  intro entry other _ _ before after
  rw [Std.OrientedCmp.gt_iff_lt.2 before] at after
  cases after

omit [Std.LawfulEqOrd Index] in
/-- An index behind all that are there goes to the end. -/
theorem placeIn_last (index : Index) (value : Value) :
    ∀ pairs : List (Index × Value), (∀ pair ∈ pairs, compare pair.1 index = .lt) →
      placeIn index value pairs = pairs ++ [(index, value)]
  | [], _ => rfl
  | (present, old) :: rest, below => by
    have after : compare index present = .gt :=
      Std.OrientedCmp.gt_iff_lt.2 (below (present, old) List.mem_cons_self)
    simp only [placeIn, after, List.cons_append]
    rw [placeIn_last index value rest fun pair inside => below pair (List.mem_cons_of_mem _ inside)]

private theorem entries_foldl_insert :
    ∀ (pairs : List (Index × Value)) (start : SortedMap Index Value),
      (start.entries ++ pairs).Pairwise (fun first second => compare first.1 second.1 = .lt) →
      (pairs.foldl (fun map pair => map.insert pair.1 pair.2) start).entries = start.entries ++ pairs
  | [], start, _ => by simp
  | (index, value) :: rest, start, sorted => by
    have placed : (start.insert index value).entries = start.entries ++ [(index, value)] := by
      apply placeIn_last
      intro pair member
      exact (List.pairwise_append.1 sorted).2.2 pair member (index, value) List.mem_cons_self
    simp only [List.foldl_cons]
    rw [entries_foldl_insert rest (start.insert index value) (by rw [placed]; simpa using sorted),
      placed]
    simp

theorem ofPairs_entries (map : SortedMap Index Value) : ofPairs map.entries = map := by
  have rebuilt : (ofPairs map.entries).entries = map.entries := by
    have := entries_foldl_insert map.entries (empty : SortedMap Index Value)
      (by simpa [empty] using map.sorted)
    simpa [ofPairs, empty] using this
  exact congrEntries rebuilt

end SortedMap

end ResultCache
