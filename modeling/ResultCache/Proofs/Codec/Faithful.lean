import Mathlib.Data.List.Forall2

/-!
Contract: what a reading of a written value can give.

Owns:
- `Faithful`, which ties the reading of a value to two conditions on it: settled values are
  read as themselves or not at all, and shallow ones of them are read; and a value that is
  not settled is never read as one like it;
- that readings made of parts are faithful when the parts are.

Does not own: which values are settled or shallow, and when two of them are alike. These are
up to the format.
-/

namespace ResultCache

namespace Codec

/-! ### Lists of what may fail -/

section Lists

variable {Item Other Held : Type}

theorem mapM_cons (read : Item → Option Other) (value : Item) (values : List Item) :
    (value :: values).mapM read =
      (read value).bind fun other => (values.mapM read).map (other :: ·) := by
  rw [List.mapM_cons]
  cases read value with
  | none => rfl
  | some other => cases values.mapM read <;> rfl

theorem forall₂_of_mapM {write : Item → Option Other} {items : List Item} {others : List Other}
    (written : items.mapM write = some others) :
    List.Forall₂ (fun item other => write item = some other) items others := by
  induction items generalizing others with
  | nil =>
      cases written
      exact .nil
  | cons item items inductionHypothesis =>
      rw [mapM_cons] at written
      obtain ⟨other, first, rest⟩ := Option.bind_eq_some_iff.1 written
      obtain ⟨behind, later, rfl⟩ := Option.map_eq_some_iff.1 rest
      exact .cons first (inductionHypothesis later)

theorem exists_of_mapM {write : Item → Option Other} {items : List Item}
    {others : List Other} (written : items.mapM write = some others) :
    ∀ item ∈ items, ∃ other, write item = some other := by
  intro item member
  obtain ⟨index, bound, rfl⟩ := List.mem_iff_getElem.1 member
  obtain ⟨lengths, each⟩ := List.forall₂_iff_get.1 (forall₂_of_mapM written)
  exact ⟨_, each index bound (by omega)⟩

theorem exists_mem_of_mapM {write : Item → Option Other} {items : List Item}
    {others : List Other} (written : items.mapM write = some others) :
    ∀ other ∈ others, ∃ item ∈ items, write item = some other := by
  intro other member
  obtain ⟨index, bound, rfl⟩ := List.mem_iff_getElem.1 member
  obtain ⟨lengths, each⟩ := List.forall₂_iff_get.1 (forall₂_of_mapM written)
  exact ⟨_, List.getElem_mem _, each index (by omega) bound⟩

/-- What is read from what was written, item by item. -/
theorem mapM_of_mapM {write : Item → Option Other}
    (read : Other → Option Held) {items : List Item} {others : List Other}
    (written : items.mapM write = some others) :
    others.mapM read = items.mapM fun item => (write item).bind read := by
  induction items generalizing others with
  | nil =>
      cases written
      rfl
  | cons item items inductionHypothesis =>
      rw [mapM_cons] at written
      obtain ⟨other, first, rest⟩ := Option.bind_eq_some_iff.1 written
      obtain ⟨behind, later, rfl⟩ := Option.map_eq_some_iff.1 rest
      rw [mapM_cons, mapM_cons, inductionHypothesis later, first]
      rfl

/-- What readings keep of every item is kept of the list. -/
theorem map_eq_of_mapM {Index : Type} {read : Item → Option Other} {index : Item → Index}
    {index' : Other → Index} (keeps : ∀ item, ∀ other ∈ read item, index' other = index item)
    {items : List Item} {others : List Other} (found : items.mapM read = some others) :
    others.map index' = items.map index := by
  induction items generalizing others with
  | nil =>
      cases found
      rfl
  | cons item items inductionHypothesis =>
      rw [mapM_cons] at found
      obtain ⟨other, first, rest⟩ := Option.bind_eq_some_iff.1 found
      obtain ⟨behind, later, rfl⟩ := Option.map_eq_some_iff.1 rest
      rw [List.map_cons, List.map_cons, inductionHypothesis later, keeps item other first]

end Lists

/-! ### Readings -/

section Readings

variable {Held Other Part Rest : Type}

/-- The reading of a value that was written. -/
structure Faithful (alike : Held → Held → Prop) (settled shallow : Prop) (value : Held)
    (read : Option Held) : Prop where
  read_eq : settled → shallow → read = some value
  eq_of_settled : ∀ other ∈ read, settled → other = value
  settled_of_alike : ∀ other ∈ read, alike other value → settled

namespace Faithful

variable {alike : Held → Held → Prop} {settled shallow : Prop} {value : Held}
  {read : Option Held}

/-- A value that is read as itself, and whatever is settled. -/
theorem of_eq (same : read = some value) (always : settled) :
    Faithful alike settled shallow value read where
  read_eq _ _ := same
  eq_of_settled other found _ := by
    rw [same] at found
    exact (Option.some.inj found).symm
  settled_of_alike _ _ _ := always

/-- A value that is not read, since it is not both. -/
theorem of_none (absent : read = none) (failing : settled → ¬ shallow) :
    Faithful alike settled shallow value read where
  read_eq holds both := absurd both (failing holds)
  eq_of_settled other found := by
    rw [absent] at found
    cases found
  settled_of_alike other found := by
    rw [absent] at found
    cases found

/-- The reading of a value that is made of one other. -/
theorem map (faithful : Faithful alike settled shallow value read) {wrap : Held → Other}
    {alike' : Other → Other → Prop} {settled' shallow' : Prop} (toSettled : settled' ↔ settled)
    (toShallow : shallow' → shallow)
    (toAlike : ∀ other ∈ read, alike' (wrap other) (wrap value) → alike other value) :
    Faithful alike' settled' shallow' (wrap value) (read.map wrap) where
  read_eq holds within := by
    rw [faithful.read_eq (toSettled.1 holds) (toShallow within)]
    rfl
  eq_of_settled wrapped found holds := by
    obtain ⟨other, before, rfl⟩ := Option.map_eq_some_iff.1 found
    rw [faithful.eq_of_settled other before (toSettled.1 holds)]
  settled_of_alike wrapped found same := by
    obtain ⟨other, before, rfl⟩ := Option.map_eq_some_iff.1 found
    exact toSettled.2 (faithful.settled_of_alike other before (toAlike other before same))

/-- The reading of a value that is made of two others. -/
theorem both {part : Part} {rest : Rest} {alikePart : Part → Part → Prop}
    {alikeRest : Rest → Rest → Prop} {settledPart settledRest shallowPart shallowRest : Prop}
    {readPart : Option Part} {readRest : Option Rest}
    (first : Faithful alikePart settledPart shallowPart part readPart)
    (second : Faithful alikeRest settledRest shallowRest rest readRest)
    {join : Part → Rest → Held} (toSettled : settled ↔ settledPart ∧ settledRest)
    (toShallow : shallow → shallowPart ∧ shallowRest)
    (toAlike : ∀ other ∈ readPart, ∀ others ∈ readRest,
      alike (join other others) (join part rest) → alikePart other part ∧ alikeRest others rest) :
    Faithful alike settled shallow (join part rest)
      (readPart.bind fun other => readRest.map (join other)) where
  read_eq holds within := by
    rw [first.read_eq (toSettled.1 holds).1 (toShallow within).1,
      second.read_eq (toSettled.1 holds).2 (toShallow within).2]
    rfl
  eq_of_settled joined found holds := by
    obtain ⟨other, before, found⟩ := Option.bind_eq_some_iff.1 found
    obtain ⟨others, behind, rfl⟩ := Option.map_eq_some_iff.1 found
    rw [first.eq_of_settled other before (toSettled.1 holds).1,
      second.eq_of_settled others behind (toSettled.1 holds).2]
  settled_of_alike joined found same := by
    obtain ⟨other, before, found⟩ := Option.bind_eq_some_iff.1 found
    obtain ⟨others, behind, rfl⟩ := Option.map_eq_some_iff.1 found
    have parts := toAlike other before others behind same
    exact toSettled.2 ⟨first.settled_of_alike other before parts.1,
      second.settled_of_alike others behind parts.2⟩

/-- The reading of a list, value by value. -/
theorem list {settled shallow : Held → Prop} {read : Held → Option Held} {values : List Held}
    (each : ∀ value ∈ values, Faithful alike (settled value) (shallow value) value (read value)) :
    Faithful (List.Forall₂ alike) (∀ value ∈ values, settled value)
      (∀ value ∈ values, shallow value) values (values.mapM read) := by
  induction values with
  | nil => exact .of_eq rfl fun _ absent => absurd absent List.not_mem_nil
  | cons value values inductionHypothesis =>
      have here := each value List.mem_cons_self
      have later := inductionHypothesis fun other member => each other (List.mem_cons_of_mem _ member)
      rw [mapM_cons]
      refine here.both later List.forall_mem_cons List.forall_mem_cons.1 ?_
      intro other _ others _ same
      cases same with
      | cons first rest => exact ⟨first, rest⟩

end Faithful

end Readings

end Codec

end ResultCache
