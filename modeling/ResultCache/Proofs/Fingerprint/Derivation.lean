import ResultCache.Proofs.Fingerprint.Edit

/-!
Contract: what is left of a derivation in its key.

Owns:
- `Derivation`, all that one key is derived from, whether query text or expressions, with its
  components, its final accumulator and its key;
- `Derivation.Continues`, derivations that mix in more behind what another one mixed in;
- that keys tell final accumulators, and that parameters, a selector or any other structure
  which two derivations share behind a point neither make nor hide a collision.

Does not own: which component sequences leave one accumulator behind.
-/

namespace ResultCache

namespace Fingerprint

open Expression

/-- What a fetch is issued from: query text, or a filter and an optional selector. -/
inductive Source where
  | query (text : String)
  | expression (filter : Expression) (selector : Option Expression)

/-- All that one key is derived from. -/
structure Derivation where
  deriver : KeyDeriver
  shape : ResultShape
  source : Source
  parameters : Option Json.Value

/-- What tells values and tells faults tells outcomes. -/
private theorem outcome_injective {ε ε' α β : Type} {change : Except ε α → Except ε' β}
    {ofValue : α → β} {ofFault : ε → ε'} (values : Function.Injective ofValue)
    (faults : Function.Injective ofFault)
    (change_ok : ∀ value, change (.ok value) = .ok (ofValue value))
    (change_error : ∀ fault, change (.error fault) = .error (ofFault fault)) :
    Function.Injective change := by
  intro first second same
  cases first with
  | ok value =>
      rw [change_ok] at same
      cases second with
      | ok value' =>
          rw [change_ok] at same
          rw [values (Except.ok.inj same)]
      | error fault' =>
          rw [change_error] at same
          cases same
  | error fault =>
      rw [change_error] at same
      cases second with
      | ok value' =>
          rw [change_ok] at same
          cases same
      | error fault' =>
          rw [change_error] at same
          rw [faults (Except.error.inj same)]

/-- The key of a final accumulator, or the refusal of a node without components. -/
def keyFrom : Except String UInt64 → Except CacheError Key
  | .ok accumulator => .ok (finish accumulator)
  | .error kind => .error (.unsupportedExpression kind)

theorem keyFrom_injective : Function.Injective keyFrom := by
  have refusals : Function.Injective CacheError.unsupportedExpression :=
    fun _ _ same => CacheError.unsupportedExpression.inj same
  exact outcome_injective finish_injective refusals (fun _ => rfl) (fun _ => rfl)

namespace Derivation

/-- The components of a derivation, or the kind of the first node without any. -/
def components (derivation : Derivation) : Except String (List Component) :=
  match derivation.source with
  | .query text => .ok (ofQuery derivation.shape text derivation.parameters)
  | .expression filter selector =>
    ofFetch derivation.deriver.includeLiterals derivation.shape filter selector
      derivation.parameters

/-- The accumulator behind all components. -/
def accumulator (derivation : Derivation) : Except String UInt64 :=
  derivation.components.map (mixAll seed)

def key (derivation : Derivation) : Except CacheError Key :=
  match derivation.source with
  | .query text => .ok (KeyDeriver.queryKey derivation.shape text derivation.parameters)
  | .expression filter selector =>
    derivation.deriver.expressionKey derivation.shape filter selector derivation.parameters

def withParameters (derivation : Derivation) (parameters : Option Json.Value) : Derivation :=
  { derivation with parameters }

theorem key_eq (derivation : Derivation) : derivation.key = keyFrom derivation.accumulator := by
  obtain ⟨deriver, shape, source, parameters⟩ := derivation
  cases source with
  | query text => rfl
  | expression filter selector =>
      simp only [key, accumulator, components, KeyDeriver.expressionKey]
      cases ofFetch deriver.includeLiterals shape filter selector parameters <;> rfl

theorem key_eq_iff_accumulator_eq {first second : Derivation} :
    first.key = second.key ↔ first.accumulator = second.accumulator := by
  rw [key_eq, key_eq, keyFrom_injective.eq_iff]

/-! ### Shared ends -/

/-- A derivation with the components of a shorter one in front, and more behind them. -/
def Continues (after : List Component) (shorter longer : Derivation) : Prop :=
  longer.components = shorter.components.map (· ++ after)

theorem Continues.accumulator_eq {after : List Component} {shorter longer : Derivation}
    (continued : Continues after shorter longer) :
    longer.accumulator = shorter.accumulator.map (mixAll · after) := by
  unfold accumulator
  rw [continued]
  cases shorter.components with
  | error kind => rfl
  | ok before => exact congrArg Except.ok (mixAll_append seed before after)

/-- Derivations that go on alike collide exactly when they did before. -/
theorem Continues.key_eq_iff {after : List Component} {first second first' second' : Derivation}
    (continued : Continues after first first') (continued' : Continues after second second') :
    first'.key = second'.key ↔ first.key = second.key := by
  rw [key_eq_iff_accumulator_eq, key_eq_iff_accumulator_eq, continued.accumulator_eq,
    continued'.accumulator_eq]
  have continuing : Function.Injective
      fun outcome : Except String UInt64 => outcome.map (mixAll · after) :=
    outcome_injective (mixAll_bijective after).injective Function.injective_id (fun _ => rfl)
      (fun _ => rfl)
  exact continuing.eq_iff

theorem continues_withParameters (derivation : Derivation) (parameters : Option Json.Value) :
    Continues (ofParameters parameters) (derivation.withParameters none)
      (derivation.withParameters parameters) := by
  obtain ⟨deriver, shape, source, _⟩ := derivation
  unfold Continues components withParameters
  cases source with
  | query text =>
      show Except.ok (shape.code :: (ofText text ++ ofParameters parameters)) =
        Except.ok (shape.code :: (ofText text ++ []) ++ ofParameters parameters)
      rw [List.append_nil, List.cons_append]
  | expression filter selector =>
      simp only [ofFetch]
      cases ofExpression deriver.includeLiterals filter with
      | error kind => rfl
      | ok filters =>
          cases ofSelector deriver.includeLiterals selector with
          | error kind => rfl
          | ok selectors =>
              show Except.ok (shape.code :: (filters ++ (selectors ++ ofParameters parameters))) =
                Except.ok (shape.code :: (filters ++ (selectors ++ [])) ++ ofParameters parameters)
              rw [List.append_nil, List.cons_append, List.append_assoc]

theorem continues_selector {deriver : KeyDeriver} {selector : Expression}
    (free : selector.IsWalkable deriver.includeLiterals) (shape : ResultShape)
    (filter : Expression) (parameters : Option Json.Value) :
    Continues (selectorMarker :: walk deriver.includeLiterals selector ++ ofParameters parameters)
      ⟨deriver, shape, .expression filter none, none⟩
      ⟨deriver, shape, .expression filter (some selector), parameters⟩ := by
  have selectors := ofExpression_eq_ok deriver.includeLiterals selector free
  simp only [Continues, components, ofFetch, ofSelector, selectors]
  cases ofExpression deriver.includeLiterals filter with
  | error kind => rfl
  | ok filters =>
      show Except.ok (shape.code :: (filters ++ (_ ++ ofParameters parameters))) =
        Except.ok (shape.code :: (filters ++ []) ++ (_ ++ ofParameters parameters))
      simp only [List.append_nil, List.cons_append]

end Derivation

/-- Fetches that differ in one part have components that are alike around it, and keys that are
the same exactly when the accumulators behind the two parts are. -/
theorem exists_keys_of_changedAt {deriver : KeyDeriver}
    {change : Expression → Expression → Prop} {first second : Sections}
    (changed : Sections.ChangedAt deriver.includeLiterals change first second)
    (free : first.IsWalkable deriver.includeLiterals)
    (free' : second.IsWalkable deriver.includeLiterals) (shape : ResultShape) :
    ∃ before part part' after key key', change part part' ∧
      first.components deriver.includeLiterals shape =
        .ok (before ++ (walk deriver.includeLiterals part ++ after)) ∧
      second.components deriver.includeLiterals shape =
        .ok (before ++ (walk deriver.includeLiterals part' ++ after)) ∧
      first.key deriver shape = .ok key ∧ second.key deriver shape = .ok key' ∧
      (key = key' ↔ mixAll (mixAll seed before) (walk deriver.includeLiterals part) =
        mixAll (mixAll seed before) (walk deriver.includeLiterals part')) := by
  have windows {part part' : Expression} (here : change part part') :
      DifferIn (fun window window' => ∃ part part', change part part' ∧
          window = walk deriver.includeLiterals part ∧
          window' = walk deriver.includeLiterals part')
        (walk deriver.includeLiterals part) (walk deriver.includeLiterals part') :=
    .whole ⟨part, part', here, rfl, rfl⟩
  obtain ⟨before, _, _, after, key, key', ⟨part, part', here, rfl, rfl⟩, keys⟩ :=
    Sections.exists_keys_of_differIn (Sections.walk_of_changedAt windows changed) free free' shape
  exact ⟨before, part, part', after, key, key', here, keys⟩

/-- Nothing is lost on the way to a key. The avalanche pairs accumulators and keys off, so that
two derivations agree in their keys exactly when they agree in their final accumulators, or
stop at one kind of node. Each step, and each run of steps, pairs accumulators off with
accumulators, so that whatever two derivations share behind a point neither makes nor hides a
collision: one end of their component sequences, the same parameters behind any queries or
trees, the same selector behind two filters, or all that is walked behind two parts of one
tree. -/
theorem derivations_lose_nothing :
    Function.Bijective finish ∧
      (∀ first second : Derivation,
        first.key = second.key ↔ first.accumulator = second.accumulator) ∧
      (∀ component : Component, Function.Bijective (mix · component)) ∧
      (∀ after : List Component, Function.Bijective (mixAll · after)) ∧
      (∀ before before' after : List Component,
        keyOf (before ++ after) = keyOf (before' ++ after) ↔
          mixAll seed before = mixAll seed before') ∧
      (∀ (first second : Derivation) (parameters : Option Json.Value),
        (first.withParameters parameters).key = (second.withParameters parameters).key ↔
          (first.withParameters none).key = (second.withParameters none).key) ∧
      (∀ (deriver : KeyDeriver) (shape shape' : ResultShape) (filter filter' selector : Expression)
        (parameters : Option Json.Value), selector.IsWalkable deriver.includeLiterals →
          (deriver.expressionKey shape filter (some selector) parameters =
              deriver.expressionKey shape' filter' (some selector) parameters ↔
            deriver.expressionKey shape filter none none =
              deriver.expressionKey shape' filter' none none)) ∧
      ∀ (deriver : KeyDeriver) (shape : ResultShape) (change : Expression → Expression → Prop)
        (sections other : Sections),
        Sections.ChangedAt deriver.includeLiterals change sections other →
        sections.IsWalkable deriver.includeLiterals → other.IsWalkable deriver.includeLiterals →
        ∃ before part part' after key key', change part part' ∧
          sections.components deriver.includeLiterals shape =
            .ok (before ++ (walk deriver.includeLiterals part ++ after)) ∧
          other.components deriver.includeLiterals shape =
            .ok (before ++ (walk deriver.includeLiterals part' ++ after)) ∧
          sections.key deriver shape = .ok key ∧ other.key deriver shape = .ok key' ∧
          (key = key' ↔ mixAll (mixAll seed before) (walk deriver.includeLiterals part) =
            mixAll (mixAll seed before) (walk deriver.includeLiterals part')) := by
  refine ⟨finish_bijective, fun _ _ => Derivation.key_eq_iff_accumulator_eq, mix_bijective,
    mixAll_bijective, keyOf_append_eq_iff, ?_, ?_, ?_⟩
  · intro first second parameters
    exact (first.continues_withParameters parameters).key_eq_iff
      (second.continues_withParameters parameters)
  · intro deriver shape shape' filter filter' selector parameters free
    exact (Derivation.continues_selector free shape filter parameters).key_eq_iff
      (Derivation.continues_selector free shape' filter' parameters)
  · intro deriver shape change sections other changed free free'
    exact exists_keys_of_changedAt changed free free' shape

/-- The name of an owner. -/
def ownerName : Expression := .member "Name" (some (.parameter "p"))

/-- The number one in the place of two. -/
def OneForTwo (part part' : Expression) : Prop :=
  part = .constant (.int 1) ∧ part' = .constant (.int 2)

/-- A selector and parameters leave two filters that collide with one key, and two filters that
differ in a number with two. -/
theorem derivations_lose_nothing_ownerName :
    ownerName.IsWalkable true ∧
      (∀ parameters, KeyDeriver.standard.expressionKey .listByExpression bareParent
          (some ownerName) parameters =
        KeyDeriver.standard.expressionKey .listByExpression ownedParent (some ownerName)
          parameters) ∧
      Sections.ChangedAt true OneForTwo (idEquals 1) (idEquals 2) ∧
      (idEquals 1).IsWalkable true ∧ (idEquals 2).IsWalkable true ∧
      (∃ key key', (idEquals 1).key .standard .listByExpression = .ok key ∧
        (idEquals 2).key .standard .listByExpression = .ok key' ∧ key ≠ key') ∧
      ∀ parameters, KeyDeriver.standard.expressionKey .listByExpression (idEquals 1).filter
          (some ownerName) parameters ≠
        KeyDeriver.standard.expressionKey .listByExpression (idEquals 2).filter (some ownerName)
          parameters := by
  obtain ⟨_, _, _, _, _, _, behindSelector, behindPart⟩ := derivations_lose_nothing
  have walkable : ownerName.IsWalkable true := by
    simp [ownerName, IsWalkable, walked, walkedOption, isExtension]
  have changed : Sections.ChangedAt true OneForTwo (idEquals 1) (idEquals 2) :=
    .filter (.body _ (.right _ _ (.here ⟨rfl, rfl⟩))) _ _
  have free : (idEquals 1).IsWalkable true := by decide
  have free' : (idEquals 2).IsWalkable true := by decide
  obtain ⟨before, _, _, after, key, key', ⟨rfl, rfl⟩, _, _, made, made', same⟩ :=
    behindPart .standard .listByExpression OneForTwo _ _ changed free free'
  have different : key ≠ key' := by
    -- The parts have the same code in front and the same type name behind.
    have window (number : Int64) : walk true (.constant (.int number)) =
        [Head.constant.code] ++ ([number.toUInt64] ++ ofText "int") := rfl
    rw [Ne, same]
    simp only [KeyDeriver.standard, window, mixAll_append, mixAll_left_inj]
    exact fun numbers => absurd ((mix_right_inj _).1 numbers) (by decide)
  refine ⟨walkable, ?_, changed, free, free', ⟨key, key', made, made', different⟩, ?_⟩
  · intro parameters
    exact (behindSelector _ _ _ _ _ _ parameters walkable).2 rfl
  · intro parameters collision
    have collided := (behindSelector _ _ _ _ _ _ parameters walkable).1 collision
    exact different (Except.ok.inj (made.symm.trans (collided.trans made')))

end Fingerprint

end ResultCache
