import ResultCache.Proofs.Fingerprint.Edit

/-!
Contract: when a change of one timestamp changes the key.

Owns:
- the seconds of an instant as a word, and which instants have near words;
- `Fingerprint.Cancel`, when the change of the nanoseconds takes back what the change of the
  seconds did to an accumulator, and that it needs a change of both and, on one side of the
  epoch, seconds of one block;
- that two fetches which differ in one timestamp have one key exactly when the changes
  cancel behind the accumulator in front of the timestamp.

A timestamp is two components side by side. The step between them carries a difference of
the seconds up by no more than a factor of 397, so that a difference of the nanoseconds can
meet it.
-/

namespace ResultCache

namespace Instant

/-- The seconds as a fingerprint has them: negative ones count down from the largest word. -/
def secondsWord (instant : Instant) : UInt64 := (Int64.ofInt instant.seconds).toUInt64

variable {first second : Instant}

theorem toNat_secondsWord (instant : Instant) :
    instant.secondsWord.toNat = (instant.seconds % 2 ^ 64).toNat :=
  BitVec.toNat_ofInt instant.seconds

theorem IsCivil.seconds_bounds (civil : first.IsCivil) :
    -2 ^ 43 ≤ first.seconds ∧ first.seconds < 2 ^ 43 := by
  have notBefore := civil.notBefore
  have notAfter := civil.notAfter
  simp only [earliest, latest] at notBefore notAfter
  omega

theorem IsCivil.nanoseconds_lt (civil : first.IsCivil) : first.nanoseconds < 2 ^ 31 := by
  have subsecond := civil.subsecond
  simp only [Duration.perSecond] at subsecond
  omega

theorem IsCivil.toNat_nanoseconds (civil : first.IsCivil) :
    first.nanoseconds.toUInt64.toNat = first.nanoseconds := by
  have small := civil.nanoseconds_lt
  exact UInt64.toNat_ofNat_of_lt' (by simp only [UInt64.size]; omega)

theorem seconds_eq_of_secondsWord_eq (civil : first.IsCivil) (civil' : second.IsCivil)
    (same : first.secondsWord = second.secondsWord) : first.seconds = second.seconds := by
  have values := congrArg UInt64.toNat same
  have bounds := civil.seconds_bounds
  have bounds' := civil'.seconds_bounds
  rw [toNat_secondsWord, toNat_secondsWord] at values
  omega

/-- The words of civil instants on one side of the epoch are near. -/
theorem near_secondsWord (civil : first.IsCivil) (civil' : second.IsCivil)
    (side : 0 ≤ first.seconds ↔ 0 ≤ second.seconds) :
    Word.Near 43 first.secondsWord second.secondsWord := by
  have bounds := civil.seconds_bounds
  have bounds' := civil'.seconds_bounds
  unfold Word.Near
  rw [toNat_secondsWord, toNat_secondsWord]
  omega

/-- Words that agree in all but their lowest bits are those of seconds in one block. -/
theorem seconds_div_eq_of_near (civil : first.IsCivil) (civil' : second.IsCivil)
    (near : Word.Near 31 first.secondsWord second.secondsWord) :
    first.seconds / 2 ^ 31 = second.seconds / 2 ^ 31 := by
  have bounds := civil.seconds_bounds
  have bounds' := civil'.seconds_bounds
  unfold Word.Near at near
  rw [toNat_secondsWord, toNat_secondsWord] at near
  omega

end Instant

namespace Fingerprint

/-! ### Steps of two components -/

/-- Words whose products with the factor of a step are near are near themselves, unless the
words are far apart. -/
theorem near_of_mul_factor {first second : UInt64} (near : Word.Near 43 first second)
    (products : Word.Near 31 (first * factor) (second * factor)) : Word.Near 31 first second := by
  wlog ordered : first.toNat ≤ second.toNat generalizing first second
  · exact (this near.symm products.symm (Nat.le_of_not_le ordered)).symm
  have product : (first * factor).toNat = first.toNat * 397 % 2 ^ 64 := UInt64.toNat_mul _ _
  have stretched : (second * factor).toNat =
      (first * factor).toNat + (second.toNat - first.toNat) * 397 :=
    Word.toNat_mul_of_near near products (by decide) ordered
  by_contra apart
  -- Where the second word's block begins, its multiple of the factor parts the products.
  have parted (low high carry start : Nat) (below : low + carry * 2 ^ 64 < start * 2 ^ 31 * 397)
      (above : start * 2 ^ 31 * 397 ≤ high + carry * 2 ^ 64) : low / 2 ^ 31 ≠ high / 2 ^ 31 := by
    omega
  unfold Word.Near at apart
  refine parted _ _ (first.toNat * 397 / 2 ^ 64) (second.toNat / 2 ^ 31) ?_ ?_ products <;> omega

/-- The nanoseconds take back what the seconds did to an accumulator. -/
def Cancel (accumulator : UInt64) (first second : Instant) : Prop :=
  (accumulator * factor ^^^ first.secondsWord) * factor ^^^
      (accumulator * factor ^^^ second.secondsWord) * factor =
    first.nanoseconds.toUInt64 ^^^ second.nanoseconds.toUInt64

variable {accumulator : UInt64} {first second : Instant}

theorem mixAll_timestamp_eq_iff :
    mixAll accumulator (ofConstantValue (.timestamp first)) =
        mixAll accumulator (ofConstantValue (.timestamp second)) ↔
      Cancel accumulator first second :=
  Word.xor_exchange

theorem Cancel.eq_of_seconds_eq (cancel : Cancel accumulator first second)
    (civil : first.IsCivil) (civil' : second.IsCivil) (same : first.seconds = second.seconds) :
    first = second := by
  have words : first.secondsWord = second.secondsWord := by
    rw [Instant.secondsWord, same, Instant.secondsWord]
  unfold Cancel at cancel
  rw [words, UInt64.xor_self, eq_comm, UInt64.xor_eq_zero_iff] at cancel
  have values := congrArg UInt64.toNat cancel
  rw [civil.toNat_nanoseconds, civil'.toNat_nanoseconds] at values
  cases first
  cases second
  cases same
  cases values
  rfl

theorem Cancel.eq_of_nanoseconds_eq (cancel : Cancel accumulator first second)
    (civil : first.IsCivil) (civil' : second.IsCivil)
    (same : first.nanoseconds = second.nanoseconds) : first = second := by
  unfold Cancel at cancel
  rw [same, UInt64.xor_self, UInt64.xor_eq_zero_iff] at cancel
  have words := (UInt64.xor_right_inj _).1 (Word.mul_cancel factor_mul_factorInverse cancel)
  have seconds := Instant.seconds_eq_of_secondsWord_eq civil civil' words
  cases first
  cases second
  cases same
  cases seconds
  rfl

/-- Changes that cancel on one side of the epoch stay inside a block of seconds. -/
theorem Cancel.seconds_div_eq (cancel : Cancel accumulator first second)
    (civil : first.IsCivil) (civil' : second.IsCivil)
    (side : 0 ≤ first.seconds ↔ 0 ≤ second.seconds) :
    first.seconds / 2 ^ 31 = second.seconds / 2 ^ 31 := by
  have small : (first.nanoseconds.toUInt64 ^^^ second.nanoseconds.toUInt64).toNat < 2 ^ 31 := by
    rw [UInt64.toNat_xor, civil.toNat_nanoseconds, civil'.toNat_nanoseconds]
    exact Nat.xor_lt_two_pow civil.nanoseconds_lt civil'.nanoseconds_lt
  unfold Cancel at cancel
  rw [← cancel] at small
  have near := Instant.near_secondsWord civil civil' side
  have moved := near_of_mul_factor ((Word.near_xor_iff (accumulator * factor)).2 near)
    (Word.near_of_xor_lt small)
  exact Instant.seconds_div_eq_of_near civil civil' ((Word.near_xor_iff _).1 moved)

/-! ### Fetches that differ in one timestamp -/

/-- One timestamp in the place of another. -/
inductive Redated (first second : Instant) : Constant → Constant → Prop
  | timestamp : Redated first second (.timestamp first) (.timestamp second)

/-- The window of a timestamp, with one instant and with the other. -/
def InstantWindow (first second : Instant) (window window' : List Component) : Prop :=
  window = ofConstantValue (.timestamp first) ∧ window' = ofConstantValue (.timestamp second)

theorem walk_of_redated {includeLiterals : Bool} {tree other : Expression}
    (redated : Expression.Relabelled includeLiterals (Redated first second) tree other) :
    DifferIn (InstantWindow first second) (walk includeLiterals tree)
      (walk includeLiterals other) := by
  apply walk_of_relabelled _ _ redated
  · rintro _ _ ⟨⟩
    rfl
  · rintro _ _ ⟨⟩
    exact ⟨rfl, rfl⟩

/-- Both fetches have keys, from component sequences that are alike around the timestamp.
The keys are the same exactly when the changes of seconds and nanoseconds cancel behind the
components in front. They never do when one of the two stays as it was, nor for seconds of
different blocks on one side of the epoch. -/
theorem key_eq_iff_cancel (deriver : KeyDeriver) (shape : ResultShape) {sections other : Sections}
    (redated : Sections.ChangedAt deriver.includeLiterals
      (Expression.Relabelled deriver.includeLiterals (Redated first second)) sections other)
    (free : sections.IsWalkable deriver.includeLiterals)
    (civil : first.IsCivil) (civil' : second.IsCivil) (different : first ≠ second) :
    ∃ before after key key',
      sections.components deriver.includeLiterals shape =
        .ok (before ++ (ofConstantValue (.timestamp first) ++ after)) ∧
      other.components deriver.includeLiterals shape =
        .ok (before ++ (ofConstantValue (.timestamp second) ++ after)) ∧
      sections.key deriver shape = .ok key ∧ other.key deriver shape = .ok key' ∧
      (key = key' ↔ Cancel (mixAll seed before) first second) ∧
      (first.seconds = second.seconds ∨ first.nanoseconds = second.nanoseconds → key ≠ key') ∧
      ((0 ≤ first.seconds ↔ 0 ≤ second.seconds) →
        first.seconds / 2 ^ 31 ≠ second.seconds / 2 ^ 31 → key ≠ key') := by
  have free' := redated.isWalkable (fun changed _ => changed.isWalkable) free
  obtain ⟨before, _, _, after, ⟨rfl, rfl⟩, walk, walk'⟩ :=
    (Sections.walk_of_changedAt walk_of_redated redated).behind [shape.code]
  have same : keyOf (before ++ (ofConstantValue (.timestamp first) ++ after)) =
      keyOf (before ++ (ofConstantValue (.timestamp second) ++ after)) ↔
        Cancel (mixAll seed before) first second :=
    (keyOf_eq_iff before _ _ after).trans mixAll_timestamp_eq_iff
  refine ⟨before, after, _, _, ?_, ?_, ?_, ?_, same, ?_, ?_⟩
  · rw [← walk]
    exact Sections.components_eq_ok_of_free free shape
  · rw [← walk']
    exact Sections.components_eq_ok_of_free free' shape
  · rw [← walk]
    exact Sections.key_eq_ok free shape
  · rw [← walk']
    exact Sections.key_eq_ok free' shape
  · rintro (seconds | nanoseconds) keys
    · exact different ((same.1 keys).eq_of_seconds_eq civil civil' seconds)
    · exact different ((same.1 keys).eq_of_nanoseconds_eq civil civil' nanoseconds)
  · intro side blocks keys
    exact blocks ((same.1 keys).seconds_div_eq civil civil' side)

/-- The rows created after an instant. -/
def createdAfter (instant : Instant) : Sections :=
  ⟨.lambda (.binary .greaterThan (.member "created" (some (.parameter "row")))
    (.construct "DateTime" [] (some (.timestamp instant)))) ["row"], none, none⟩

/-- Behind the first instant of 2024 by 405 nanoseconds. -/
def newYear : Instant := ⟨1704067200, 405⟩

/-- The second after it. -/
def secondLater : Instant := ⟨1704067201, 0⟩

theorem redated_createdAfter (first second : Instant) :
    Sections.ChangedAt true (Expression.Relabelled true (Redated first second))
      (createdAfter first) (createdAfter second) :=
  .filter (.body _ (.right _ _ (.here (.folded rfl _ _ .timestamp)))) _ _

theorem newYear_secondLater_keys :
    Sections.ChangedAt true (Expression.Relabelled true (Redated newYear secondLater))
        (createdAfter newYear) (createdAfter secondLater) ∧
      (createdAfter newYear).IsWalkable true ∧ newYear.IsCivil ∧ secondLater.IsCivil ∧
      newYear ≠ secondLater ∧
      ∃ before after key key',
        (createdAfter newYear).components true .listByExpression =
          .ok (before ++ (ofConstantValue (.timestamp newYear) ++ after)) ∧
        (createdAfter secondLater).components true .listByExpression =
          .ok (before ++ (ofConstantValue (.timestamp secondLater) ++ after)) ∧
        (createdAfter newYear).key .standard .listByExpression = .ok key ∧
        (createdAfter secondLater).key .standard .listByExpression = .ok key' ∧
        (key = key' ↔ Cancel (mixAll seed before) newYear secondLater) ∧
        (newYear.seconds = secondLater.seconds ∨ newYear.nanoseconds = secondLater.nanoseconds →
          key ≠ key') ∧
        ((0 ≤ newYear.seconds ↔ 0 ≤ secondLater.seconds) →
          newYear.seconds / 2 ^ 31 ≠ secondLater.seconds / 2 ^ 31 → key ≠ key') := by
  have redated := redated_createdAfter newYear secondLater
  have free : (createdAfter newYear).IsWalkable true := by decide
  have civil : newYear.IsCivil := by decide
  have civil' : secondLater.IsCivil := by decide
  have different : newYear ≠ secondLater := by decide
  exact ⟨redated, free, civil, civil', different,
    key_eq_iff_cancel .standard .listByExpression redated free civil civil' different⟩

/-- Seconds and nanoseconds that change at once can leave the key as it was. -/
theorem newYear_shares_key_with_secondLater :
    Sections.ChangedAt true (Expression.Relabelled true (Redated newYear secondLater))
        (createdAfter newYear) (createdAfter secondLater) ∧
      (createdAfter newYear).IsWalkable true ∧ newYear.IsCivil ∧ secondLater.IsCivil ∧
      newYear ≠ secondLater ∧
      ∃ key, (createdAfter newYear).key .standard .listByExpression = .ok key ∧
        (createdAfter secondLater).key .standard .listByExpression = .ok key := by
  refine ⟨redated_createdAfter _ _, by decide, by decide, by decide, by decide, ?_⟩
  exact ⟨6133447069302694587, by decide +kernel, by decide +kernel⟩

end Fingerprint

end ResultCache
