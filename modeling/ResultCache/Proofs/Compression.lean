import ResultCache.Compression

/-!
Contract: compression is undone.

Owns:
- `Compressor.Lawful`, that the codecs of a compressor undo their own compression, which is
  all that is asked of them;
- what a frame is made of: the tag of the algorithm that the number of octets calls for, and
  what the algorithm makes of them;
- that the frames of an enabled compressor are read back by any enabled compressor with the
  same lawful codecs, whatever the settings of either, and that disabled ones do nothing;
- that a compressor of settings refuses nothing.

Does not own: bodies that no codec has written.
-/

namespace ResultCache

namespace Compression

/-- Expansion undoes compression at every level. -/
def BlockCodec.Lawful (codec : BlockCodec) : Prop :=
  ∀ level bytes body, codec.compress level bytes = some body → codec.expand body = some bytes

theorem BlockCodec.sealed_lawful : sealed.Lawful := sealed_expand_compress

theorem Algorithm.ofTag?_tag (algorithm : Algorithm) : ofTag? algorithm.tag = some algorithm := by
  cases algorithm <;> rfl

theorem Algorithm.tag_injective : Function.Injective tag := by
  intro first second same
  have read := (ofTag?_tag first).symm.trans ((congrArg ofTag? same).trans (ofTag?_tag second))
  exact Option.some.inj read

namespace Compressor

structure Lawful (compressor : Compressor) : Prop where
  lz4 : compressor.lz4.Lawful
  zstd : compressor.zstd.Lawful

theorem ofSettings_lawful (settings : Settings) : (ofSettings settings).Lawful :=
  ⟨BlockCodec.sealed_lawful, BlockCodec.sealed_lawful⟩

variable {compressor : Compressor}

theorem expand?_of_compress? (lawful : compressor.Lawful) {algorithm : Algorithm}
    {bytes body : Bytes} (compressed : compressor.compress? algorithm bytes = some body) :
    compressor.expand? algorithm body = some bytes := by
  cases algorithm with
  | none =>
      cases compressed
      rfl
  | lz4 => exact lawful.lz4 _ _ _ compressed
  | zstd => exact lawful.zstd _ _ _ compressed

/-- Expansion asks for the algorithm and the codecs alone. -/
theorem expand?_with_settings (settings : Settings) (algorithm : Algorithm) :
    expand? { compressor with settings } algorithm = compressor.expand? algorithm := by
  cases algorithm <;> rfl

/-! ### Frames -/

theorem encode_of_disabled (disabled : compressor.isEnabled = false) (bytes : Bytes) :
    compressor.encode bytes = .ok bytes := by
  unfold encode
  rw [if_neg (Bool.eq_false_iff.1 disabled)]

theorem decode_of_disabled (disabled : compressor.isEnabled = false) (stored : Bytes) :
    compressor.decode stored = .ok stored := by
  unfold decode
  rw [if_neg (Bool.eq_false_iff.1 disabled)]

/-- Below the least size octets are left as they are. -/
theorem algorithmFor_eq_none_iff (enabled : compressor.isEnabled = true) (size : Nat) :
    compressor.algorithmFor size = .none ↔ size < compressor.settings.leastSize := by
  unfold algorithmFor
  split
  · rename_i small
    exact iff_of_true rfl small
  · rename_i large
    exact iff_of_false (of_decide_eq_true enabled) large

/-- A frame is the tag of the algorithm for the number of octets, and what it makes of them. -/
theorem exists_body_of_encode (enabled : compressor.isEnabled = true) {bytes frame : Bytes}
    (encoded : compressor.encode bytes = .ok frame) :
    ∃ body, compressor.compress? (compressor.algorithmFor bytes.length) bytes = some body ∧
      frame = (compressor.algorithmFor bytes.length).tag :: body := by
  unfold encode at encoded
  rw [if_pos enabled] at encoded
  dsimp only at encoded
  cases compressed : compressor.compress? (compressor.algorithmFor bytes.length) bytes with
  | none =>
      rw [compressed] at encoded
      cases encoded
  | some body =>
      rw [compressed] at encoded
      cases encoded
      exact ⟨body, rfl, rfl⟩

/-- A frame is read by its tag. -/
theorem decode_cons_tag (enabled : compressor.isEnabled = true) {algorithm : Algorithm}
    {body bytes : Bytes} (expanded : compressor.expand? algorithm body = some bytes) :
    compressor.decode (algorithm.tag :: body) = .ok bytes := by
  unfold decode
  rw [if_pos enabled]
  dsimp only
  rw [Algorithm.ofTag?_tag]
  dsimp only
  rw [expanded]

/-- Octets stand unchanged behind a zero exactly when they are fewer than the least size. -/
theorem frame_eq_zero_cons_iff (enabled : compressor.isEnabled = true) {bytes frame : Bytes}
    (encoded : compressor.encode bytes = .ok frame) :
    frame = 0 :: bytes ↔ bytes.length < compressor.settings.leastSize := by
  obtain ⟨body, compressed, rfl⟩ := exists_body_of_encode enabled encoded
  rw [← algorithmFor_eq_none_iff enabled]
  constructor
  · intro same
    exact Algorithm.tag_injective (List.cons.inj same).1
  · intro none
    rw [none] at compressed ⊢
    cases compressed
    rfl

/-- A frame is read back as the octets that it was written for, by any enabled compressor with
the same codecs. -/
theorem decode_of_encode_of_enabled (lawful : compressor.Lawful)
    (enabled : compressor.isEnabled = true) (settings : Settings)
    (enabledToo : isEnabled { compressor with settings } = true) {bytes frame : Bytes}
    (encoded : compressor.encode bytes = .ok frame) :
    decode { compressor with settings } frame = .ok bytes := by
  obtain ⟨body, compressed, rfl⟩ := exists_body_of_encode enabled encoded
  apply decode_cons_tag enabledToo
  rw [expand?_with_settings]
  exact expand?_of_compress? lawful compressed

/-- What a compressor encodes it decodes. -/
theorem decode_of_encode (lawful : compressor.Lawful) {bytes frame : Bytes}
    (encoded : compressor.encode bytes = .ok frame) : compressor.decode frame = .ok bytes := by
  cases enabled : compressor.isEnabled with
  | true =>
      exact decode_of_encode_of_enabled lawful enabled compressor.settings enabled encoded
  | false =>
      obtain rfl := Except.ok.inj ((encode_of_disabled enabled bytes).symm.trans encoded)
      exact decode_of_disabled enabled bytes

/-- The compressor of some settings compresses everything. -/
theorem exists_ok_of_encode (settings : Settings) (bytes : Bytes) :
    ∃ frame, (ofSettings settings).encode bytes = .ok frame := by
  unfold encode
  split
  · dsimp only
    cases (ofSettings settings).algorithmFor bytes.length with
    | none | lz4 | zstd => exact ⟨_, rfl⟩
  · exact ⟨_, rfl⟩

end Compressor

end Compression

end ResultCache
