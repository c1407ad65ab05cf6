import AsterxDriver.Sbf.WireFrame

/-! # Burst errors

The CRC tells apart any two messages whose differing bits lie within sixteen
consecutive ones, so a frame damaged that way is never emitted. -/

namespace AsterxDriver.Sbf

open Foundation ByteString ShiftRegister

/-- The bits in the order in which the register takes them in. -/
def messageBits (data : List Byte) : List Bool :=
  data.flatMap fun byte => (List.range 8).map byte.getMsbD

theorem messageBits_cons (byte : Byte) (data : List Byte) :
    messageBits (byte :: data) = (List.range 8).map byte.getMsbD ++ messageBits data :=
  List.flatMap_cons

theorem messageBits_append (front back : List Byte) :
    messageBits (front ++ back) = messageBits front ++ messageBits back :=
  List.flatMap_append

theorem length_byteBits (byte : Byte) : ((List.range 8).map byte.getMsbD).length = 8 := by
  rw [List.length_map, List.length_range]

theorem length_messageBits (data : List Byte) : (messageBits data).length = 8 * data.length := by
  induction data with
  | nil => rfl
  | cons byte data induction =>
      rw [messageBits_cons, List.length_append, length_byteBits, induction, List.length_cons]
      omega

theorem messageBits_drop (data : List Byte) (count : Nat) :
    messageBits (data.drop count) = (messageBits data).drop (8 * count) := by
  induction data generalizing count with
  | nil => simp [messageBits]
  | cons byte data induction =>
      cases count with
      | zero => rfl
      | succ count =>
          have later : 8 * (count + 1) = ((List.range 8).map byte.getMsbD).length + 8 * count := by
            rw [length_byteBits]
            omega
          rw [List.drop_succ_cons, induction, messageBits_cons, later, List.drop_length_add_append]

theorem byte_eq_of_bits {left right : Byte}
    (equal : (List.range 8).map left.getMsbD = (List.range 8).map right.getMsbD) :
    left = right := by
  apply BitVec.eq_of_getMsbD_eq
  intro index bound
  exact List.map_inj_left.mp equal index (List.mem_range.mpr bound)

theorem eq_of_messageBits {left right : List Byte} (sameLength : left.length = right.length)
    (equal : messageBits left = messageBits right) : left = right := by
  induction left generalizing right with
  | nil => exact (List.eq_nil_of_length_eq_zero sameLength.symm).symm
  | cons first left induction =>
      cases right with
      | nil => cases sameLength
      | cons second right =>
          rw [messageBits_cons, messageBits_cons] at equal
          rcases List.append_inj equal (by rw [length_byteBits, length_byteBits]) with
            ⟨heads, tails⟩
          rw [byte_eq_of_bits heads, induction (Nat.succ.inj sameLength) tails]

/-! ## The CRC as a remainder -/

theorem crcTableStep_eq_remainder (crc : BitVec 16) (byte : Byte) :
    crcTableStep crc byte =
      remainder polynomial crc ((List.range 8).map byte.getMsbD) := by
  have bits : (List.range 8).map byte.getMsbD =
      (List.range 8).map (byte.setWidth 16 <<< 8).getMsbD := by
    apply List.map_congr_left
    intro index _
    rw [BitVec.getMsbD_shiftLeft, BitVec.getMsbD_setWidth]
    simp
  rw [bits, remainder_of_clear, crcTableStep_eq_iterate]
  intro index low
  rw [BitVec.getLsbD_shiftLeft]
  simp [show index < 8 by omega]

theorem foldl_crcTableStep_eq_remainder (crc : BitVec 16) (data : List Byte) :
    data.foldl crcTableStep crc = remainder polynomial crc (messageBits data) := by
  induction data generalizing crc with
  | nil => rfl
  | cons byte data induction =>
      rw [List.foldl_cons, induction, crcTableStep_eq_remainder, messageBits_cons, remainder,
        remainder, remainder, List.foldl_append]

theorem crcCcittXmodem_eq_remainder (data : List Byte) :
    crcCcittXmodem data = remainder polynomial 0#16 (messageBits data) :=
  foldl_crcTableStep_eq_remainder 0 data

/-! ## Bursts -/

/-- Two different messages of one length that agree outside of sixteen
consecutive bits. -/
structure Burst (left right : List Byte) : Prop where
  sameLength : left.length = right.length
  different : left ≠ right
  window : ∃ start, ∀ index, (messageBits left)[index]? ≠ (messageBits right)[index]? →
    start ≤ index ∧ index < start + 16

theorem Burst.crc_ne {left right : List Byte} (burst : Burst left right) :
    crcCcittXmodem left ≠ crcCcittXmodem right := by
  rcases burst.window with ⟨start, window⟩
  rw [crcCcittXmodem_eq_remainder, crcCcittXmodem_eq_remainder]
  apply remainder_ne_of_window (show polynomial.getLsbD 0 = true by rfl) ?_ ?_ window
  · rw [length_messageBits, length_messageBits, burst.sameLength]
  · intro equal
    exact burst.different (eq_of_messageBits burst.sameLength equal)

/-- The part two messages have in common can be left out. -/
theorem Burst.drop {left right : List Byte} (burst : Burst left right) {count : Nat}
    (same : left.take count = right.take count) :
    Burst (left.drop count) (right.drop count) where
  sameLength := by rw [List.length_drop, List.length_drop, burst.sameLength]
  different := by
    intro equal
    apply burst.different
    rw [← List.take_append_drop count left, same, equal, List.take_append_drop]
  window := by
    rcases burst.window with ⟨start, window⟩
    refine ⟨start - 8 * count, ?_⟩
    intro index differs
    rw [messageBits_drop, messageBits_drop, List.getElem?_drop, List.getElem?_drop] at differs
    have inside := window (8 * count + index) differs
    omega

/-- Any damage within two neighbouring bytes is a burst. -/
theorem Burst.of_two_bytes (front back : List Byte) {left right : List Byte}
    (leftSize : left.length = 2) (rightSize : right.length = 2) (different : left ≠ right) :
    Burst (front ++ left ++ back) (front ++ right ++ back) where
  sameLength := by simp [leftSize, rightSize]
  different := by
    intro equal
    rw [List.append_cancel_right_eq, List.append_cancel_left_eq] at equal
    exact different equal
  window := by
    refine ⟨(messageBits front).length, ?_⟩
    intro index differs
    have leftBits := length_messageBits left
    have rightBits := length_messageBits right
    rw [leftSize] at leftBits
    rw [rightSize] at rightBits
    rw [messageBits_append, messageBits_append, messageBits_append, messageBits_append] at differs
    by_contra outside
    apply differs
    by_cases before : index < (messageBits front).length
    · rw [List.append_assoc, List.append_assoc, List.getElem?_append_left before,
        List.getElem?_append_left before]
    · rw [List.getElem?_append_right (by rw [List.length_append]; omega),
        List.getElem?_append_right (by rw [List.length_append]; omega), List.length_append,
        List.length_append, leftBits, rightBits]

/-! ## Damaged frames -/

/-- What arrives in the place of `valid` when a burst hits its ID or its body. -/
structure BurstDamage (valid : Frame) (bytes : List Byte) : Prop where
  burst : Burst (wireBytes valid) bytes
  syncAndCrc : bytes.take 4 = (wireBytes valid).take 4
  lengthField : slice bytes 6 8 = slice (wireBytes valid) 6 8

/-- Any other ID in the place of the right one is such a damage. -/
theorem BurstDamage.of_rawId {valid : Frame} {rawId : BitVec 16} (other : rawId ≠ valid.rawId) :
    BurstDamage valid (wireBytes { valid with rawId := rawId }) where
  burst := by
    have different : packU16le valid.rawId.toNat ≠ packU16le rawId.toNat := by
      intro equal
      apply other
      apply BitVec.eq_of_toNat_eq
      exact (packU16le_inj valid.rawId.isLt rawId.isLt equal).symm
    have burst := Burst.of_two_bytes ([0x24, 0x40] ++ packU16le valid.crc.toNat)
      (packU16le valid.length.toNat ++ valid.body) rfl rfl different
    rw [← List.append_assoc, ← List.append_assoc] at burst
    exact burst
  syncAndCrc := rfl
  lengthField := rfl

theorem crc_drop_wireBytes {frame : Frame} (intact : Intact frame) :
    crcCcittXmodem ((wireBytes frame).drop 4) = frame.crc :=
  intact.checked

theorem take_wireBytes (frame : Frame) :
    (wireBytes frame).take 4 = [0x24, 0x40] ++ packU16le frame.crc.toNat := rfl

theorem crc_eq_of_take {left right : Frame}
    (same : (wireBytes left).take 4 = (wireBytes right).take 4) : left.crc = right.crc := by
  rw [take_wireBytes, take_wireBytes, List.append_cancel_left_eq] at same
  apply BitVec.eq_of_toNat_eq
  exact packU16le_inj left.crc.isLt right.crc.isLt same

/-- A frame with a right CRC is not what a burst makes of another one. -/
theorem BurstDamage.not_intact {valid frame : Frame} (validIntact : Intact valid)
    (damage : BurstDamage valid (wireBytes frame)) : ¬ Intact frame := by
  intro intact
  have covered := (damage.burst.drop damage.syncAndCrc.symm).crc_ne
  rw [crc_drop_wireBytes validIntact, crc_drop_wireBytes intact] at covered
  exact covered (crc_eq_of_take damage.syncAndCrc).symm

/-- No frame is found in a stream where a burst has hit one. -/
theorem BurstDamage.no_frameAt {valid : Frame} (validIntact : Intact valid)
    {stream : List Byte} {offset : Nat}
    (damage : BurstDamage valid (slice stream offset (offset + valid.length.toNat)))
    (frame : Frame) : ¬ FrameAt stream offset frame := by
  intro present
  rcases intact_of_frameAt present with ⟨intact, bytes⟩
  have least := present.valid.least
  have complete := present.complete
  have validLeast := validIntact.valid.least
  have sameLength : frame.length = valid.length := by
    have field := damage.lengthField
    rw [slice_slice stream (by omega), ← packU16le_u16le stream (offset + 6) (by omega),
      ← present.length] at field
    apply BitVec.eq_of_toNat_eq
    exact packU16le_inj frame.length.isLt valid.length.isLt field
  rw [← sameLength, bytes] at damage
  exact damage.not_intact validIntact intact

/-- The CRC tells any two messages apart that differ by a burst. So in any run no
emitted frame differs from a valid one by a burst in its ID or body, and nothing
is emitted where a valid frame arrives damaged that way. -/
theorem burst_errors_caught :
    (∀ left right, Burst left right → crcCcittXmodem left ≠ crcCcittXmodem right) ∧
      ∀ ops, ∃ session, Session.fresh.run ops = .ok session ∧
        ∃ located : List (Nat × Frame),
          located.map Prod.snd = session.emitted ∧
          located.Pairwise (fun first second =>
            first.1 + first.2.length.toNat ≤ second.1) ∧
          (∀ emitted ∈ located, FrameAt session.received emitted.1 emitted.2) ∧
          ∀ valid, Intact valid →
            (∀ emitted ∈ located, ¬ BurstDamage valid (wireBytes emitted.2)) ∧
            ∀ offset,
              BurstDamage valid
                (slice session.received offset (offset + valid.length.toNat)) →
              ∀ emitted ∈ located, emitted.1 ≠ offset := by
  constructor
  · intro left right burst
    exact burst.crc_ne
  · intro ops
    rcases Session.run_sound Session.sound_fresh ops with ⟨session, result, sound⟩
    have present : ∀ emitted ∈ locatedFrames (scanner.tokens session.received),
        FrameAt session.received emitted.1 emitted.2 := by
      rintro ⟨offset, frame⟩ member
      exact frameAt_of_mem_locatedFrames member
    refine ⟨session, result, locatedFrames (scanner.tokens session.received), ?_,
      locatedFrames_pairwise session.received, present, ?_⟩
    · rw [map_snd_locatedFrames, sound.emitted]
    · intro valid validIntact
      constructor
      · intro emitted member damage
        exact damage.not_intact validIntact (intact_of_frameAt (present emitted member)).1
      · intro offset damage emitted member here
        apply damage.no_frameAt validIntact emitted.2
        rw [← here]
        exact present emitted member

end AsterxDriver.Sbf
