import AsterxDriver.Foundation.Scanner
import AsterxDriver.Sbf.FrameSync

/-! # The frames of a byte stream

What the synchronizer is for, said on byte strings alone: a stream is read from
the left, a complete frame with a matching CRC is taken as a whole, and
anything else is passed over one byte at a time. -/

namespace AsterxDriver.Sbf

open Foundation ByteString

structure ValidLength (length : Nat) : Prop where
  multiple : length % 4 = 0
  least : 8 ≤ length
  most : length ≤ 8188

instance (length : Nat) : Decidable (ValidLength length) :=
  decidable_of_iff (length % 4 = 0 ∧ 8 ≤ length ∧ length ≤ 8188)
    ⟨fun ⟨multiple, least, most⟩ => ⟨multiple, least, most⟩,
      fun ⟨multiple, least, most⟩ => ⟨multiple, least, most⟩⟩

/-- A complete frame with a matching CRC stands at `offset` of `stream`. -/
structure FrameAt (stream : List Byte) (offset : Nat) (frame : Frame) : Prop where
  firstSync : u8 stream offset = 0x24
  secondSync : u8 stream (offset + 1) = 0x40
  crc : frame.crc.toNat = u16le stream (offset + 2)
  rawId : frame.rawId.toNat = u16le stream (offset + 4)
  length : frame.length.toNat = u16le stream (offset + 6)
  body : frame.body = slice stream (offset + 8) (offset + frame.length.toNat)
  valid : ValidLength frame.length.toNat
  complete : offset + frame.length.toNat ≤ stream.length
  checked : crcCcittXmodem
    (slice stream (offset + 4) (offset + frame.length.toNat)) = frame.crc

inductive Event
  | junk
  | lengthInvalid
  | crcFailed
  | frame (frame : Frame)
  deriving DecidableEq, Repr

def Event.frame? : Event → Option Frame
  | .frame emitted => some emitted
  | _ => none

theorem Event.frame?_eq_some_iff {event : Event} {emitted : Frame} :
    event.frame? = some emitted ↔ event = .frame emitted := by
  cases event <;> simp [Event.frame?]

/-- The frame fields at the front of `input`. -/
def headFrame (input : List Byte) : Frame where
  crc := BitVec.ofNat 16 (u16le input 2)
  rawId := BitVec.ofNat 16 (u16le input 4)
  length := BitVec.ofNat 16 (u16le input 6)
  body := slice input 8 (u16le input 6)

def verdict (input : List Byte) : Option (Nat × Event) :=
  if input.length = 0 then none
  else if u8 input 0 ≠ 0x24 then some (1, .junk)
  else if input.length < 2 then none
  else if u8 input 1 ≠ 0x40 then some (1, .junk)
  else if input.length < 8 then none
  else if ¬ ValidLength (u16le input 6) then some (1, .lengthInvalid)
  else if input.length < u16le input 6 then none
  else if (crcCcittXmodem (slice input 4 (u16le input 6))).toNat ≠ u16le input 2 then
    some (1, .crcFailed)
  else some (u16le input 6, .frame (headFrame input))

theorem headFrame_append (input more : List Byte) (header : 8 ≤ input.length)
    (complete : u16le input 6 ≤ input.length) :
    headFrame (input ++ more) = headFrame input := by
  have at6 : u16le (input ++ more) 6 = u16le input 6 :=
    u16le_append_left input more (by omega)
  simp only [headFrame, at6]
  rw [u16le_append_left input more (by omega), u16le_append_left input more (by omega),
    slice_append_left input more complete]

theorem verdict_stable {input : List Byte} {decision : Nat × Event}
    (more : List Byte) (decided : verdict input = some decision) :
    verdict (input ++ more) = some decision := by
  by_cases empty : input.length = 0
  · simp [verdict, empty] at decided
  have nonempty : ¬ (input ++ more).length = 0 := by
    simp only [List.length_append]
    omega
  have at0 : u8 (input ++ more) 0 = u8 input 0 := u8_append_left input more (by omega)
  by_cases first : u8 input 0 ≠ 0x24
  · simp only [verdict, if_neg empty, if_neg nonempty, at0, if_pos first] at decided ⊢
    exact decided
  by_cases short : input.length < 2
  · simp [verdict, empty, first, short] at decided
  have long : ¬ (input ++ more).length < 2 := by
    simp only [List.length_append]
    omega
  have at1 : u8 (input ++ more) 1 = u8 input 1 := u8_append_left input more (by omega)
  by_cases second : u8 input 1 ≠ 0x40
  · simp only [verdict, if_neg empty, if_neg nonempty, at0, if_neg first, if_neg short,
      if_neg long, at1, if_pos second] at decided ⊢
    exact decided
  by_cases partialHeader : input.length < 8
  · simp [verdict, empty, first, short, second, partialHeader] at decided
  have header : ¬ (input ++ more).length < 8 := by
    simp only [List.length_append]
    omega
  have at6 : u16le (input ++ more) 6 = u16le input 6 :=
    u16le_append_left input more (by omega)
  by_cases invalid : ¬ ValidLength (u16le input 6)
  · simp only [verdict, if_neg empty, if_neg nonempty, at0, if_neg first, if_neg short,
      if_neg long, at1, if_neg second, if_neg partialHeader, if_neg header, at6,
      if_pos invalid] at decided ⊢
    exact decided
  by_cases partialBody : input.length < u16le input 6
  · simp [verdict, empty, first, short, second, partialHeader, invalid, partialBody]
      at decided
  have complete : ¬ (input ++ more).length < u16le input 6 := by
    simp only [List.length_append]
    omega
  have at2 : u16le (input ++ more) 2 = u16le input 2 :=
    u16le_append_left input more (by omega)
  have covered : slice (input ++ more) 4 (u16le input 6) = slice input 4 (u16le input 6) :=
    slice_append_left input more (by omega)
  simp only [verdict, if_neg empty, if_neg nonempty, at0, if_neg first, if_neg short,
    if_neg long, at1, if_neg second, if_neg partialHeader, if_neg header, at6,
    if_neg invalid, if_neg partialBody, if_neg complete, at2, covered,
    headFrame_append input more (by omega) (by omega)] at decided ⊢
  exact decided

/-- What a decision says about the input; one case for each way of deciding. -/
theorem verdict_cases {input : List Byte} {size : Nat} {event : Event}
    (decided : verdict input = some (size, event)) :
    (size = 1 ∧ event = .junk ∧ 0 < input.length ∧
        (u8 input 0 ≠ 0x24 ∨ 1 < input.length ∧ u8 input 1 ≠ 0x40)) ∨
    (u8 input 0 = 0x24 ∧ u8 input 1 = 0x40 ∧ 8 ≤ input.length ∧
      ((size = 1 ∧ event = .lengthInvalid ∧ ¬ ValidLength (u16le input 6)) ∨
      (ValidLength (u16le input 6) ∧ u16le input 6 ≤ input.length ∧
        ((size = 1 ∧ event = .crcFailed ∧
          (crcCcittXmodem (slice input 4 (u16le input 6))).toNat ≠ u16le input 2) ∨
        (size = u16le input 6 ∧ event = .frame (headFrame input) ∧
          (crcCcittXmodem (slice input 4 (u16le input 6))).toNat = u16le input 2))))) := by
  unfold verdict at decided
  split_ifs at decided with empty first short second partialHeader valid partialBody crc
  · cases decided
    exact .inl ⟨rfl, rfl, by omega, .inl first⟩
  · cases decided
    exact .inl ⟨rfl, rfl, by omega, .inr ⟨by omega, second⟩⟩
  · cases decided
    exact .inr ⟨by omega, by omega, by omega,
      .inr ⟨valid, by omega, .inl ⟨rfl, rfl, crc⟩⟩⟩
  · cases decided
    exact .inr ⟨by omega, by omega, by omega,
      .inr ⟨valid, by omega, .inr ⟨rfl, rfl, not_not.mp crc⟩⟩⟩
  · cases decided
    exact .inr ⟨by omega, by omega, by omega, .inl ⟨rfl, rfl, valid⟩⟩

def scanner : Scanner Byte Event where
  verdict := verdict
  positive := by
    intro input size event decided
    rcases verdict_cases decided with ⟨one, _⟩ |
      ⟨_, _, _, ⟨one, _⟩ | ⟨valid, _, ⟨one, _⟩ | ⟨whole, _⟩⟩⟩
    · omega
    · omega
    · omega
    · have := valid.least
      omega
  bounded := by
    intro input size event decided
    rcases verdict_cases decided with ⟨one, _, nonempty, _⟩ |
      ⟨_, _, header, ⟨one, _⟩ | ⟨_, complete, ⟨one, _⟩ | ⟨whole, _⟩⟩⟩ <;> omega
  stable := fun more decided => verdict_stable more decided

@[simp] theorem scanner_verdict (input : List Byte) :
    scanner.verdict input = verdict input := rfl

/-- Only a frame is consumed as a whole. -/
theorem size_eq_one {input : List Byte} {size : Nat} {event : Event}
    (decided : verdict input = some (size, event)) (skipped : event.frame? = none) :
    size = 1 := by
  rcases verdict_cases decided with ⟨one, _⟩ |
    ⟨_, _, _, ⟨one, _⟩ | ⟨_, _, ⟨one, _⟩ | ⟨_, frame, _⟩⟩⟩
  · exact one
  · exact one
  · exact one
  · rw [frame] at skipped
    cases skipped

/-- What the scanner can be waiting for. -/
theorem verdict_none_cases {input : List Byte} (waiting : verdict input = none) :
    input.length = 0 ∨ (0 < input.length ∧ u8 input 0 = 0x24 ∧
      (input.length = 1 ∨ (1 < input.length ∧ u8 input 1 = 0x40 ∧
        (input.length < 8 ∨ (8 ≤ input.length ∧ ValidLength (u16le input 6) ∧
          input.length < u16le input 6))))) := by
  unfold verdict at waiting
  split_ifs at waiting with empty first short second partialHeader valid partialBody
  · exact .inl empty
  · exact .inr ⟨by omega, by omega, .inl (by omega)⟩
  · exact .inr ⟨by omega, by omega, .inr ⟨by omega, by omega, .inl partialHeader⟩⟩
  · exact .inr ⟨by omega, by omega, .inr ⟨by omega, by omega,
      .inr ⟨by omega, valid, partialBody⟩⟩⟩

/-- The scanner never waits for more than one frame of the largest size. -/
theorem length_of_waiting {input : List Byte} (waiting : verdict input = none) :
    input.length ≤ 8187 := by
  rcases verdict_none_cases waiting with empty |
    ⟨_, _, one | ⟨_, _, header | ⟨_, valid, body⟩⟩⟩
  · omega
  · omega
  · omega
  · have := valid.most
    omega

/-! ## Frames and verdicts -/

theorem headFrame_eq_of_frameAt {stream : List Byte} {offset : Nat} {frame : Frame}
    (present : FrameAt stream offset frame) :
    headFrame (stream.drop offset) = frame := by
  have length : u16le stream (offset + 6) = frame.length.toNat := present.length.symm
  cases frame with
  | mk crc rawId len body =>
      simp only [headFrame, u16le_drop, slice_drop, Frame.mk.injEq]
      refine ⟨?_, ?_, ?_, ?_⟩
      · apply BitVec.eq_of_toNat_eq
        simpa using present.crc.symm
      · apply BitVec.eq_of_toNat_eq
        simpa using present.rawId.symm
      · apply BitVec.eq_of_toNat_eq
        simpa using length
      · rw [length]
        exact present.body.symm

/-- The scanner takes a frame exactly where a frame stands. -/
theorem verdict_frame_iff {stream : List Byte} {offset size : Nat} {frame : Frame} :
    verdict (stream.drop offset) = some (size, .frame frame) ↔
      FrameAt stream offset frame ∧ size = frame.length.toNat := by
  constructor
  · intro decided
    rcases verdict_cases decided with ⟨_, impossible, _⟩ |
      ⟨first, second, header, ⟨_, impossible, _⟩ |
        ⟨valid, complete, ⟨_, impossible, _⟩ | ⟨whole, event, crc⟩⟩⟩
    · cases impossible
    · cases impossible
    · cases impossible
    · cases event
      simp only [u8_drop, u16le_drop, slice_drop, List.length_drop, Nat.add_zero]
        at first second header valid complete whole crc
      have lengthField : (headFrame (stream.drop offset)).length.toNat =
          u16le stream (offset + 6) := by simp [headFrame]
      refine ⟨?_, by rw [lengthField, whole]⟩
      exact
        { firstSync := first
          secondSync := second
          crc := by simp [headFrame]
          rawId := by simp [headFrame]
          length := lengthField
          body := by
            rw [lengthField]
            simp [headFrame, slice_drop]
          valid := by rwa [lengthField]
          complete := by
            rw [lengthField]
            omega
          checked := by
            rw [lengthField]
            apply BitVec.eq_of_toNat_eq
            simpa [headFrame] using crc }
  · rintro ⟨present, rfl⟩
    have least := present.valid.least
    have complete := present.complete
    have length : u16le stream (offset + 6) = frame.length.toNat := present.length.symm
    have crc : u16le stream (offset + 2) = frame.crc.toNat := present.crc.symm
    simp only [verdict, headFrame_eq_of_frameAt present, u8_drop, u16le_drop,
      slice_drop, List.length_drop, Nat.add_zero, length, crc, present.firstSync,
      present.secondSync, present.checked]
    rw [if_neg (by omega), if_neg (by simp), if_neg (by omega), if_neg (by simp),
      if_neg (by omega), if_neg (not_not.mpr present.valid), if_neg (by omega),
      if_neg (by simp)]

theorem frameAt_of_token {stream : List Byte} {token : Token Event} {frame : Frame}
    (member : token ∈ scanner.tokens stream) (event : token.event = .frame frame) :
    FrameAt stream token.start frame ∧ token.size = frame.length.toNat := by
  have decided := (scanner.verdict_of_mem 0 stream token member).2.2
  rw [Nat.sub_zero, event] at decided
  exact verdict_frame_iff.mp decided

/-- Tokens that are frames, in stream order. -/
def framesOf (tokens : List (Token Event)) : List Frame :=
  tokens.filterMap fun token => token.event.frame?

@[simp] theorem framesOf_nil : framesOf [] = [] := rfl

theorem frame?_of_framesOf_nil {tokens : List (Token Event)} (quiet : framesOf tokens = [])
    {token : Token Event} (member : token ∈ tokens) : token.event.frame? = none :=
  List.filterMap_eq_nil_iff.mp quiet token member

@[simp] theorem framesOf_append (front back : List (Token Event)) :
    framesOf (front ++ back) = framesOf front ++ framesOf back :=
  List.filterMap_append

end AsterxDriver.Sbf
