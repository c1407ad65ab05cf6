import AsterxDriver.Sbf.Session

/-! # Frames on the wire

The bytes of a frame, and the scan of frames that follow one another without a
gap. -/

namespace AsterxDriver.Sbf

open Foundation ByteString

def wireBytes (frame : Frame) : List Byte :=
  [0x24, 0x40] ++ packU16le frame.crc.toNat ++ packU16le frame.rawId.toNat ++
    packU16le frame.length.toNat ++ frame.body

/-- The length field fits the body and the CRC is the right one. -/
structure Intact (frame : Frame) : Prop where
  valid : ValidLength frame.length.toNat
  size : 8 + frame.body.length = frame.length.toNat
  checked : crcCcittXmodem (packU16le frame.rawId.toNat ++
    packU16le frame.length.toNat ++ frame.body) = frame.crc

theorem length_wireBytes {frame : Frame} (intact : Intact frame) :
    (wireBytes frame).length = frame.length.toNat := by
  rw [← intact.size]
  simp only [wireBytes, List.length_append, List.length_cons, List.length_nil,
    length_packU16le]

theorem u16le_wireBytes (frame : Frame) (more : List Byte) :
    u16le (wireBytes frame ++ more) 2 = frame.crc.toNat ∧
      u16le (wireBytes frame ++ more) 4 = frame.rawId.toNat ∧
      u16le (wireBytes frame ++ more) 6 = frame.length.toNat :=
  ⟨u16le_packU16le _ [] frame.crc.isLt, u16le_packU16le _ [] frame.rawId.isLt,
    u16le_packU16le _ [] frame.length.isLt⟩

theorem slice_wireBytes {frame : Frame} (intact : Intact frame) (more : List Byte)
    (start : Nat) :
    slice (wireBytes frame ++ more) start frame.length.toNat =
      (wireBytes frame).drop start := by
  rw [slice, List.take_left' (length_wireBytes intact)]

/-- An intact frame is found at the front of its own bytes. -/
theorem frameAt_wireBytes {frame : Frame} (intact : Intact frame) (more : List Byte) :
    FrameAt (wireBytes frame ++ more) 0 frame where
  firstSync := rfl
  secondSync := rfl
  crc := (u16le_wireBytes frame more).1.symm
  rawId := (u16le_wireBytes frame more).2.1.symm
  length := (u16le_wireBytes frame more).2.2.symm
  body := by
    rw [Nat.zero_add, Nat.zero_add, slice_wireBytes intact]
    rfl
  valid := intact.valid
  complete := by
    rw [List.length_append, length_wireBytes intact]
    omega
  checked := by
    rw [Nat.zero_add, Nat.zero_add, slice_wireBytes intact]
    exact intact.checked

theorem verdict_wireBytes {frame : Frame} (intact : Intact frame) (more : List Byte) :
    verdict (wireBytes frame ++ more) = some (frame.length.toNat, .frame frame) :=
  verdict_frame_iff.mpr ⟨frameAt_wireBytes intact more, rfl⟩

/-! ## Frames of a stream -/

/-- A frame of a stream is intact, and its bytes are those of the stream. -/
theorem intact_of_frameAt {stream : List Byte} {offset : Nat} {frame : Frame}
    (present : FrameAt stream offset frame) :
    Intact frame ∧
      slice stream offset (offset + frame.length.toNat) = wireBytes frame := by
  have least := present.valid.least
  have complete := present.complete
  have sync : slice stream offset (offset + 2) = [0x24, 0x40] := by
    rw [← packU16le_u16le stream offset (by omega), u16le, present.firstSync,
      present.secondSync]
    rfl
  have crc : slice stream (offset + 2) (offset + 4) = packU16le frame.crc.toNat := by
    rw [present.crc, packU16le_u16le stream (offset + 2) (by omega)]
  have rawId : slice stream (offset + 4) (offset + 6) = packU16le frame.rawId.toNat := by
    rw [present.rawId, packU16le_u16le stream (offset + 4) (by omega)]
  have length : slice stream (offset + 6) (offset + 8) =
      packU16le frame.length.toNat := by
    rw [present.length, packU16le_u16le stream (offset + 6) (by omega)]
  have covered : slice stream (offset + 4) (offset + frame.length.toNat) =
      packU16le frame.rawId.toNat ++ packU16le frame.length.toNat ++ frame.body := by
    rw [← rawId, ← length, present.body,
      slice_append_slice stream (by omega) (by omega),
      slice_append_slice stream (by omega) (by omega)]
  refine ⟨⟨present.valid, ?_, by rw [← covered, present.checked]⟩, ?_⟩
  · rw [present.body, length_slice stream complete]
    omega
  · rw [← slice_append_slice stream (show offset ≤ offset + 4 by omega) (by omega),
      ← slice_append_slice stream (show offset ≤ offset + 2 by omega) (by omega),
      covered, sync, crc]
    simp only [wireBytes, List.append_assoc]

/-- Whatever a scan finds is intact. -/
theorem intact_of_mem_framesOf {stream : List Byte} {frame : Frame}
    (member : frame ∈ framesOf (scanner.tokens stream)) : Intact frame := by
  rw [← map_snd_locatedFrames] at member
  rcases List.mem_map.mp member with ⟨⟨offset, found⟩, located, rfl⟩
  exact (intact_of_frameAt (frameAt_of_mem_locatedFrames located)).1

/-! ## Frames without a gap -/

/-- The offsets of `frames` when each starts where the one before it ends. -/
def contiguous (start : Nat) : List Frame → List (Nat × Frame)
  | [] => []
  | frame :: later => (start, frame) :: contiguous (start + frame.length.toNat) later

theorem map_snd_contiguous (start : Nat) (frames : List Frame) :
    (contiguous start frames).map Prod.snd = frames := by
  induction frames generalizing start with
  | nil => rfl
  | cons frame later induction => rw [contiguous, List.map_cons, induction]

def frameToken (found : Nat × Frame) : Token Event :=
  ⟨found.1, found.2.length.toNat, .frame found.2⟩

/-- Scanning the bytes of intact frames finds exactly these. -/
theorem run_wireBytes {frames : List Frame} (intact : ∀ frame ∈ frames, Intact frame)
    (start : Nat) :
    scanner.run start (frames.flatMap wireBytes) =
      ((contiguous start frames).map frameToken, []) := by
  induction frames generalizing start with
  | nil => exact scanner.run_of_none start rfl
  | cons frame later induction =>
      have first := intact frame List.mem_cons_self
      have others := induction (fun other member =>
        intact other (List.mem_cons_of_mem _ member)) (start + frame.length.toNat)
      have decided : scanner.verdict (wireBytes frame ++ later.flatMap wireBytes) =
          some (frame.length.toNat, .frame frame) := verdict_wireBytes first _
      rw [List.flatMap_cons, scanner.run_of_some start decided,
        List.drop_left' (length_wireBytes first), others]
      rfl

theorem locatedFrames_frameTokens (located : List (Nat × Frame)) :
    locatedFrames (located.map frameToken) = located := by
  simp [locatedFrames, List.filterMap_map, Function.comp_def, frameToken, Event.frame?]

theorem length_flatMap_wireBytes {frames : List Frame}
    (intact : ∀ frame ∈ frames, Intact frame) :
    (frames.flatMap wireBytes).length =
      (frames.map fun frame => frame.length.toNat).sum := by
  rw [List.length_flatMap]
  congr 1
  exact List.map_congr_left fun frame member => length_wireBytes (intact frame member)

end AsterxDriver.Sbf
