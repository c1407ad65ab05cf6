import AsterxDriver.Foundation.Binary64
import AsterxDriver.Parser.MeasEpochEncode

/-! # The split of a MeasEpoch by antenna

The rows of one antenna, written as a block of their own and read back. -/

namespace AsterxDriver.Parser

open Foundation ByteString Sbf FloatArithmetic RoundedArithmetic

/-! ## Lost frequency numbers -/

/-- The encoder writes the frequency number of the signals 8 to 11 only, and
has no bits for an absent one. -/
def Identity.LosesFrequency (identity : Identity) : Prop :=
  (identity.signalType = 12 ∧ identity.glonassFreqNumber ≠ some (-8)) ∨
    (identity.signalType ∈ [8, 9, 10, 11] ∧ identity.glonassFreqNumber = none)

instance (identity : Identity) : Decidable identity.LosesFrequency :=
  inferInstanceAs (Decidable (_ ∨ _))

theorem readBackNumber_eq_iff {F : Type} {row : Row F} (valid : row.identity.Valid) :
    row.readBackNumber = row.glonassFreqNumber ↔ ¬row.identity.LosesFrequency := by
  have known : ∀ k, row.glonassFreqNumber = some k →
      (8 ≤ row.signalType ∧ row.signalType ≤ 12) ∧ -8 ≤ k ∧ k ≤ 23 := valid.glonassFreqNumber
  change _ ↔ ¬((row.signalType = 12 ∧ row.glonassFreqNumber ≠ some (-8)) ∨
    (row.signalType ∈ [8, 9, 10, 11] ∧ row.glonassFreqNumber = none))
  simp only [Row.readBackNumber, Row.infoNumber, List.mem_cons, List.not_mem_nil, or_false]
  by_cases glonass : 8 ≤ row.signalType ∧ row.signalType ≤ 12
  · rw [if_neg (by omega), if_neg (by omega)]
    by_cases l3 : row.signalType = 12
    · rw [if_neg (by omega)]
      simp [l3, eq_comm]
    · rw [if_pos (by omega)]
      cases number : row.glonassFreqNumber with
      | none => simp; omega
      | some k =>
          rcases known k number with ⟨_, low, high⟩
          simp [l3]
          omega
  · cases number : row.glonassFreqNumber with
    | none => simp; omega
    | some k => exact absurd (known k number).1 glonass

/-! ## Reading a rebuilt block back -/

/-- A rebuilt frame is read back where it is alone in its file. -/
theorem iterFrames_rebuilt {rawId : Nat} (bound : rawId < 65536) {body : List Byte}
    (small : 8 + body.length ≤ 8188) :
    iterFrames (wireBytes (rebuiltFrame rawId body)) =
      [ofDriver 0 (rebuiltFrame rawId body)] := by
  have intact : ∀ frame ∈ [rebuiltFrame rawId body], Intact frame := by
    intro frame member
    rw [List.mem_singleton.mp member]
    exact rebuiltFrame_intact bound small
  have read := iterFrames_wireBytes intact
  rwa [List.flatMap_cons, List.flatMap_nil, List.append_nil] at read

/-- The row agrees with the original on everything but the measured values. -/
def IdentityKept {F : Type} (again original : Row F) : Prop :=
  again.level = 1 ∧ again.identity = original.identity

theorem forall₂_identityKept_iff {F : Type} {again rows : List (Row F)}
    (levels : ∀ row ∈ again, row.level = 1) :
    List.Forall₂ IdentityKept again rows ↔ again.map Row.identity = rows.map Row.identity := by
  rw [← List.forall₂_eq_eq_eq, List.forall₂_map_left_iff, List.forall₂_map_right_iff]
  unfold IdentityKept
  rw [List.forall₂_and_left]
  exact and_iff_right levels

variable {F : Type} [RoundedArithmetic F]

/-- The rows of one antenna come back, in their order, from the rebuilt frame. -/
def SplitKeepsIdentity (F : Type) [RoundedArithmetic F] (frame : SbfFrame)
    (rawId antenna : Nat) : Prop :=
  ∃ rows : List (Row F), decodeMeasEpoch frame = .ok rows ∧
    ∃ body, buildMeasEpochBody ((rowsByAntenna rows).getD antenna []) = .ok body ∧
      ∃ bytes, rebuildSbfFrame rawId body = .ok bytes ∧
        ∃ alone, iterFrames bytes = [alone] ∧
          ∃ again : List (Row F), decodeMeasEpoch alone = .ok again ∧
            List.Forall₂ IdentityKept again ((rowsByAntenna rows).getD antenna [])

/-- Building succeeds for up to 255 rows, and the rows are read back from every
frame with this body. -/
theorem buildMeasEpochBody_readBack {header : EpochHeader} (valid : header.Valid)
    {rows : List (Row F)} (coherent : Coherent header rows) (nonempty : rows ≠ [])
    (few : rows.length ≤ 255) :
    ∃ body, buildMeasEpochBody rows = .ok body ∧ 8 + body.length ≤ 8188 ∧
      ∀ frame : SbfFrame, frame.body = padded body →
        ∃ again : List (Row F), decodeMeasEpoch frame = .ok again ∧
          again.map Row.identity = rows.map Row.readBack ∧
          ∀ row ∈ again, row.level = 1 := by
  rcases buildMeasEpochBody_ok valid coherent nonempty few with ⟨blocks, fits, identities, built⟩
  have count : blocks.length = rows.length := by
    simpa using congrArg List.length identities
  have length : (epochHeaderBytes header rows.length ++
      blocks.flatMap Type1Fields.block).length = 12 + 20 * rows.length := by
    rw [List.length_append, length_blocks, count]
    rfl
  refine ⟨_, built, by omega, fun frame same => ?_⟩
  have unpadded : frame.body = epochHeaderBytes header blocks.length ++
      blocks.flatMap Type1Fields.block := by
    rw [same, count]
    exact padded_of_mod (by omega)
  rcases decodeMeasEpoch_readBack (F := F) valid fits (by omega) frame unpadded with
    ⟨again, decoded, sameIdentities, levels⟩
  exact ⟨again, decoded, by rw [sameIdentities, identities], levels⟩

/-- Building, framing, reading and decoding all succeed for up to 255 rows. -/
theorem split_readBack {header : EpochHeader} (valid : header.Valid) {rows : List (Row F)}
    (coherent : Coherent header rows) (nonempty : rows ≠ []) (few : rows.length ≤ 255)
    {rawId : Nat} (bound : rawId < 65536) :
    ∃ body, buildMeasEpochBody rows = .ok body ∧
      ∃ bytes, rebuildSbfFrame rawId body = .ok bytes ∧
        ∃ alone, iterFrames bytes = [alone] ∧
          ∃ again : List (Row F), decodeMeasEpoch alone = .ok again ∧
            again.map Row.identity = rows.map Row.readBack ∧
            ∀ row ∈ again, row.level = 1 := by
  rcases buildMeasEpochBody_readBack valid coherent nonempty few with
    ⟨body, built, small, readBack⟩
  exact ⟨body, built, _, rebuildSbfFrame_ok bound small, _, iterFrames_rebuilt bound small,
    readBack _ rfl⟩

theorem splitKeepsIdentity_iff {frame : SbfFrame} {rows : List (Row F)}
    (decoded : decodeMeasEpoch frame = .ok rows)
    (coherent : Coherent (epochHeader frame.body) rows) {antenna : Nat}
    (some : 1 ≤ ((rowsByAntenna rows).getD antenna []).length)
    (few : ((rowsByAntenna rows).getD antenna []).length ≤ 255) {rawId : Nat}
    (bound : rawId < 65536) :
    SplitKeepsIdentity F frame rawId antenna ↔
      ∀ row ∈ (rowsByAntenna rows).getD antenna [], ¬row.identity.LosesFrequency := by
  have own := coherent.rowsByAntenna antenna
  rcases split_readBack (epochHeader_valid frame.body) own (List.ne_nil_of_length_pos some) few
      bound with ⟨body, built, bytes, rebuilt, alone, read, again, decodedAgain, same, levels⟩
  have computed : SplitKeepsIdentity F frame rawId antenna ↔
      List.Forall₂ IdentityKept again ((rowsByAntenna rows).getD antenna []) := by
    simp only [SplitKeepsIdentity, decoded, Except.ok.injEq, exists_eq_left', built, rebuilt,
      read, List.cons.injEq, and_true, decodedAgain]
  rw [computed, forall₂_identityKept_iff levels, same, List.map_inj_left]
  refine forall₂_congr fun row member => ?_
  rw [← readBackNumber_eq_iff (own row member).2.identity]
  simp [Row.readBack, Row.identity]

/-- For up to 255 rows of an antenna, the rebuilt block keeps the identity of all
of them exactly when none of them loses its frequency number. -/
theorem split_keeps_identity_iff (frame : SbfFrame) {rawId : Nat} (bound : rawId < 65536) :
    ∃ rows : List (Row F), decodeMeasEpoch frame = .ok rows ∧
      ∀ antenna, 1 ≤ ((rowsByAntenna rows).getD antenna []).length →
        ((rowsByAntenna rows).getD antenna []).length ≤ 255 →
        (SplitKeepsIdentity F frame rawId antenna ↔
          ∀ row ∈ (rowsByAntenna rows).getD antenna [], ¬row.identity.LosesFrequency) := by
  rcases decodeMeasEpoch_spec (F := F) frame with ⟨rows, decoded, coherent⟩
  exact ⟨rows, decoded, fun _ some few => splitKeepsIdentity_iff decoded coherent some few bound⟩

/-! ## Two blocks -/

theorem map_identity_rowsByAntenna {F : Type} {rows : List (Row F)} {identities : List Identity}
    (known : rows.map Row.identity = identities) (antenna : Nat) :
    ((rowsByAntenna rows).getD antenna []).map Row.identity =
      identities.filter (·.antennaId = antenna) := by
  rw [← known, List.filter_map, rowsByAntenna_eq_filter]
  rfl

/-- A MeasEpoch with one Type-1 sub-block and what follows it. -/
def oneSatelliteBody (typeByte obsInfo children : Byte) (rest : List Byte) : List Byte :=
  [0xE8, 0x03, 0, 0, 0xFC, 0x08, 1, 20, 12, 0, 0, 0,
    1, typeByte, 40, 4, 0x00, 0xC8, 0x17, 0xA8, 0x10, 0x27, 0, 0, 0x34, 0x12, 0, 120, 10, 0,
    obsInfo, children] ++ rest

def oneSatellite (typeByte obsInfo children : Byte) (rest : List Byte) : SbfFrame :=
  ofDriver 0 (rebuiltFrame 4027 (oneSatelliteBody typeByte obsInfo children rest))

/-- GLONASS L3 of the main antenna, with frequency number 1. -/
def glonassL3 : SbfFrame := oneSatellite 12 0x48 0 []

/-- GPS L1CA of the main antenna, with L2C in a Type-2 sub-block. -/
def gpsTwoSignals : SbfFrame :=
  oneSatellite 0 0x01 1 [3, 9, 100, 0x08, 0, 0x04, 0x20, 0x03, 0x11, 0, 0x05, 0]

/-- The decoder finds frequency number -8 in the rebuilt block. -/
theorem glonassL3_number_lost :
    ∃ rows : List (Row Binary64), decodeMeasEpoch glonassL3 = .ok rows ∧
      ((rowsByAntenna rows).getD 0 []).length = 1 ∧
      ¬SplitKeepsIdentity Binary64 glonassL3 4027 0 := by
  rcases decodeMeasEpoch_spec (F := Binary64) glonassL3 with ⟨rows, decoded, coherent⟩
  have evaluated : (decodeMeasEpoch glonassL3).map (List.map (Row.identity (F := Binary64))) =
      .ok [⟨1000, 2300, 1, 0, 40, 12, some 1, some 120, some 10, false, false, 0, 0⟩] := by
    decide +kernel
  rw [decoded] at evaluated
  have own := map_identity_rowsByAntenna (Except.ok.inj evaluated) 0
  have one : ((rowsByAntenna rows).getD 0 []).length = 1 := by
    rw [← List.length_map (f := Row.identity), own]
    rfl
  refine ⟨rows, decoded, one, fun kept => ?_⟩
  rw [splitKeepsIdentity_iff decoded coherent one.ge (by omega) (by norm_num)] at kept
  have all : ∀ identity ∈ ((rowsByAntenna rows).getD 0 []).map Row.identity,
      ¬identity.LosesFrequency := List.forall_mem_map.mpr kept
  rw [own] at all
  exact all _ (List.mem_singleton.mpr rfl) (by decide)

theorem gpsTwoSignals_kept : SplitKeepsIdentity Binary64 gpsTwoSignals 4027 0 := by
  rcases split_keeps_identity_iff (F := Binary64) gpsTwoSignals (show 4027 < 65536 by norm_num) with
    ⟨rows, decoded, kept⟩
  have evaluated : (decodeMeasEpoch gpsTwoSignals).map
      (List.map (Row.identity (F := Binary64))) =
      .ok [⟨1000, 2300, 1, 0, 40, 0, none, some 120, some 10, true, false, 0, 0⟩,
        ⟨1000, 2300, 1, 0, 40, 3, none, some 100, some 9, false, true, 0, 0⟩] := by
    decide +kernel
  rw [decoded] at evaluated
  have own := map_identity_rowsByAntenna (Except.ok.inj evaluated) 0
  have two : ((rowsByAntenna rows).getD 0 []).length = 2 := by
    rw [← List.length_map (f := Row.identity), own]
    rfl
  have all : ∀ identity ∈ ((rowsByAntenna rows).getD 0 []).map Row.identity,
      ¬identity.LosesFrequency := by
    rw [own]
    decide
  exact (kept 0 (by omega) (by omega)).mpr fun row member =>
    all row.identity (List.mem_map_of_mem member)

end AsterxDriver.Parser
