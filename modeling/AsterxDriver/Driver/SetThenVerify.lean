import AsterxDriver.Driver.ReceiverConfig
import AsterxDriver.Foundation.Checked
import AsterxDriver.Foundation.TextFields

/-! # Setting and verifying

The numbers that a set command sends against the reply to the get command that
follows it, with exact numbers. -/

namespace AsterxDriver.Driver

open Foundation

/-! ## Replies -/

structure IsField (field : Text) : Prop where
  tight : Tight isSpace field
  oneField : ',' ∉ field

/-- The key and the values between commas. There may be blanks anywhere but in
front of the comma that belongs to the key. -/
def IsConfigLine (key : Text) (values : List Text) (line : Text) : Prop :=
  ∃ indent parts, (∀ char ∈ indent, isSpace char = true) ∧
    List.Forall₂ (Padded isSpace) values parts ∧
    line = indent ++ (key ++ ",".toList ++ join parts ',')

/-- The first line that is taken for the key holds the values. -/
def ReportsLine (key : Text) (values : List Text) (reply : Text) : Prop :=
  ∃ (earlier : List Text) (line rest : Text),
    (∀ other ∈ earlier, '\n' ∉ other ∧ startsWithCi (trim other) (key ++ ",".toList) = false) ∧
    IsConfigLine key values line ∧ '\n' ∉ line ∧ (rest = [] ∨ ∃ later, rest = '\n' :: later) ∧
    reply = earlier.flatMap (· ++ ['\n']) ++ (line ++ rest)

theorem startsWithCi_append (start later : Text) : startsWithCi (start ++ later) start = true := by
  rw [startsWithCi, if_neg (by simp), List.take_left]
  exact beq_self_eq_true _

theorem findPayload_append {start : Text} {earlier : List Text}
    (skipped : ∀ line ∈ earlier, startsWithCi (trim line) start = false) (lines : List Text) :
    findPayload start (earlier ++ lines) = findPayload start lines := by
  induction earlier with
  | nil => rfl
  | cons line earlier induction =>
      rw [List.cons_append, findPayload, skipped line List.mem_cons_self,
        if_neg Bool.false_ne_true]
      exact induction fun line member => skipped line (List.mem_cons_of_mem _ member)

theorem map_trim_padded {values parts : List Text} (fields : ∀ value ∈ values, IsField value)
    (padded : List.Forall₂ (Padded isSpace) values parts) : parts.map trim = values := by
  induction padded with
  | nil => rfl
  | @cons value part values parts first rest induction =>
      rw [List.map_cons, induction fun value member => fields value (List.mem_cons_of_mem _ member),
        trim, first.strip (fields value List.mem_cons_self).tight]

theorem clean_of_padded {values parts : List Text} (fields : ∀ value ∈ values, IsField value)
    (padded : List.Forall₂ (Padded isSpace) values parts) :
    ∀ part ∈ parts, ',' ∉ part ∧ part ≠ [] := by
  induction padded with
  | nil => simp
  | @cons value part values parts first rest induction =>
      have field := fields value List.mem_cons_self
      rw [List.forall_mem_cons]
      exact ⟨⟨first.not_mem (by decide) field.oneField, first.nonempty field.tight⟩,
        induction fun value member => fields value (List.mem_cons_of_mem _ member)⟩

theorem split_join {values parts : List Text} (fields : ∀ value ∈ values, IsField value)
    (padded : List.Forall₂ (Padded isSpace) values parts) :
    split (join parts ',') ',' = values := by
  rw [split, join, getlines_intercalate (clean_of_padded fields padded),
    map_trim_padded fields padded]

/-- Trimming takes blanks from the ends of the first and of the last part only. -/
theorem split_trim_join {values parts : List Text} (fields : ∀ value ∈ values, IsField value)
    (nonempty : values ≠ []) (padded : List.Forall₂ (Padded isSpace) values parts) :
    split (trim (join parts ',')) ',' = values := by
  have tight : ∀ value ∈ values, Tight isSpace value :=
    fun value member => (fields value member).tight
  rcases exists_dropWhile_intercalate ',' tight padded with ⟨started, startedPadded, dropped⟩
  rcases exists_rdropWhile_intercalate ',' tight nonempty startedPadded
    with ⟨finished, finishedPadded, -, finishedDropped⟩
  rw [trim, join, dropped, finishedDropped]
  exact split_join fields finishedPadded

theorem trim_configLine {key line : Text} {values : List Text} (solid : Tight isSpace key)
    (fields : ∀ value ∈ values, IsField value) (nonempty : values ≠ [])
    (isLine : IsConfigLine key values line) :
    ∃ parts, List.Forall₂ (Padded isSpace) values parts ∧
      trim line = key ++ ",".toList ++ join parts ',' := by
  rcases isLine with ⟨indent, parts, blank, padded, rfl⟩
  rcases exists_rdropWhile_intercalate ',' (fun value member => (fields value member).tight)
    nonempty padded with ⟨finished, finishedPadded, finishedNonempty, dropped⟩
  refine ⟨finished, finishedPadded, ?_⟩
  rw [trim, List.dropWhile_append_of_pos blank, List.append_assoc key, solid.dropWhile_append,
    ← List.append_assoc key, rdropWhile_append, join, dropped, if_neg finishedNonempty, join]

theorem getlines_reply {line rest : Text} (oneLine : '\n' ∉ line) (nonempty : line ≠ [])
    (ends : rest = [] ∨ ∃ later, rest = '\n' :: later) :
    ∃ lines, getlines '\n' (line ++ rest) = line :: lines := by
  rcases ends with rfl | ⟨later, rfl⟩
  · refine ⟨[], ?_⟩
    rw [List.append_nil, getlines_single oneLine nonempty]
  · exact ⟨getlines '\n' later, getlines_append_cons oneLine later⟩

/-- The values of the line are what the verifying functions look at. -/
theorem ReportsLine.split_payload {key reply : Text} {values : List Text}
    (reports : ReportsLine key values reply) (solid : Tight isSpace key)
    (fields : ∀ value ∈ values, IsField value) (nonempty : values ≠ []) :
    ∃ payload, findConfigLinePayload reply key = .ok payload ∧ split payload ',' = values := by
  rcases reports with ⟨earlier, line, rest, others, isLine, oneLine, ends, rfl⟩
  rcases trim_configLine solid fields nonempty isLine with ⟨parts, padded, trimmed⟩
  have lineNonempty : line ≠ [] := by
    rcases isLine with ⟨indent, parts, -, -, rfl⟩
    simp
  rcases getlines_reply oneLine lineNonempty ends with ⟨lines, getlinesLine⟩
  have found : findPayload (key ++ ",".toList) (line :: lines) =
      some (trim (join parts ',')) := by
    rw [findPayload, trimmed, startsWithCi_append, if_pos rfl, List.drop_left]
  refine ⟨trim (join parts ','), ?_, split_trim_join fields nonempty padded⟩
  rw [findConfigLinePayload, getlines_flatMap_append fun other member => (others other member).1,
    findPayload_append fun other member => (others other member).2, getlinesLine, found]

/-! ## Numbers -/

/-- The field is a number close to the requested one. -/
def Matches (field : Text) (requested : ℚ) : Prop :=
  ∃ number, extractDecimal (trim field) = some number ∧ |number - requested| ≤ 1 / 1000

theorem IsField.trim_eq {field : Text} (isField : IsField field) : trim field = field := by
  rw [trim, isField.tight.start, isField.tight.finish]

theorem IsField.of_forall {field : Text} (nonempty : field ≠ [])
    (solid : ∀ char ∈ field, isSpace char = false ∧ char ≠ ',') : IsField field where
  tight := Tight.of_forall nonempty fun char member => (solid char member).1
  oneField := fun member => (solid ',' member).2 rfl

theorem solid_of_never (P : Char → Bool) {char : Char} (holds : P char = true)
    (never : [' ', '\t', '\n', '\x0b', '\x0c', '\r', ','].all (fun other => !P other) = true) :
    isSpace char = false ∧ char ≠ ',' := by
  have notMember : char ∉ [' ', '\t', '\n', '\x0b', '\x0c', '\r', ','] := by
    intro member
    have fails := List.all_eq_true.mp never char member
    rw [holds] at fails
    cases fails
  simpa [isSpace, and_assoc] using notMember

theorem fmtCommandDecimal_eq (value : ℚ) :
    fmtCommandDecimal value = printFixed 3 (if |value| < 5 / 10000 then 0 else value) := by
  change printFixed 3 (if decide (|value| < 5 / 10000) = true then 0 else value) = _
  simp only [decide_eq_true_eq]

theorem isField_fmtCommandDecimal (value : ℚ) : IsField (fmtCommandDecimal value) := by
  rw [fmtCommandDecimal_eq]
  refine IsField.of_forall (printFixed_ne_nil _ _) ?_
  intro char member
  rcases mem_printFixed member with digit | rfl | rfl
  · exact solid_of_never Char.isDigit digit (by decide)
  · decide
  · decide

/-- What is sent is within the tolerance: setting a small number to zero and
rounding to three decimals lose at most half of it each. -/
theorem matches_fmtCommandDecimal (value : ℚ) : Matches (fmtCommandDecimal value) value := by
  have snapped : |(if |value| < 5 / 10000 then 0 else value) - value| ≤ 5 / 10000 := by
    split
    · rw [zero_sub, abs_neg]
      exact le_of_lt ‹_›
    · rw [sub_self, abs_zero]
      norm_num
  have printed := abs_printed_sub_le 3 (if |value| < 5 / 10000 then 0 else value)
  rw [Matches, (isField_fmtCommandDecimal value).trim_eq, fmtCommandDecimal_eq,
    extractDecimal_printFixed (by norm_num)]
  refine ⟨_, rfl, (abs_sub_le _ (if |value| < 5 / 10000 then 0 else value) _).trans ?_⟩
  norm_num at printed snapped ⊢
  linarith

theorem closeEnough_iff (a b : ℚ) : closeEnough a b = true ↔ |a - b| ≤ 1 / 1000 :=
  decide_eq_true_iff

theorem parseDoublePrefix_ok_iff (field name : Text) (number : ℚ) :
    parseDoublePrefix field name = .ok number ↔ extractDecimal (trim field) = some number := by
  have extract : DecimalArithmetic.extract (trim field) = extractDecimal (trim field) := rfl
  rw [parseDoublePrefix, extract]
  cases extractDecimal (trim field) with
  | none => simp
  | some other => simp

theorem unless_ok_iff {refused : Prop} [Decidable refused] (error : ConfigError) :
    (if refused then .error error else pure () : Except ConfigError Unit) = .ok () ↔
      ¬refused := by
  split
  · simp [*]
  · simp [*]

theorem compareThree_ok_iff (x y z nameX nameY nameZ : Text) (expected : Vec3 ℚ)
    (error : ConfigError) :
    (do
      let actualX : ℚ ← parseDoublePrefix x nameX
      let actualY : ℚ ← parseDoublePrefix y nameY
      let actualZ : ℚ ← parseDoublePrefix z nameZ
      if ¬closeEnough actualX expected.x ∨ ¬closeEnough actualY expected.y ∨
          ¬closeEnough actualZ expected.z then
        .error error : Except ConfigError Unit) = .ok () ↔
      List.Forall₂ Matches [x, y, z] [expected.x, expected.y, expected.z] := by
  simp only [Checked.bind_eq_ok, parseDoublePrefix_ok_iff, unless_ok_iff, closeEnough_iff,
    Matches, List.forall₂_cons, List.Forall₂.nil, and_true, not_or, not_not]
  constructor
  · rintro ⟨actualX, readX, actualY, readY, actualZ, readZ, closeX, closeY, closeZ⟩
    exact ⟨⟨actualX, readX, closeX⟩, ⟨actualY, readY, closeY⟩, ⟨actualZ, readZ, closeZ⟩⟩
  · rintro ⟨⟨actualX, readX, closeX⟩, ⟨actualY, readY, closeY⟩, ⟨actualZ, readZ, closeZ⟩⟩
    exact ⟨actualX, readX, actualY, readY, actualZ, readZ, closeX, closeY, closeZ⟩

theorem verifyInsAntLeverArmReply_ok_iff {reply payload x y z : Text}
    (found : findConfigLinePayload reply "INSAntLeverArm".toList = .ok payload)
    (fields : split payload ',' = [x, y, z]) (expected : Vec3 ℚ) :
    verifyInsAntLeverArmReply reply expected = .ok () ↔
      List.Forall₂ Matches [x, y, z] [expected.x, expected.y, expected.z] := by
  have enough : ¬[x, y, z].length < 3 := by simp
  rw [verifyInsAntLeverArmReply, found, Checked.ok_bind]
  simp only [fields, if_neg enough]
  exact compareThree_ok_iff x y z _ _ _ expected _

theorem verifyAttitudeOffsetReply_ok_iff {reply payload heading pitch : Text}
    (found : findConfigLinePayload reply "AttitudeOffset".toList = .ok payload)
    (fields : split payload ',' = [heading, pitch]) (expected : AttitudeOffset ℚ) :
    verifyAttitudeOffsetReply reply expected = .ok () ↔
      List.Forall₂ Matches [heading, pitch] [expected.headingDeg, expected.pitchDeg] := by
  have enough : ¬[heading, pitch].length < 2 := by simp
  rw [verifyAttitudeOffsetReply, found, Checked.ok_bind]
  simp only [fields, if_neg enough, List.getD_cons_zero, List.getD_cons_succ,
    Checked.bind_eq_ok, parseDoublePrefix_ok_iff, unless_ok_iff, closeEnough_iff, Matches,
    List.forall₂_cons, List.Forall₂.nil, and_true, not_or, not_not]
  constructor
  · rintro ⟨actualHeading, readHeading, actualPitch, readPitch, closeHeading, closePitch⟩
    exact ⟨⟨actualHeading, readHeading, closeHeading⟩, ⟨actualPitch, readPitch, closePitch⟩⟩
  · rintro ⟨⟨actualHeading, readHeading, closeHeading⟩, ⟨actualPitch, readPitch, closePitch⟩⟩
    exact ⟨actualHeading, readHeading, actualPitch, readPitch, closeHeading, closePitch⟩

theorem verifyImuOrientationReply_ok_iff {reply payload mode x y z : Text}
    {settings : ReceiverSettings ℚ}
    (withAngles : equalsCi settings.imuOrientationMode "SensorDefault".toList = false)
    (found : findConfigLinePayload reply "IMUOrientation".toList = .ok payload)
    (fields : split payload ',' = [mode, x, y, z]) :
    verifyImuOrientationReply reply settings = .ok () ↔
      equalsCi mode settings.imuOrientationMode = true ∧
        List.Forall₂ Matches [x, y, z]
          [settings.thetaXDeg, settings.thetaYDeg, settings.thetaZDeg] := by
  have enough : ¬[mode, x, y, z].length < 4 := by simp
  rw [verifyImuOrientationReply, found, Checked.ok_bind]
  simp only [fields, withAngles, if_neg enough, List.getD_cons_zero, List.cons_ne_nil, if_false,
    Bool.false_eq_true]
  by_cases sameMode : equalsCi mode settings.imuOrientationMode = true
  · simp only [sameMode, not_true, if_false, true_and]
    exact compareThree_ok_iff x y z _ _ _
      ⟨settings.thetaXDeg, settings.thetaYDeg, settings.thetaZDeg⟩ _
  · simp [sameMode]

/-! ## Commands and replies -/

/-- The texts and numbers that a command sends. -/
def Sends (command name : Text) (lead : List Text) (requested : List ℚ) : Prop :=
  command = name ++ (lead ++ requested.map fmtCommandDecimal).flatMap (", ".toList ++ ·)

structure Verifies (verify : Text → Except ConfigError Unit) (key : Text) (lead : List Text)
    (requested : List ℚ) : Prop where
  accepts : ∀ reply, ReportsLine key (lead ++ requested.map fmtCommandDecimal) reply →
    verify reply = .ok ()
  rejects : ∀ reply shown numerals, shown.length = lead.length →
    numerals.length = requested.length → (∀ field ∈ shown ++ numerals, IsField field) →
    ReportsLine key (shown ++ numerals) reply →
    (∃ pair ∈ numerals.zip requested, ∃ number,
      extractDecimal pair.1 = some number ∧ 1 / 1000 < |number - pair.2|) →
    ∃ error, verify reply = .error error

/-- Verifying is a comparison of the fields, one by one. -/
theorem Verifies.of_ok_iff {verify : Text → Except ConfigError Unit} {key : Text}
    {lead : List Text} {requested : List ℚ} (solid : Tight isSpace key)
    (leadFields : ∀ field ∈ lead, IsField field) (nonempty : requested ≠ [])
    (ok_iff : ∀ {reply payload shown numerals},
      findConfigLinePayload reply key = .ok payload →
      split payload ',' = shown ++ numerals → shown.length = lead.length →
      numerals.length = requested.length →
      (verify reply = .ok () ↔ shown.map lowerCopy = lead.map lowerCopy ∧
        List.Forall₂ Matches numerals requested)) :
    Verifies verify key lead requested where
  accepts := by
    intro reply reports
    have fields : ∀ field ∈ lead ++ requested.map fmtCommandDecimal, IsField field := by
      intro field member
      rcases List.mem_append.mp member with inLead | inRequested
      · exact leadFields field inLead
      · rcases List.mem_map.mp inRequested with ⟨value, -, rfl⟩
        exact isField_fmtCommandDecimal value
    have allMatch : List.Forall₂ Matches (requested.map fmtCommandDecimal) requested := by
      rw [List.forall₂_map_left_iff, List.forall₂_same]
      exact fun value _ => matches_fmtCommandDecimal value
    rcases reports.split_payload solid fields (by simp [nonempty])
      with ⟨payload, found, payloadFields⟩
    exact (ok_iff found payloadFields rfl (List.length_map _)).mpr ⟨rfl, allMatch⟩
  rejects := by
    rintro reply shown numerals shownLength numeralsLength fields reports
      ⟨⟨numeral, value⟩, pairMember, number, read, far⟩
    have someNumeral : shown ++ numerals ≠ [] := by
      intro noFields
      rw [(List.append_eq_nil_iff.mp noFields).2] at pairMember
      cases pairMember
    rcases reports.split_payload solid fields someNumeral with ⟨payload, found, payloadFields⟩
    cases verified : verify reply with
    | error error => exact ⟨error, rfl⟩
    | ok done =>
        have allMatch :=
          ((ok_iff found payloadFields shownLength numeralsLength).mp verified).2
        rcases (List.forall₂_iff_zip.mp allMatch).2 pairMember with ⟨other, otherRead, close⟩
        have isField := fields numeral
          (List.mem_append_right _ (List.of_mem_zip pairMember).1)
        rw [isField.trim_eq, read] at otherRead
        cases otherRead
        exact absurd close (not_le.mpr far)

theorem sends_insAntLeverArm (leverArm : Vec3 ℚ) :
    Sends (buildInsAntLeverArmCommand leverArm) "setINSAntLeverArm".toList []
      [leverArm.x, leverArm.y, leverArm.z] := by
  unfold Sends buildInsAntLeverArmCommand setVec3Command
  simp only [List.nil_append, List.map_cons, List.map_nil, List.flatMap_cons, List.flatMap_nil,
    List.append_nil, List.append_assoc]

theorem sends_attitudeOffset (offset : AttitudeOffset ℚ) :
    Sends (setAttitudeOffsetCommand offset) "setAttitudeOffset".toList []
      [offset.headingDeg, offset.pitchDeg] := by
  have start : "setAttitudeOffset, ".toList = "setAttitudeOffset".toList ++ ", ".toList := by
    decide
  unfold Sends setAttitudeOffsetCommand
  simp only [start, List.nil_append, List.map_cons, List.map_nil, List.flatMap_cons,
    List.flatMap_nil, List.append_nil, List.append_assoc]

theorem sends_imuOrientation {settings : ReceiverSettings ℚ}
    (withAngles : equalsCi settings.imuOrientationMode "SensorDefault".toList = false) :
    Sends (setOrientationCommand settings) "setIMUOrientation".toList
      [settings.imuOrientationMode]
      [settings.thetaXDeg, settings.thetaYDeg, settings.thetaZDeg] := by
  have start : "setIMUOrientation, ".toList = "setIMUOrientation".toList ++ ", ".toList := by
    decide
  unfold Sends setOrientationCommand
  simp only [withAngles, if_neg Bool.false_ne_true, start, List.cons_append, List.nil_append,
    List.map_cons, List.map_nil, List.flatMap_cons, List.flatMap_nil, List.append_nil,
    List.append_assoc]

theorem isField_of_equalsCi {mode name : Text} (same : equalsCi mode name = true)
    (nonempty : name ≠ [])
    (never : [' ', '\t', '\n', '\x0b', '\x0c', '\r', ','].all
      (fun other => !decide (other.toLower ∈ lowerCopy name)) = true) : IsField mode := by
  have sameLower : lowerCopy mode = lowerCopy name := beq_iff_eq.mp same
  refine IsField.of_forall ?_ ?_
  · rintro rfl
    exact nonempty (List.map_eq_nil_iff.mp sameLower.symm)
  · intro char member
    have lowerMember : char.toLower ∈ lowerCopy name := by
      rw [← sameLower]
      exact List.mem_map_of_mem member
    exact solid_of_never (fun other => decide (other.toLower ∈ lowerCopy name))
      (decide_eq_true lowerMember) never

theorem verifies_insAntLeverArm (leverArm : Vec3 ℚ) :
    Verifies (verifyInsAntLeverArmReply · leverArm) "INSAntLeverArm".toList []
      [leverArm.x, leverArm.y, leverArm.z] := by
  refine .of_ok_iff (.of_all (by decide) (by decide)) (by simp) (List.cons_ne_nil _ _) ?_
  intro reply payload shown numerals found fields noLead three
  rcases List.length_eq_three.mp three with ⟨x, y, z, rfl⟩
  rw [List.eq_nil_of_length_eq_zero noLead] at fields ⊢
  rw [verifyInsAntLeverArmReply_ok_iff found fields]
  simp

theorem verifies_attitudeOffset (offset : AttitudeOffset ℚ) :
    Verifies (verifyAttitudeOffsetReply · offset) "AttitudeOffset".toList []
      [offset.headingDeg, offset.pitchDeg] := by
  refine .of_ok_iff (.of_all (by decide) (by decide)) (by simp) (List.cons_ne_nil _ _) ?_
  intro reply payload shown numerals found fields noLead two
  rcases List.length_eq_two.mp two with ⟨heading, pitch, rfl⟩
  rw [List.eq_nil_of_length_eq_zero noLead] at fields ⊢
  rw [verifyAttitudeOffsetReply_ok_iff found fields]
  simp

theorem verifies_imuOrientation {settings : ReceiverSettings ℚ}
    (mode : IsField settings.imuOrientationMode)
    (withAngles : equalsCi settings.imuOrientationMode "SensorDefault".toList = false) :
    Verifies (verifyImuOrientationReply · settings) "IMUOrientation".toList
      [settings.imuOrientationMode]
      [settings.thetaXDeg, settings.thetaYDeg, settings.thetaZDeg] := by
  refine .of_ok_iff (.of_all (by decide) (by decide)) (by simpa using mode)
    (List.cons_ne_nil _ _) ?_
  intro reply payload shown numerals found fields one three
  rcases List.length_eq_one_iff.mp one with ⟨shownMode, rfl⟩
  rcases List.length_eq_three.mp three with ⟨x, y, z, rfl⟩
  rw [verifyImuOrientationReply_ok_iff withAngles found fields]
  simp [equalsCi]

/-- The settings ask for orientation angles. -/
def HasAngles (settings : ReceiverSettings ℚ) : Prop :=
  equalsCi settings.imuOrientationMode "manual".toList = true ∨
    equalsCi settings.imuOrientationMode "fixed".toList = true

theorem HasAngles.isField {settings : ReceiverSettings ℚ} (angles : HasAngles settings) :
    IsField settings.imuOrientationMode := by
  rcases angles with manual | fixed
  · exact isField_of_equalsCi manual (by decide) (by decide)
  · exact isField_of_equalsCi fixed (by decide) (by decide)

theorem HasAngles.not_sensorDefault {settings : ReceiverSettings ℚ}
    (angles : HasAngles settings) :
    equalsCi settings.imuOrientationMode "SensorDefault".toList = false := by
  rcases angles with manual | fixed
  · rw [equalsCi, beq_iff_eq.mp manual]
    decide
  · rw [equalsCi, beq_iff_eq.mp fixed]
    decide

/-- A receiver that reports what it was sent is accepted, and one that reports a
number that is not close is not. -/
theorem set_then_verify (leverArm : Vec3 ℚ) (offset : AttitudeOffset ℚ)
    {settings : ReceiverSettings ℚ} (angles : HasAngles settings) :
    (Sends (buildInsAntLeverArmCommand leverArm) "setINSAntLeverArm".toList []
        [leverArm.x, leverArm.y, leverArm.z] ∧
      Verifies (verifyInsAntLeverArmReply · leverArm) "INSAntLeverArm".toList []
        [leverArm.x, leverArm.y, leverArm.z]) ∧
    (Sends (setOrientationCommand settings) "setIMUOrientation".toList
        [settings.imuOrientationMode]
        [settings.thetaXDeg, settings.thetaYDeg, settings.thetaZDeg] ∧
      Verifies (verifyImuOrientationReply · settings) "IMUOrientation".toList
        [settings.imuOrientationMode]
        [settings.thetaXDeg, settings.thetaYDeg, settings.thetaZDeg]) ∧
    (Sends (setAttitudeOffsetCommand offset) "setAttitudeOffset".toList []
        [offset.headingDeg, offset.pitchDeg] ∧
      Verifies (verifyAttitudeOffsetReply · offset) "AttitudeOffset".toList []
        [offset.headingDeg, offset.pitchDeg]) := by
  exact ⟨⟨sends_insAntLeverArm leverArm, verifies_insAntLeverArm leverArm⟩,
    ⟨sends_imuOrientation angles.not_sensorDefault,
      verifies_imuOrientation angles.isField angles.not_sensorDefault⟩,
    ⟨sends_attitudeOffset offset, verifies_attitudeOffset offset⟩⟩

def measuredLeverArm : Vec3 ℚ := ⟨1 / 10, -1 / 5, 3 / 10⟩

theorem fmtCommandDecimal_measured :
    [measuredLeverArm.x, measuredLeverArm.y, measuredLeverArm.z].map fmtCommandDecimal =
      ["0.100", "-0.200", "0.300"].map String.toList := by
  decide +kernel

def manualSettings : ReceiverSettings ℚ where
  ipsId := 1
  ipsPort := 28785
  streams := []
  imuStartupDataMode := "Boot".toList
  imuOrientationMode := "manual".toList
  thetaXDeg := -90
  thetaYDeg := 0
  thetaZDeg := 3 / 2
  antLeverArmM := measuredLeverArm
  antLeverArmConfigured := true
  requireAux1 := true
  gnssAttitudeMode := "MultiAntenna".toList
  attitudeOffsetDeg := ⟨3, -3 / 2⟩
  configureAllTracking := true
  cn0MaskDbhz := 0

/-- A receiver echoes the lever arm in the middle of its reply. -/
theorem measuredLeverArm_verified :
    HasAngles manualSettings ∧
      verifyInsAntLeverArmReply
        "$R: gial\r\n  INSAntLeverArm, 0.100, -0.200, 0.300\r\nCOM1>".toList
        measuredLeverArm = .ok () := by
  have angles : HasAngles manualSettings := Or.inl (by decide)
  refine ⟨angles, (set_then_verify measuredLeverArm ⟨3, -3 / 2⟩ angles).1.2.accepts _ ?_⟩
  rw [List.nil_append, fmtCommandDecimal_measured]
  have isLine : IsConfigLine "INSAntLeverArm".toList
      (["0.100", "-0.200", "0.300"].map String.toList)
      "  INSAntLeverArm, 0.100, -0.200, 0.300\r".toList := by
    refine ⟨[' ', ' '], [" 0.100", " -0.200", " 0.300\r"].map String.toList, by simp [isSpace],
      .cons ?_ (.cons ?_ (.cons ?_ .nil)), by decide⟩
    · exact ⟨[' '], [], by simp [isSpace], by simp, by decide⟩
    · exact ⟨[' '], [], by simp [isSpace], by simp, by decide⟩
    · exact ⟨[' '], ['\r'], by simp [isSpace], by simp [isSpace], by decide⟩
  exact ⟨["$R: gial\r".toList], _, "\nCOM1>".toList, by decide, isLine, by decide,
    Or.inr ⟨"COM1>".toList, by decide⟩, by decide⟩

/-- The key and the values, with blanks around every comma. -/
def IsSpacedLine (key : Text) (values : List Text) (line : Text) : Prop :=
  ∃ parts, List.Forall₂ (Padded isSpace) (key :: values) parts ∧ line = join parts ','

def spacedReply : Text := "INSAntLeverArm , 0.100, -0.200, 0.300".toList

def indentedReply : Text :=
  " INSAntLeverArm, 9.000, 0.000, 0.000\nINSAntLeverArm, 0.100, -0.200, 0.300".toList

/-- The key is looked for with its comma, and in the trimmed line. -/
theorem spacedReply_refused :
    (IsSpacedLine "INSAntLeverArm".toList
        ([measuredLeverArm.x, measuredLeverArm.y, measuredLeverArm.z].map fmtCommandDecimal)
        spacedReply ∧
      (verifyInsAntLeverArmReply spacedReply measuredLeverArm).isOk = false) ∧
    (¬"INSAntLeverArm".toList <+: " INSAntLeverArm, 9.000, 0.000, 0.000".toList ∧
      (verifyInsAntLeverArmReply indentedReply measuredLeverArm).isOk = false) := by
  refine ⟨⟨?_, by decide +kernel⟩, by decide, by decide +kernel⟩
  rw [fmtCommandDecimal_measured]
  refine ⟨["INSAntLeverArm ", " 0.100", " -0.200", " 0.300"].map String.toList,
    .cons ?_ (.cons ?_ (.cons ?_ (.cons ?_ .nil))), by decide⟩
  · exact ⟨[], [' '], by simp, by simp [isSpace], by decide⟩
  · exact ⟨[' '], [], by simp [isSpace], by simp, by decide⟩
  · exact ⟨[' '], [], by simp [isSpace], by simp, by decide⟩
  · exact ⟨[' '], [], by simp [isSpace], by simp, by decide⟩

end AsterxDriver.Driver
