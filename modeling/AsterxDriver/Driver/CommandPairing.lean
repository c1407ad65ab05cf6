import AsterxDriver.Driver.ConfigOrder
import AsterxDriver.Driver.StreamTable

/-! # Pairing commands with replies

The control connection to a receiver that sends a banner and one reply to each
line, through any segmentation of the byte streams. -/

namespace AsterxDriver.Driver

open Foundation Interaction Configurator

/-- A receiver that decides whether the bytes of a line are complete. -/
structure LineReceiver extends Receiver where
  whole : Text → Bool

/-- What the receiver has sent and the driver has not read yet, the bytes of the
line under way, and the lines that are complete. -/
structure Wire where
  inbox : Text
  heard : Text
  lines : List Text

/-- The sizes of the reads and writes and the time before each deadline, for
every state of the connection. -/
structure Segmentation where
  sendSize : Wire → ℕ
  readSize : Wire → ℕ
  remaining : Wire → ℕ

namespace LineReceiver

variable (receiver : LineReceiver)

/-- The receiver replies when the last byte of a line arrives. -/
def hearChar (wire : Wire) (char : Char) : Wire :=
  let heard := wire.heard ++ [char]
  if receiver.whole heard then
    let lines := wire.lines ++ [heard.take (heard.length - 2)]
    ⟨wire.inbox ++ receiver.reply lines, [], lines⟩
  else { wire with heard := heard }

/-- At least one byte is sent or read, and at most what was asked for. -/
def network (tcp : Segmentation) : Network Wire Char where
  remaining := fun wire => some (tcp.remaining wire)
  send := fun wire bytes =>
    let count := max 1 (min (tcp.sendSize wire) bytes.length)
    (.sent count, (bytes.take count).foldl receiver.hearChar wire)
  read := fun wire requested =>
    if wire.inbox = [] then (.pollTimeout, wire)
    else
      let count := max 1 (min (tcp.readSize wire) (min requested wire.inbox.length))
      (.received (wire.inbox.take count), { wire with inbox := wire.inbox.drop count })

/-- The connection before anything was read or written. -/
def connected : Wire := ⟨receiver.banner, [], []⟩

end LineReceiver

/-- A text that ends in its only prompt and fits into the buffer. -/
def Prompted (text : Text) : Prop :=
  ∃ body, text = body ++ ['>'] ∧ '>' ∉ body ∧ text.length ≤ 65536

/-- The receiver takes what the command writes for one line. -/
def LineReceiver.HearsLine (receiver : LineReceiver) (cmd : Command) : Prop :=
  receiver.whole (cmd.text ++ "\r\n".toList) = true ∧
  ∀ part rest, part ++ rest = cmd.text ++ "\r\n".toList → rest ≠ [] → receiver.whole part = false

/-- The command lines of a conversation. -/
def commandLines (entries : List (Question × Answer)) : List Text :=
  entries.filterMap fun
    | (.banner, _) => none
    | (.command cmd, _) => some cmd.text

/-- What the receiver says last, after these questions. -/
def Receiver.answers (receiver : Receiver) (entries : List (Question × Answer)) : Question → Text
  | .banner => receiver.banner
  | .command cmd => receiver.reply (commandLines entries ++ [cmd.text])

/-- Every question has the receiver's own answer to it. -/
def Paired (receiver : Receiver) (entries : List (Question × Answer)) : Prop :=
  ∀ before question answer after, entries = before ++ (question, answer) :: after →
    answer = .ok (receiver.answers before question)

/-! ## Writing a line -/

section

variable (receiver : LineReceiver)

theorem foldl_hearChar {cmd : Command} (hears : receiver.HearsLine cmd) {part rest : Text}
    (split : part ++ rest = cmd.text ++ "\r\n".toList) (more : rest ≠ []) (inbox : Text)
    (lines : List Text) :
    rest.foldl receiver.hearChar ⟨inbox, part, lines⟩ =
      ⟨inbox ++ receiver.reply (lines ++ [cmd.text]), [], lines ++ [cmd.text]⟩ := by
  induction rest generalizing part with
  | nil => exact absurd rfl more
  | cons char later induction =>
      have split' : part ++ [char] ++ later = cmd.text ++ "\r\n".toList := by
        rw [List.append_assoc]
        exact split
      rw [List.foldl_cons, LineReceiver.hearChar]
      by_cases last : later = []
      · rw [last, List.append_nil] at split'
        have line : (cmd.text ++ "\r\n".toList).take
            ((cmd.text ++ "\r\n".toList).length - 2) = cmd.text := by
          rw [List.length_append]
          exact List.take_left ..
        simp only [split', hears.1, if_true, line, last, List.foldl_nil]
      · have unfinished := hears.2 _ later split' last
        simp only [unfinished, Bool.false_eq_true, if_false]
        exact induction split' last

/-- Every byte arrives, however the writes are cut. -/
theorem writeAllLoop_network (errnoString : Errno → String) (tcp : Segmentation) {calls : ℕ}
    {bytes : Text} (enough : bytes.length ≤ calls) (wire : Wire) :
    TcpClient.writeAllLoop errnoString (receiver.network tcp) calls bytes wire =
      some (.ok (), bytes.foldl receiver.hearChar wire) := by
  induction calls generalizing bytes wire with
  | zero =>
      rw [List.length_eq_zero_iff.mp (Nat.le_zero.mp enough)]
      rfl
  | succ calls induction =>
      cases bytes with
      | nil => rfl
      | cons first later =>
          have size : ∃ count,
              max 1 (min (tcp.sendSize wire) (later.length + 1)) = count + 1 :=
            ⟨max 1 (min (tcp.sendSize wire) (later.length + 1)) - 1, by omega⟩
          rcases size with ⟨count, size⟩
          have sent : (receiver.network tcp).send wire (first :: later) =
              (.sent (count + 1), (later.take count).foldl receiver.hearChar
                (receiver.hearChar wire first)) := by
            simp only [LineReceiver.network, List.length_cons, size, List.take_succ_cons,
              List.foldl_cons]
          simp only [TcpClient.writeAllLoop, sent]
          rw [induction, List.foldl_cons, ← List.foldl_append, List.take_append_drop]
          rw [List.length_drop]
          simp only [List.length_cons] at enough
          omega

/-! ## Reading a reply -/

theorem readSome_received {client : TcpClient} (isOpen : 0 ≤ client.fd)
    (errnoString : Errno → String) (ioTimeout : ℕ) (bytes : Text) :
    client.readSome errnoString ioTimeout (.received bytes) = .ok bytes := by
  rw [TcpClient.readSome, if_neg (not_lt.mpr isOpen)]

/-- A read takes a first part of what has arrived. -/
theorem read_network (tcp : Segmentation) (first : Char) (later heard : Text)
    (lines : List Text) (requested : ℕ) :
    ∃ count, (receiver.network tcp).read ⟨first :: later, heard, lines⟩ requested =
      (.received (first :: later.take count), ⟨later.drop count, heard, lines⟩) := by
  let wire : Wire := ⟨first :: later, heard, lines⟩
  let size := max 1 (min (tcp.readSize wire) (min requested (first :: later).length))
  have positive : size = (size - 1) + 1 := by omega
  refine ⟨size - 1, ?_⟩
  change (ReadEvent.received ((first :: later).take size),
    Wire.mk ((first :: later).drop size) heard lines) = _
  rw [positive, List.take_succ_cons, List.drop_succ_cons, Nat.add_sub_cancel]

/-- `read_until` returns the whole message and leaves nothing behind. -/
theorem readUntil_network {client : TcpClient} (isOpen : 0 ≤ client.fd)
    (errnoString : Errno → String) (tcp : Segmentation) {body acc inbox heard : Text}
    {lines : List Text} (noPrompt : '>' ∉ body) (fits : body.length < 65536)
    (message : acc ++ inbox = body ++ ['>']) :
    client.readUntil errnoString (receiver.network tcp) ">".toList 65536 acc
        ⟨inbox, heard, lines⟩ =
      (.ok (body ++ ['>']), ⟨[], heard, lines⟩) := by
  induction size : inbox.length using Nat.strong_induction_on generalizing acc inbox with
  | h count induction =>
      rw [TcpClient.readUntil]
      cases inbox with
      | nil =>
          rw [List.append_nil] at message
          have seen : occurs ">".toList acc = true := by
            rw [occurs_iff, message]
            exact List.infix_append_right ..
          rw [if_pos seen, message]
      | cons first later =>
          have lengths := congrArg List.length message
          simp only [List.length_append, List.length_cons, List.length_nil] at lengths
          have front : acc <+: body := by
            apply List.prefix_of_prefix_length_le ⟨_, message⟩ ⟨_, rfl⟩
            omega
          have unseen : ¬occurs ">".toList acc = true := by
            rw [occurs_iff]
            intro seen
            exact noPrompt (front.subset ((List.singleton_infix_iff ..).mp seen))
          rcases read_network receiver tcp first later heard lines
            (min 512 (65536 - acc.length)) with ⟨taken, read⟩
          have remaining : (receiver.network tcp).remaining ⟨first :: later, heard, lines⟩ =
              some (tcp.remaining ⟨first :: later, heard, lines⟩) := rfl
          rw [if_neg unseen, if_neg (by omega), remaining]
          simp only [read, readSome_received isOpen]
          apply induction (later.drop taken).length
          · rw [List.length_drop, ← size, List.length_cons]
            omega
          · rw [List.append_assoc, List.cons_append, List.take_append_drop]
            exact message
          · rfl

end

/-! ## The conversation -/

theorem paired_append {receiver : Receiver} {entries : List (Question × Answer)}
    (paired : Paired receiver entries) (question : Question) :
    Paired receiver (entries ++ [(question, .ok (receiver.answers entries question))]) := by
  intro before other answer after split
  rcases List.eq_nil_or_concat after with rfl | ⟨front, last, rfl⟩
  · have same := List.append_inj' split rfl
    rcases same with ⟨rfl, last⟩
    cases last
    rfl
  · rw [List.concat_eq_append, ← List.cons_append, ← List.append_assoc] at split
    have same := List.append_inj' split rfl
    exact paired before other answer front same.1

/-- The connection between two questions. -/
structure Resting (receiver : LineReceiver) (entries : List (Question × Answer)) (wire : Wire) :
    Prop where
  inbox : wire.inbox = []
  heard : wire.heard = []
  lines : wire.lines = commandLines entries
  paired : Paired receiver.toReceiver entries

section

variable {receiver : LineReceiver} {client : TcpClient} (isOpen : 0 ≤ client.fd)
  (errnoString : Errno → String) (tcp : Segmentation) (interruptions : ℕ)

include isOpen

theorem converse_banner (banner : Prompted receiver.banner) :
    ∃ wire, client.converse errnoString (receiver.network tcp) interruptions .banner
        receiver.connected = some (.ok receiver.banner, wire) ∧
      Resting receiver [(.banner, .ok receiver.banner)] wire := by
  rcases banner with ⟨body, text, noPrompt, fits⟩
  refine ⟨⟨[], [], []⟩, ?_, rfl, rfl, rfl, ?_⟩
  · have length := congrArg List.length text
    rw [List.length_append, List.length_singleton] at length
    have message : [] ++ receiver.banner = body ++ ['>'] := text
    rw [TcpClient.converse, LineReceiver.connected,
      readUntil_network receiver isOpen errnoString tcp noPrompt (by omega) message, text]
  · have empty : Paired receiver.toReceiver [] := by
      intro before question answer after split
      simp at split
    exact paired_append empty .banner

theorem converse_command (replies : ∀ lines, Prompted (receiver.reply lines)) {cmd : Command}
    (hears : receiver.HearsLine cmd) {entries : List (Question × Answer)} {wire : Wire}
    (resting : Resting receiver entries wire) :
    ∃ wire', client.converse errnoString (receiver.network tcp) interruptions (.command cmd)
        wire = some (.ok (receiver.answers entries (.command cmd)), wire') ∧
      Resting receiver
        (entries ++ [(.command cmd, .ok (receiver.answers entries (.command cmd)))]) wire' := by
  rcases wire with ⟨inbox, heard, lines⟩
  rcases resting with ⟨rfl, rfl, rfl, paired⟩
  rcases replies (commandLines entries ++ [cmd.text]) with ⟨body, text, noPrompt, fits⟩
  have length := congrArg List.length text
  rw [List.length_append, List.length_singleton] at length
  refine ⟨⟨[], [], commandLines entries ++ [cmd.text]⟩, ?_, rfl, rfl, ?_,
    paired_append paired _⟩
  · have written : client.writeAll errnoString (receiver.network tcp)
        ((cmd.text ++ "\r\n".toList).length + interruptions) (cmd.text ++ "\r\n".toList)
        ⟨[], [], commandLines entries⟩ =
          some (.ok (), ⟨receiver.reply (commandLines entries ++ [cmd.text]), [],
            commandLines entries ++ [cmd.text]⟩) := by
      rw [TcpClient.writeAll, if_neg (not_lt.mpr isOpen),
        writeAllLoop_network receiver errnoString tcp (by omega),
        foldl_hearChar receiver hears (List.nil_append _) (by simp), List.nil_append]
    simp only [TcpClient.converse, written]
    have message : [] ++ receiver.reply (commandLines entries ++ [cmd.text]) = body ++ ['>'] :=
      text
    rw [readUntil_network receiver isOpen errnoString tcp noPrompt (by omega) message, ← text]
    rfl
  · simp [commandLines]

end

/-- After the banner only commands are sent. -/
theorem session_asks {D : Type} [DecimalArithmetic D] {P : Command → Prop}
    {settings : ReceiverSettings D} (user password : Text)
    (login : P (.line ("login, ".toList ++ user ++ ", ".toList ++ password)))
    (preparation : Preparation P settings)
    (enabling : ∀ stream ∈ settings.streams, P (.sbfOutput stream settings.ipsId)) :
    ∃ next, (session settings user password).run = .ask .banner next ∧
      ∀ answer question, Asks (next answer) question →
        ∃ cmd, question = .command cmd ∧ P cmd := by
  refine ⟨_, rfl, ?_⟩
  intro answer question asks
  have logsIn : Only P (do
      let reply ← sendCommand (.line ("login, ".toList ++ user ++ ", ".toList ++ password))
      if occurs "$R?".toList reply then
        throw (.config ⟨"login refused (check credentials)".toList⟩)) := by
    apply only_bind (only_sendCommand login)
    intro reply
    split
    · exact only_throw _
    · exact only_pure ()
  have enables : Only P (enableStreams settings) := by
    apply only_forM
    intro stream member
    unfold enableStream
    split
    · cases built : buildSbfOutputCommand stream settings.ipsId with
      | error fault =>
          intro other asked
          cases asked
      | ok cmd =>
          rcases buildSbfOutputCommand_eq_ok built with ⟨rfl, _⟩
          have sends : Only P (do let _ ← sendCommand (.sbfOutput stream settings.ipsId)) :=
            only_bind (only_sendCommand (enabling stream member)) fun _ => only_pure ()
          exact sends
    · exact only_pure ()
  cases answer with
  | error fault => cases asks
  | ok reply =>
      have rest := only_bind logsIn fun _ => only_bind (only_prepare preparation) fun _ => enables
      exact rest question asks

/-- Every command of a session has the receiver's own reply to it, and nothing
remains unread. -/
theorem session_paired (receiver : LineReceiver) (banner : Prompted receiver.banner)
    (replies : ∀ lines, Prompted (receiver.reply lines)) (client : TcpClient)
    (isOpen : 0 ≤ client.fd) (errnoString : Errno → String) (tcp : Segmentation)
    (interruptions : ℕ) {D : Type} [DecimalArithmetic D] (settings : ReceiverSettings D)
    (user password : Text)
    (hears : ∀ cmd, Asks (session settings user password).run (.command cmd) →
      receiver.HearsLine cmd) :
    ∃ outcome entries wire,
      run (client.converse errnoString (receiver.network tcp) interruptions)
        (session settings user password).run receiver.connected =
          some ((outcome, entries), wire) ∧
      Paired receiver.toReceiver entries ∧ wire.inbox = [] := by
  have anyCommand : Preparation (fun _ => True) settings :=
    ⟨trivial, fun _ _ => trivial, trivial, trivial, trivial, trivial, trivial, trivial, trivial,
      trivial, trivial, trivial, trivial, trivial, trivial, trivial, trivial⟩
  rcases session_asks user password trivial anyCommand
    (fun _ _ => trivial) with ⟨next, starts, commands⟩
  rcases converse_banner isOpen errnoString tcp interruptions banner with
    ⟨wire, answered, resting⟩
  have step : ∀ entries wire question, Resting receiver entries wire →
      Asks (next (.ok receiver.banner)) question →
      ∃ answer wire', client.converse errnoString (receiver.network tcp) interruptions question
          wire = some (answer, wire') ∧
        Resting receiver (entries ++ [(question, answer)]) wire' := by
    intro entries wire question resting asks
    rcases commands _ question asks with ⟨cmd, rfl, _⟩
    have heard : receiver.HearsLine cmd := by
      apply hears
      rw [starts]
      exact .later _ asks
    rcases converse_command isOpen errnoString tcp interruptions replies heard resting with
      ⟨wire', answered, rested⟩
    exact ⟨_, wire', answered, rested⟩
  rcases run_induction (Resting receiver) step resting with ⟨outcome, later, final, ran, rested⟩
  refine ⟨outcome, (.banner, .ok receiver.banner) :: later, final, ?_, rested.paired,
    rested.inbox⟩
  rw [starts, run, answered, Option.bind_some, ran]
  rfl

/-- A receiver whose lines end in a line break. -/
def crlfReceiver : LineReceiver := { echoReceiver with
  whole := fun heard => "\r\n".toList.isSuffixOf heard }

theorem crlfReceiver_hearsLine {cmd : Command} (noBreak : '\n' ∉ cmd.text) :
    crlfReceiver.HearsLine cmd := by
  constructor
  · change "\r\n".toList.isSuffixOf (cmd.text ++ "\r\n".toList) = true
    rw [List.isSuffixOf_iff_suffix]
    exact List.suffix_append ..
  · intro part rest split more
    by_contra complete
    have ends : "\r\n".toList <:+ part := by
      rw [← List.isSuffixOf_iff_suffix]
      exact Bool.not_eq_false _ ▸ complete
    have member : '\n' ∈ part := ends.subset (by decide)
    have front : part <+: cmd.text ++ ['\r'] := by
      apply List.prefix_of_prefix_length_le ⟨rest, split⟩ ⟨['\n'], by simp⟩
      have lengths := congrArg List.length split
      have positive := List.length_pos_iff.mpr more
      simp only [List.length_append] at lengths ⊢
      change _ = _ + 2 at lengths
      change _ ≤ _ + 1
      omega
    rcases List.mem_append.mp (front.subset member) with inside | last
    · exact noBreak inside
    · revert last
      decide

theorem echoReply_prompted (line : Text) : Prompted (echoReply line) := by
  have dropLast : ∀ text : Text, text.getLast? = some '>' → '>' ∉ text.dropLast →
      text.length ≤ 65536 → Prompted text := by
    intro text last noPrompt fits
    refine ⟨text.dropLast, ?_, noPrompt, fits⟩
    exact (List.dropLast_append_getLast? '>' last).symm
  unfold echoReply
  split_ifs <;> exact dropLast _ (by decide +kernel) (by decide +kernel) (by decide +kernel)

def observationStreams : List SbfStream :=
  [⟨2, ["MeasEpoch".toList, "MeasExtra".toList, "EndOfMeas".toList], "OnChange".toList⟩]

theorem observationSession_hears (cmd : Command)
    (asks : Asks (session (settingsOf observationStreams) "admin".toList "admin".toList).run
      (.command cmd)) : crlfReceiver.HearsLine cmd := by
  have preparation : Preparation (fun cmd => '\n' ∉ cmd.text) (settingsOf observationStreams) := by
    constructor <;> decide +kernel
  rcases session_asks "admin".toList "admin".toList (by decide +kernel) preparation
    (by decide +kernel) with ⟨next, starts, commands⟩
  rw [starts] at asks
  cases asks with
  | later answer asked =>
      rcases commands answer _ asked with ⟨other, same, noBreak⟩
      cases same
      exact crlfReceiver_hearsLine noBreak

/-- A session in which writes are cut to three bytes and reads to seven. -/
theorem observationSession_paired :
    ∃ outcome entries wire,
      run ((TcpClient.mk 3).converse (fun _ => "")
          (crlfReceiver.network ⟨fun _ => 3, fun _ => 7, fun _ => 5000⟩) 0)
        (session (settingsOf observationStreams) "admin".toList "admin".toList).run
        crlfReceiver.connected = some ((outcome, entries), wire) ∧
      Paired crlfReceiver.toReceiver entries ∧ wire.inbox = [] :=
  session_paired crlfReceiver ⟨"Welcome\r\nIP10".toList, by decide +kernel, by decide +kernel,
      by decide +kernel⟩
    (fun lines => echoReply_prompted (lines.getLastD [])) ⟨3⟩ (by decide) _ _ _ _ _ _
    observationSession_hears

end AsterxDriver.Driver
