import AsterxDriver.Ntrip.SourceTable
import Mathlib.Data.List.Chain

/-! # The schedule of positions

In VRS mode `ReceiveThread` calls `SendGGA` in each turn of its loop. The times are those
of the steady clock, in nanoseconds. -/

namespace AsterxDriver.Ntrip

open Foundation Attempt

/-! ## SendGGA -/

/-- The client with `last_gga_sent_`, and the positions that were sent with their times. -/
structure Vrs where
  client : Client
  lastGgaSent : ℤ := 0
  sent : List (ℤ × Text) := []

/-- A function of the client. -/
def onVrs (program : Attempted α) : Attempt Vrs NtripError α :=
  ExceptT.mk fun vrs => (program.run vrs.client).map fun result =>
    (result.1, { vrs with client := result.2 })

/-- The text with a line end. -/
def terminated (gga : Text) : Text :=
  if gga.getLast? = some '\n' then gga
  else if gga.getLast? = some '\r' then gga ++ ['\n']
  else gga ++ "\r\n".toList

def intervalNs (ggaInterval : ℤ) : ℤ := max 1 ggaInterval * 1000000000

def sendGga (ggaInterval now : ℤ) (send : Text → SendOutcome) : Attempt Vrs NtripError Unit := do
  let vrs ← get
  if now - vrs.lastGgaSent < intervalNs ggaInterval then return ()
  else if vrs.client.nmeaGga = [] then modify fun vrs => { vrs with lastGgaSent := now }
  else
    let gga := terminated vrs.client.nmeaGga
    if (← onVrs (sendData (send gga))) > 0 then
      modify fun vrs => { vrs with lastGgaSent := now, sent := vrs.sent ++ [(now, gga)] }
    else return ()

/-- A turn of the loop: `SetNmeaGga` may be called before it. -/
structure GgaTurn where
  position : Option Text
  now : ℤ
  send : Text → SendOutcome

def Vrs.positioned (vrs : Vrs) (position : Option Text) : Vrs :=
  match position with
  | none => vrs
  | some gga => { vrs with client := { vrs.client with nmeaGga := gga } }

/-- The state after a turn; an exception ends only the call. -/
def Vrs.turn (ggaInterval : ℤ) (vrs : Vrs) (turn : GgaTurn) : Vrs :=
  match (sendGga ggaInterval turn.now turn.send).run (vrs.positioned turn.position) with
  | some (_, final) => final
  | none => vrs

/-! ## One turn -/

/-- What a call can do. -/
inductive GgaSteps (ggaInterval now : ℤ) (send : Text → SendOutcome) (vrs : Vrs) : Vrs → Prop
  | early (early : now - vrs.lastGgaSent < intervalNs ggaInterval) : GgaSteps _ _ _ _ vrs
  | empty (due : vrs.lastGgaSent + intervalNs ggaInterval ≤ now)
      (empty : vrs.client.nmeaGga = []) : GgaSteps _ _ _ _ { vrs with lastGgaSent := now }
  | sends (due : vrs.lastGgaSent + intervalNs ggaInterval ≤ now)
      (present : vrs.client.nmeaGga ≠ [])
      (works : 0 < (send (terminated vrs.client.nmeaGga)).result) :
      GgaSteps _ _ _ _ { vrs with
        lastGgaSent := now, sent := vrs.sent ++ [(now, terminated vrs.client.nmeaGga)] }
  | fails (present : vrs.client.nmeaGga ≠ [])
      (fails : (send (terminated vrs.client.nmeaGga)).result ≤ 0) : GgaSteps _ _ _ _ vrs

section

variable {ggaInterval now : ℤ} {send : Text → SendOutcome} {vrs final : Vrs}

theorem onVrs_ends {program : Attempted α} {outcome : Except NtripError α} {client : Client}
    (ends : Ends program vrs.client outcome client) :
    Ends (onVrs program) vrs outcome { vrs with client := client } :=
  Option.map_eq_some_iff.mpr ⟨_, ends, rfl⟩

/-- Every call ends in one of these ways. -/
theorem ends_sendGga (ggaInterval now : ℤ) (send : Text → SendOutcome) (vrs : Vrs) :
    ∃ outcome final, Ends (sendGga ggaInterval now send) vrs outcome final ∧
      GgaSteps ggaInterval now send vrs final := by
  unfold sendGga
  simp only [ends_get_bind_iff]
  by_cases early : now - vrs.lastGgaSent < intervalNs ggaInterval
  · rw [if_pos early]
    exact ⟨_, vrs, rfl, .early early⟩
  rw [if_neg early]
  have due : vrs.lastGgaSent + intervalNs ggaInterval ≤ now := by omega
  by_cases empty : vrs.client.nmeaGga = []
  · rw [if_pos empty]
    exact ⟨_, _, rfl, .empty due empty⟩
  rw [if_neg empty]
  rcases alwaysEnds_sendData (send (terminated vrs.client.nmeaGga)) vrs.client trivial with
    ⟨outcome, client, ends, _⟩
  rcases ends_sendData ends with ⟨rfl, rfl | ⟨bad, _, fault, rfl⟩⟩
  · by_cases works : 0 < (send (terminated vrs.client.nmeaGga)).result
    · refine ⟨.ok (), _, ends_bind_iff.mpr (.inr ⟨_, _, onVrs_ends ends, ?_⟩),
        .sends due empty works⟩
      rw [if_pos works]
      rfl
    · refine ⟨.ok (), _, ends_bind_iff.mpr (.inr ⟨_, _, onVrs_ends ends, ?_⟩),
        .fails empty (not_lt.mp works)⟩
      rw [if_neg works]
      rfl
  · exact ⟨.error fault, _, ends_bind_iff.mpr (.inl ⟨fault, onVrs_ends ends, rfl⟩),
      .fails empty bad⟩

theorem ggaSteps_turn (ggaInterval : ℤ) (vrs : Vrs) (turn : GgaTurn) :
    GgaSteps ggaInterval turn.now turn.send (vrs.positioned turn.position)
      (vrs.turn ggaInterval turn) := by
  rcases ends_sendGga ggaInterval turn.now turn.send (vrs.positioned turn.position) with
    ⟨outcome, final, ends, steps⟩
  have same : vrs.turn ggaInterval turn = final := by
    rw [Vrs.turn, show _ = some (outcome, final) from ends]
  rw [same]
  exact steps

end

/-! ## Whole runs -/

theorem intervalNs_pos (ggaInterval : ℤ) : 0 < intervalNs ggaInterval := by
  unfold intervalNs
  omega

theorem getLast?_terminated (gga : Text) : (terminated gga).getLast? = some '\n' := by
  unfold terminated
  split
  · assumption
  · split
    · exact List.getLast?_concat
    · rw [List.getLast?_append]
      rfl

theorem terminated_ne_nil (gga : Text) : terminated gga ≠ [] := by
  intro empty
  have last := getLast?_terminated gga
  rw [empty] at last
  cases last

/-- The position after some turns. -/
def positionAfter (start : Text) (turns : List GgaTurn) : Text :=
  turns.foldl (fun gga turn => turn.position.getD gga) start

def Vrs.times (vrs : Vrs) : List ℤ := vrs.sent.map Prod.fst

/-- The times of the positions that were sent, and what they were. -/
structure Scheduled (ggaInterval : ℤ) (start : Text) (turns : List GgaTurn) (vrs : Vrs) :
    Prop where
  position : vrs.client.nmeaGga = positionAfter start turns
  clock : 0 ≤ vrs.lastGgaSent
  apart : vrs.times.Pairwise fun earlier later => earlier + intervalNs ggaInterval ≤ later
  past : ∀ time ∈ vrs.times, intervalNs ggaInterval ≤ time ∧ time ≤ vrs.lastGgaSent
  lines : ∀ entry ∈ vrs.sent, ∃ front turn back, turns = front ++ turn :: back ∧
    positionAfter start (front ++ [turn]) ≠ [] ∧
    entry = (turn.now, terminated (positionAfter start (front ++ [turn])))

section

variable {ggaInterval : ℤ} {start : Text} {turns : List GgaTurn} {vrs : Vrs}

theorem positionAfter_concat (start : Text) (turns : List GgaTurn) (turn : GgaTurn) :
    positionAfter start (turns ++ [turn]) =
      turn.position.getD (positionAfter start turns) := by
  simp [positionAfter]

theorem nmeaGga_positioned (vrs : Vrs) (position : Option Text) :
    (vrs.positioned position).client.nmeaGga = position.getD vrs.client.nmeaGga := by
  cases position <;> rfl

theorem sent_positioned (vrs : Vrs) (position : Option Text) :
    (vrs.positioned position).sent = vrs.sent := by
  cases position <;> rfl

theorem lastGgaSent_positioned (vrs : Vrs) (position : Option Text) :
    (vrs.positioned position).lastGgaSent = vrs.lastGgaSent := by
  cases position <;> rfl

/-- `SetNmeaGga` before a turn. -/
theorem Scheduled.positioned (scheduled : Scheduled ggaInterval start turns vrs)
    (turn : GgaTurn) :
    Scheduled ggaInterval start (turns ++ [turn]) (vrs.positioned turn.position) := by
  refine ⟨?_, ?_, ?_, ?_, ?_⟩
  · rw [nmeaGga_positioned, positionAfter_concat, scheduled.position]
  · rw [lastGgaSent_positioned]
    exact scheduled.clock
  · rw [Vrs.times, sent_positioned]
    exact scheduled.apart
  · rw [Vrs.times, sent_positioned, lastGgaSent_positioned]
    exact scheduled.past
  · rw [sent_positioned]
    intro entry member
    rcases scheduled.lines entry member with ⟨front, other, back, rfl, present, same⟩
    refine ⟨front, other, back ++ [turn], ?_, present, same⟩
    rw [List.append_assoc]
    rfl

theorem scheduled_turn (scheduled : Scheduled ggaInterval start turns vrs) (turn : GgaTurn) :
    Scheduled ggaInterval start (turns ++ [turn]) (vrs.turn ggaInterval turn) := by
  have positive := intervalNs_pos ggaInterval
  have positioned := scheduled.positioned turn
  have steps := ggaSteps_turn ggaInterval vrs turn
  generalize vrs.turn ggaInterval turn = after at steps ⊢
  generalize vrs.positioned turn.position = before at positioned steps
  have clock := positioned.clock
  cases steps with
  | early early => exact positioned
  | fails present fails => exact positioned
  | empty due empty =>
      refine ⟨positioned.position, by dsimp only; omega, positioned.apart, ?_, positioned.lines⟩
      intro time member
      have past := positioned.past time member
      dsimp only
      omega
  | sends due present works =>
      have past : ∀ time ∈ before.times, time + intervalNs ggaInterval ≤ turn.now := by
        intro time member
        have := positioned.past time member
        omega
      refine ⟨positioned.position, by dsimp only; omega, ?_, ?_, ?_⟩
      · rw [Vrs.times, List.map_append, List.pairwise_append]
        refine ⟨positioned.apart, List.pairwise_singleton _ _, ?_⟩
        intro earlier member later last
        rw [List.mem_singleton.mp last]
        exact past earlier member
      · rw [Vrs.times, List.map_append]
        intro time member
        dsimp only
        rcases List.mem_append.mp member with old | new
        · have := positioned.past time old
          omega
        · rw [List.mem_singleton.mp new]
          dsimp only
          omega
      · intro entry member
        rcases List.mem_append.mp member with old | new
        · exact positioned.lines entry old
        · rw [positioned.position] at present
          refine ⟨turns, turn, [], rfl, present, ?_⟩
          rw [List.mem_singleton.mp new, positioned.position]

/-- The last turn is not long after the last position that was sent. -/
structure Regular (ggaInterval gap : ℤ) (turns : List GgaTurn) (vrs : Vrs) : Prop where
  present : vrs.client.nmeaGga ≠ []
  fresh : turns = [] → vrs.times = []
  chain : vrs.times.IsChain fun earlier later => later < earlier + intervalNs ggaInterval + gap
  last : ∀ time ∈ vrs.times.getLast?, time = vrs.lastGgaSent
  recent : ∀ turn ∈ turns.getLast?, turn.now < vrs.lastGgaSent + intervalNs ggaInterval

/-- There is a position, and it can be sent. -/
def GgaTurn.Works (turn : GgaTurn) : Prop :=
  turn.position ≠ some [] ∧ ∀ line, line ≠ [] → 0 < (turn.send line).result

theorem regular_turn {gap : ℤ} {turn : GgaTurn}
    (regular : Regular ggaInterval gap turns vrs) (works : turn.Works)
    (soon : ∀ earlier ∈ turns.getLast?, turn.now ≤ earlier.now + gap) :
    Regular ggaInterval gap (turns ++ [turn]) (vrs.turn ggaInterval turn) := by
  have positive := intervalNs_pos ggaInterval
  have steps := ggaSteps_turn ggaInterval vrs turn
  have present : (vrs.positioned turn.position).client.nmeaGga ≠ [] := by
    rw [nmeaGga_positioned]
    cases position : turn.position with
    | none => exact regular.present
    | some gga =>
        rintro rfl
        exact works.1 position
  have times : (vrs.positioned turn.position).times = vrs.times := by
    rw [Vrs.times, sent_positioned, Vrs.times]
  have last := lastGgaSent_positioned vrs turn.position
  generalize vrs.turn ggaInterval turn = after at steps ⊢
  generalize vrs.positioned turn.position = before at present times last steps
  cases steps with
  | empty due empty => exact absurd empty present
  | fails _ fails => exact absurd fails (not_le.mpr (works.2 _ (terminated_ne_nil _)))
  | early early =>
      refine ⟨present, by simp, ?_, ?_, ?_⟩
      · rw [times]
        exact regular.chain
      · rw [times, last]
        exact regular.last
      · intro other newest
        rw [List.getLast?_concat, Option.mem_some_iff] at newest
        rw [← newest]
        omega
  | sends due _ _ =>
      have sent : Vrs.times { before with
          lastGgaSent := turn.now
          sent := before.sent ++ [(turn.now, terminated before.client.nmeaGga)] } =
          vrs.times ++ [turn.now] := by
        rw [← times, Vrs.times, List.map_append]
        rfl
      refine ⟨present, by simp, ?_, ?_, ?_⟩
      · rw [sent, List.isChain_append]
        refine ⟨regular.chain, List.isChain_singleton _, ?_⟩
        intro earlier isLast later isNew
        rw [List.head?_cons, Option.mem_some_iff] at isNew
        rw [← isNew, regular.last earlier isLast]
        -- Something was sent, so there was a turn before this one.
        cases previous : turns.getLast? with
        | none =>
            rw [regular.fresh (List.getLast?_eq_none_iff.mp previous)] at isLast
            cases isLast
        | some turnBefore =>
            have near := soon turnBefore previous
            have recent := regular.recent turnBefore previous
            omega
      · rw [sent, List.getLast?_concat]
        intro time isLast
        exact (Option.mem_some_iff.mp isLast).symm
      · intro other newest
        rw [List.getLast?_concat, Option.mem_some_iff] at newest
        rw [← newest]
        dsimp only
        omega

variable (ggaInterval) (client : Client) (turns)

theorem scheduled_run : Scheduled ggaInterval client.nmeaGga turns
    (turns.foldl (Vrs.turn ggaInterval) { client := client }) := by
  induction turns using List.reverseRecOn with
  | nil => exact ⟨rfl, Int.le_refl 0, .nil, by simp [Vrs.times], by simp⟩
  | append_singleton turns turn induction =>
      rw [List.foldl_concat]
      exact scheduled_turn induction turn

theorem regular_run {gap : ℤ} (present : client.nmeaGga ≠ [])
    (works : ∀ turn ∈ turns, turn.Works)
    (chain : (turns.map GgaTurn.now).IsChain fun earlier later => later ≤ earlier + gap) :
    Regular ggaInterval gap turns
      (turns.foldl (Vrs.turn ggaInterval) { client := client }) := by
  induction turns using List.reverseRecOn with
  | nil => exact ⟨present, fun _ => rfl, .nil, by simp [Vrs.times], by simp⟩
  | append_singleton turns turn induction =>
      rw [List.map_append, List.isChain_append] at chain
      have before := induction (fun other member => works other (by simp [member])) chain.1
      rw [List.foldl_concat]
      refine regular_turn before (works turn (by simp)) ?_
      intro other isLast
      refine chain.2.2 other.now ?_ turn.now rfl
      rw [List.getLast?_map, isLast]
      rfl

end

/-- A turn in each half second. -/
def halfSeconds : List GgaTurn :=
  [5000000000, 5500000000, 6000000000, 6500000000].map fun now =>
    ⟨none, now, fun line => ⟨line.length, false, []⟩⟩

def roverClient : Client where
  config := casterOptions
  nmeaGga := "$GPGGA,060000.00,5043.2,N,00705.6,E,4,12,0.9,60.0,M,47.0,M,1.0,0000*5A".toList

end AsterxDriver.Ntrip
