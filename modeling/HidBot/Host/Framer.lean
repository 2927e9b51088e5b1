import HidBot.Framing.Grammar

/-!
# The host framer

`hidbot.framing.Framer`: it cuts the mixed output of the device into machine frames and
log lines. What a line is depends on the whole line; the framer decides it from the bytes
that it has kept.
-/

namespace HidBot.Host

open ControlFraming (Byte framePrefix lineFeed carriageReturn terminatedLines
  withoutCarriageReturn terminatedLines_append)

/-- `MAX_MACHINE_FRAME_BYTES`. -/
def maxMachineFrameBytes : Nat := 1024

inductive FrameEvent where
  | machineFrame (payload : List Byte)
  | machineFrameIssue (reason : String)
  deriving DecidableEq, Repr

/-- `logs` says whether there is a log sink. -/
structure Framer where
  logs : Bool
  line : List Byte := []
  overlong : Bool := false
  machineCandidate : Bool := false
  deriving DecidableEq, Repr

/-- The events that a call returns, and the lines that it hands to the log sink. -/
structure Fed where
  events : List FrameEvent := []
  logged : List (List Byte) := []
  deriving DecidableEq, Repr

def Fed.append (first second : Fed) : Fed :=
  ⟨first.events ++ second.events, first.logged ++ second.logged⟩

namespace Framer

def reset (framer : Framer) : Framer :=
  { framer with line := [], overlong := false, machineCandidate := false }

/-- The first bytes of the line are those of the frame prefix. -/
def isCandidate (line : List Byte) : Bool :=
  let prefixLength := min line.length framePrefix.length
  line.take prefixLength = framePrefix.take prefixLength

def startByte (framer : Framer) (byte : Byte) : Framer :=
  let line := framer.line ++ [byte]
  { framer with line, machineCandidate := isCandidate line }

def finishLine (framer : Framer) : Framer × Fed :=
  let fed : Fed :=
    if framer.overlong then
      { events := if framer.machineCandidate then [.machineFrameIssue "oversize"] else [] }
    else
      let line := withoutCarriageReturn framer.line
      if framePrefix <+: line then
        { events := [.machineFrame (line.drop framePrefix.length)] }
      else { logged := if framer.logs then [line] else [] }
  (framer.reset, fed)

/-- The body of the loop of `feed`. -/
def feedByte (framer : Framer) (byte : Byte) : Framer × Fed :=
  if byte = lineFeed then framer.finishLine
  else if framer.overlong then (framer, {})
  else if maxMachineFrameBytes - 1 ≤ framer.line.length then
    ({ framer with overlong := true }, {})
  else if framer.line = [] then (framer.startByte byte, {})
  else
    let line := framer.line ++ [byte]
    ({ framer with line, machineCandidate := isCandidate line }, {})

/-- Consume a chunk. -/
def feed (framer : Framer) : List Byte → Framer × Fed
  | [] => (framer, {})
  | byte :: data =>
      let fed := framer.feedByte byte
      let rest := fed.1.feed data
      (rest.1, fed.2.append rest.2)

/-- Consume chunks, one call each. -/
def feedChunks (framer : Framer) : List (List Byte) → Framer × Fed
  | [] => (framer, {})
  | chunk :: chunks =>
      let fed := framer.feed chunk
      let rest := fed.1.feedChunks chunks
      (rest.1, fed.2.append rest.2)

end Framer

/-- The payloads of the machine frames among the events. -/
def machinePayloads (events : List FrameEvent) : List (List Byte) :=
  events.filterMap fun
    | .machineFrame payload => some payload
    | .machineFrameIssue _ => none

def iterMachinePayloads (chunks : List (List Byte)) : List (List Byte) :=
  machinePayloads (Framer.feedChunks { logs := false } chunks).2.events

/-! ### Lines -/

/-- A line that is kept whole. -/
def ShortLine (line : List Byte) : Prop := line.length ≤ maxMachineFrameBytes - 1

instance (line : List Byte) : Decidable (ShortLine line) := inferInstanceAs (Decidable (_ ≤ _))

/-- The event of a line. -/
def machineEvent (line : List Byte) : Option FrameEvent :=
  if ShortLine line then
    if framePrefix <+: withoutCarriageReturn line then
      some (.machineFrame ((withoutCarriageReturn line).drop framePrefix.length))
    else none
  else if framePrefix <+: line then some (.machineFrameIssue "oversize")
  else none

/-- The line of the log that a line is. -/
def logLine (line : List Byte) : Option (List Byte) :=
  if ShortLine line ∧ ¬framePrefix <+: withoutCarriageReturn line then
    some (withoutCarriageReturn line)
  else none

/-- What a stream contains: the events and the log lines of its terminated lines. -/
def Fed.ofStream (logs : Bool) (stream : List Byte) : Fed where
  events := (terminatedLines stream).filterMap machineEvent
  logged := if logs then (terminatedLines stream).filterMap logLine else []

/-! ### The framer in a line -/

namespace Framer

variable {logs : Bool} {line : List Byte}

/-- The framer that has read these bytes of a line. -/
def reading (logs : Bool) (line : List Byte) : Framer where
  logs := logs
  line := line.take (maxMachineFrameBytes - 1)
  overlong := ¬ShortLine line
  machineCandidate := line ≠ [] ∧ isCandidate (line.take (maxMachineFrameBytes - 1))

theorem reading_nil : reading logs [] = { logs } := rfl

theorem reading_short (short : ShortLine line) :
    reading logs line = ⟨logs, line, false, line ≠ [] ∧ isCandidate line⟩ := by
  simp only [reading, List.take_of_length_le short, short, not_true_eq_false, decide_false]

/-- A byte of a line is read. -/
theorem feedByte_reading {byte : Byte} (inside : byte ≠ lineFeed) :
    (reading logs line).feedByte byte = (reading logs (line ++ [byte]), {}) := by
  have longer : (line ++ [byte]).length = line.length + 1 := List.length_append
  by_cases short : ShortLine line
  · rw [reading_short short, feedByte, if_neg inside, if_neg Bool.false_ne_true]
    dsimp only
    by_cases full : maxMachineFrameBytes - 1 ≤ line.length
    · have long : ¬ShortLine (line ++ [byte]) := by
        unfold ShortLine
        omega
      have kept : (line ++ [byte]).take (maxMachineFrameBytes - 1) = line :=
        List.take_left' (Nat.le_antisymm short full)
      have nonempty : line ≠ [] := by
        rintro rfl
        exact absurd full (by decide)
      simp [reading, kept, long, full, nonempty]
    · have shorter : ShortLine (line ++ [byte]) := by
        unfold ShortLine
        omega
      rw [if_neg full, reading_short shorter]
      split <;> simp [startByte]
  · have long : ¬ShortLine (line ++ [byte]) := by
      unfold ShortLine at short ⊢
      omega
    have kept : (line ++ [byte]).take (maxMachineFrameBytes - 1) =
        line.take (maxMachineFrameBytes - 1) := by
      unfold ShortLine at short
      exact List.take_append_of_le_length (by omega)
    have nonempty : line ≠ [] := by
      rintro rfl
      exact short (by decide)
    have overlong : (reading logs line).overlong = true := by simp [reading, short]
    rw [feedByte, if_neg inside, if_pos overlong]
    simp [reading, kept, short, long, nonempty]

/-- The first bytes of a long line tell whether it is a machine candidate. -/
theorem isCandidate_long (long : ¬ShortLine line) :
    isCandidate (line.take (maxMachineFrameBytes - 1)) = true ↔ framePrefix <+: line := by
  unfold ShortLine at long
  have enough : framePrefix.length ≤ maxMachineFrameBytes - 1 := by decide
  have length : (line.take (maxMachineFrameBytes - 1)).length = maxMachineFrameBytes - 1 :=
    List.length_take_of_le (by omega)
  rw [isCandidate, length, Nat.min_eq_right enough, List.take_take, Nat.min_eq_left enough,
    List.take_of_length_le (Nat.le_refl framePrefix.length), List.prefix_iff_eq_take,
    decide_eq_true_iff]
  exact eq_comm

/-- A line ends, and what it is goes out. -/
theorem feedByte_lineFeed : (reading logs line).feedByte lineFeed = (reading logs [],
    ⟨(machineEvent line).toList, if logs then (logLine line).toList else []⟩) := by
  rw [feedByte, if_pos rfl, finishLine, machineEvent, logLine]
  refine Prod.ext rfl ?_
  by_cases short : ShortLine line
  · rw [reading_short short, if_pos short, if_neg Bool.false_ne_true]
    dsimp only
    by_cases framed : framePrefix <+: withoutCarriageReturn line
    · simp [framed]
    · simp [framed, short]
  · have overlong : (reading logs line).overlong = true := by simp [reading, short]
    have nonempty : line ≠ [] := by
      rintro rfl
      exact short (by decide)
    have candidate : (reading logs line).machineCandidate = true ↔ framePrefix <+: line := by
      simpa [reading, nonempty] using isCandidate_long short
    rw [if_pos overlong, if_neg short]
    by_cases framed : framePrefix <+: line
    · simp [framed, candidate.mpr framed, short]
    · simp [framed, mt candidate.mp framed, short]

/-! ### Streams -/

theorem feed_append (framer : Framer) (data more : List Byte) :
    framer.feed (data ++ more) = (((framer.feed data).1.feed more).1,
      (framer.feed data).2.append ((framer.feed data).1.feed more).2) := by
  induction data generalizing framer with
  | nil => rfl
  | cons byte data ih => simp [feed, ih, Fed.append]

/-- How the stream is cut into chunks does not matter. -/
theorem feedChunks_eq (framer : Framer) (chunks : List (List Byte)) :
    framer.feedChunks chunks = framer.feed chunks.flatten := by
  induction chunks generalizing framer with
  | nil => rfl
  | cons chunk chunks ih => simp [feedChunks, feed_append, ih]

theorem ofStream_open (open_ : lineFeed ∉ line) : Fed.ofStream logs line = {} := by
  have none : terminatedLines line = [] := by
    simpa [terminatedLines] using terminatedLines_append open_ []
  simp [Fed.ofStream, none]

theorem ofStream_line (open_ : lineFeed ∉ line) (stream : List Byte) :
    Fed.ofStream logs (line ++ lineFeed :: stream) =
      Fed.append ⟨(machineEvent line).toList, if logs then (logLine line).toList else []⟩
        (Fed.ofStream logs stream) := by
  have first : terminatedLines (line ++ lineFeed :: stream) = line :: terminatedLines stream := by
    simp [terminatedLines_append open_, terminatedLines]
  rw [Fed.ofStream, Fed.ofStream, first, List.filterMap_cons, List.filterMap_cons]
  cases machineEvent line <;> cases logLine line <;> cases logs <;> rfl

/-- Within a line, the rest of the stream is consumed as the whole lines that it makes. -/
theorem feed_reading (logs : Bool) (open_ : lineFeed ∉ line) (stream : List Byte) :
    ∃ tail, (reading logs line).feed stream =
      (reading logs tail, Fed.ofStream logs (line ++ stream)) := by
  induction stream generalizing line with
  | nil => exact ⟨line, by rw [List.append_nil, ofStream_open open_]; rfl⟩
  | cons byte stream ih =>
      by_cases ends : byte = lineFeed
      · subst ends
        have empty : lineFeed ∉ ([] : List Byte) := List.not_mem_nil
        obtain ⟨tail, later⟩ := ih empty
        refine ⟨tail, ?_⟩
        rw [feed, feedByte_lineFeed, ofStream_line open_]
        dsimp only
        rw [later]
        rfl
      · have open' : lineFeed ∉ line ++ [byte] := by simp [open_, Ne.symm ends]
        obtain ⟨tail, later⟩ := ih open'
        refine ⟨tail, ?_⟩
        rw [feed, feedByte_reading ends]
        dsimp only
        rw [later, List.append_assoc]
        rfl

/-- Never more than a short line is kept. -/
theorem feed_retains (logs : Bool) (stream : List Byte) :
    ((Framer.mk logs [] false false).feed stream).1.line.length ≤ maxMachineFrameBytes - 1 := by
  obtain ⟨tail, fed⟩ := feed_reading logs List.not_mem_nil stream
  rw [← reading_nil, fed]
  exact List.length_take_le ..

end Framer

/-- **The framer cuts a stream into the lines that it has.** -/
theorem framer_splits (logs : Bool) (chunks : List (List Byte)) :
    (Framer.feedChunks { logs } chunks).2 = Fed.ofStream logs chunks.flatten ∧
      ∀ read, read <+: chunks.flatten →
        (Framer.feed { logs } read).1.line.length ≤ maxMachineFrameBytes - 1 := by
  refine ⟨?_, fun read _ => Framer.feed_retains logs read⟩
  obtain ⟨tail, fed⟩ := Framer.feed_reading logs List.not_mem_nil chunks.flatten
  rw [Framer.feedChunks_eq, ← Framer.reading_nil, fed]
  rfl

/-- The payloads are those of the lines that are framed. -/
theorem iterMachinePayloads_eq (chunks : List (List Byte)) :
    iterMachinePayloads chunks =
      machinePayloads ((terminatedLines chunks.flatten).filterMap machineEvent) := by
  rw [iterMachinePayloads, (framer_splits false chunks).1]
  rfl

example : (Framer.feedChunks { logs := true }
    [[111, 107, 13, 10, 64, 72, 73, 68], [66, 79, 84, 32, 123, 125, 13, 10, 64]]).2 =
      ⟨[.machineFrame [123, 125]], [[111, 107]]⟩ := by decide

end HidBot.Host
