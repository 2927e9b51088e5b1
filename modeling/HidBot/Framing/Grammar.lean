import Mathlib.Data.List.Induction
import Mathlib.Data.List.TakeWhile
import HidBot.Framing.Transport

/-!
# The grammar of the control stream

Which events a stream has, read off from the whole of it: runs of NULs cut it into
pieces, line feeds cut a piece into lines, and a line is a frame by its prefix and its
length. The transport emits these events, in this order.
-/

namespace HidBot.ControlFraming

/-- The pieces between the maximal runs of four or more NULs; shorter runs are data. -/
def pieces : List Byte → List (List Byte)
  | [] => [[]]
  | byte :: stream =>
      if byte = 0 then
        let zeros := (byte :: stream).takeWhile (· == 0)
        let rest := stream.dropWhile (· == 0)
        if transportSyncLength ≤ zeros.length then [] :: pieces rest
        else (pieces rest).modifyHead (zeros ++ ·)
      else (pieces stream).modifyHead (byte :: ·)
termination_by stream => stream.length
decreasing_by
  all_goals simp only [List.length_cons]
  · exact Nat.lt_succ_of_le (List.dropWhile_suffix _).length_le
  · exact Nat.lt_succ_of_le (List.dropWhile_suffix _).length_le
  · exact Nat.lt_succ_self _

/-- The lines of a piece that are ended by a line feed, without it. -/
def terminatedLines : List Byte → List (List Byte)
  | [] => []
  | byte :: piece =>
      if byte = lineFeed then [] :: terminatedLines piece
      else (terminatedLines piece).modifyHead (byte :: ·)

def withoutCarriageReturn (payload : List Byte) : List Byte :=
  if payload.getLast? = some carriageReturn then payload.dropLast else payload

/-- What a line is, if anything. -/
def lineEvent (line : List Byte) : Option Event :=
  if framePrefix <+: line then
    some (if line.length ≤ maxRequestLineBytes then
      .frame (withoutCarriageReturn (line.drop framePrefix.length))
    else .overlongProtocolFrame)
  else none

def pieceEvents (piece : List Byte) : List Event := (terminatedLines piece).filterMap lineEvent

/-- The events of a stream: one synchronization between two pieces. -/
def streamEvents (stream : List Byte) : List Event :=
  [Event.transportSync].intercalate ((pieces stream).map pieceEvents)

/-! ### Lines -/

theorem payload_eq {frame : List Byte} (collected : framePrefix <+: frame) :
    Transport.payload frame = withoutCarriageReturn (frame.drop framePrefix.length) := by
  obtain ⟨rest, rfl⟩ := collected
  unfold Transport.payload withoutCarriageReturn
  rw [List.drop_left, List.length_append, Nat.add_sub_cancel_left]
  cases rest using List.reverseRecOn with
  | nil => rfl
  | append_singleton rest last =>
      rw [← List.append_assoc, List.getLast?_concat, List.getLast?_concat]
      by_cases ended : last = carriageReturn
      · simp [ended]
      · have whole : (rest ++ [last]).length ≤ (rest ++ [last]).length := Nat.le_refl _
        simp only [Option.some.injEq, ended, and_false, if_false]
        exact List.take_of_length_le whole

/-- The transport has read these bytes of a line, none of which is a line feed. -/
inductive Reads (transport : Transport) (line : List Byte) : Prop
  | seeking (state : transport.lineState = .seekingPrefix)
      (matched : transport.prefixMatchLength = line.length) (frame : transport.frame = line)
      (started : line <+: framePrefix) (short : line.length < framePrefix.length)
  | collecting (state : transport.lineState = .collectingFrame) (frame : transport.frame = line)
      (started : framePrefix <+: line) (fits : line.length ≤ maxRequestLineBytes)
  | discarding (state : transport.lineState = .discardingFrame)
      (started : framePrefix <+: line) (long : maxRequestLineBytes < line.length)
  | ignoring (state : transport.lineState = .ignoringLine) (other : ¬framePrefix <+: line)
      (diverged : ¬line <+: framePrefix)

variable {transport : Transport} {line : List Byte}

theorem Reads.reset (transport : Transport) : Reads transport.resetLine [] :=
  .seeking rfl rfl rfl List.nil_prefix (by decide)

theorem Reads.congr {other : Transport} (reads : Reads transport line)
    (state : other.lineState = transport.lineState)
    (matched : other.prefixMatchLength = transport.prefixMatchLength)
    (frame : other.frame = transport.frame) : Reads other line := by
  cases reads with
  | seeking state' matched' frame' started short =>
      exact .seeking (state.trans state') (matched.trans matched') (frame.trans frame') started
        short
  | collecting state' frame' started fits =>
      exact .collecting (state.trans state') (frame.trans frame') started fits
  | discarding state' started long => exact .discarding (state.trans state') started long
  | ignoring state' other diverged => exact .ignoring (state.trans state') other diverged

/-- A byte that goes on with a list. -/
theorem concat_prefix_iff {byte : Byte} {whole : List Byte} (started : line <+: whole) :
    line ++ [byte] <+: whole ↔ some byte = whole[line.length]? := by
  obtain ⟨rest, rfl⟩ := started
  rw [List.prefix_append_right_inj, List.getElem?_append_right (Nat.le_refl _), Nat.sub_self]
  cases rest <;> simp [List.cons_prefix_cons, eq_comm]

/-- A byte of a line is read, and nothing is emitted. -/
theorem Reads.byte (reads : Reads transport line) {byte : Byte} (inside : byte ≠ lineFeed) :
    Reads (transport.consumeLineByte byte).1 (line ++ [byte]) ∧
      (transport.consumeLineByte byte).2 = [] ∧
      (transport.consumeLineByte byte).1.consecutiveZeros = transport.consecutiveZeros := by
  unfold Transport.consumeLineByte
  rw [if_neg inside]
  cases reads with
  | seeking state matched frame started short =>
      rw [state]
      dsimp only
      rw [matched]
      have longer : (line ++ [byte]).length = line.length + 1 := List.length_append
      split
      · rename_i other
        have diverged : ¬line ++ [byte] <+: framePrefix := fun further =>
          other ((concat_prefix_iff started).mp further)
        refine ⟨.ignoring rfl (fun whole => diverged ?_) diverged, rfl, rfl⟩
        have same := whole.eq_of_length_le (by omega)
        exact same ▸ List.prefix_rfl
      · rename_i next
        have further := (concat_prefix_iff started).mpr (not_not.mp next)
        refine ⟨?_, rfl, rfl⟩
        split
        · have same := further.eq_of_length (by omega)
          refine .collecting rfl (congrArg (· ++ [byte]) frame) (same ▸ List.prefix_rfl) ?_
          rw [same]
          decide
        · exact .seeking rfl longer.symm (congrArg (· ++ [byte]) frame) further (by omega)
  | collecting state frame started fits =>
      rw [state]
      dsimp only
      have longer := started.trans (List.prefix_append line [byte])
      split
      · refine ⟨.collecting rfl (congrArg (· ++ [byte]) frame) longer ?_, rfl, rfl⟩
        rw [frame] at *
        simpa using Nat.succ_le_of_lt ‹_›
      · refine ⟨.discarding rfl longer ?_, rfl, rfl⟩
        rw [frame] at *
        simp
        omega
  | discarding state started long =>
      rw [state]
      refine ⟨.discarding state (started.trans (List.prefix_append line [byte])) ?_, rfl, rfl⟩
      simp
      omega
  | ignoring state other diverged =>
      rw [state]
      refine ⟨.ignoring state (fun started => ?_) (fun started => ?_), rfl, rfl⟩
      · rcases List.prefix_concat_iff.mp started with whole | inner
        · exact diverged (whole ▸ List.prefix_append line [byte])
        · exact other inner
      · exact diverged ((List.prefix_append line [byte]).trans started)

/-- The end of a line emits what the line is. -/
theorem Reads.ends (reads : Reads transport line) :
    (transport.consumeLineByte lineFeed).1 = transport.resetLine ∧
      (transport.consumeLineByte lineFeed).2 = (lineEvent line).toList := by
  refine ⟨rfl, ?_⟩
  unfold Transport.consumeLineByte lineEvent
  rw [if_pos rfl]
  cases reads with
  | seeking state matched frame started short =>
      have other : ¬framePrefix <+: line := fun whole =>
        absurd whole.length_le (Nat.not_le_of_lt short)
      simp [state, other]
  | collecting state frame started fits =>
      simp [state, started, fits, frame, payload_eq started]
  | discarding state started long => simp [state, started, Nat.not_le_of_lt long]
  | ignoring state other diverged => simp [state, other]

/-! ### Pieces -/

/-- Bytes with no run of four NULs, which do not end in a NUL. -/
inductive Data : List Byte → Prop
  | nil : Data []
  | cons (zeros : Nat) (short : zeros < transportSyncLength) {byte : Byte} (nonzero : byte ≠ 0)
      {rest : List Byte} (data : Data rest) : Data (.replicate zeros 0 ++ byte :: rest)

theorem Data.concat {data : List Byte} (read : Data data) {zeros : Nat}
    (short : zeros < transportSyncLength) {byte : Byte} (nonzero : byte ≠ 0) :
    Data (data ++ .replicate zeros 0 ++ [byte]) := by
  induction read with
  | nil => exact .cons zeros short nonzero .nil
  | cons first small other _ ih => simpa using Data.cons first small other ih

theorem takeWhile_zeros (zeros : Nat) {rest : List Byte} (maximal : rest.head? ≠ some 0) :
    (List.replicate zeros 0 ++ rest).takeWhile (· == 0) = .replicate zeros 0 ∧
      (List.replicate zeros 0 ++ rest).dropWhile (· == 0) = rest := by
  induction zeros with
  | zero =>
      cases rest with
      | nil => exact ⟨rfl, rfl⟩
      | cons byte rest =>
          have nonzero : byte ≠ 0 := by simpa using maximal
          simp [nonzero]
  | succ zeros ih => simp [List.replicate_succ, ih]

theorem modifyHead_nil_append (lists : List (List Byte)) :
    lists.modifyHead ([] ++ ·) = lists := by
  cases lists <;> rfl

/-- A maximal run of NULs. -/
theorem pieces_zeros (zeros : Nat) {rest : List Byte} (maximal : rest.head? ≠ some 0) :
    pieces (.replicate zeros 0 ++ rest) =
      if transportSyncLength ≤ zeros then [] :: pieces rest
      else (pieces rest).modifyHead (.replicate zeros 0 ++ ·) := by
  cases zeros with
  | zero => exact (modifyHead_nil_append _).symm
  | succ zeros =>
      have whole := (takeWhile_zeros (zeros + 1) maximal).1
      have rest := (takeWhile_zeros zeros maximal).2
      rw [List.replicate_succ, List.cons_append] at whole ⊢
      rw [pieces, if_pos rfl, whole, rest]
      dsimp only
      rw [List.length_cons, List.length_replicate]

theorem pieces_ne_nil (stream : List Byte) : pieces stream ≠ [] := by
  have kept (data : List Byte) {lists : List (List Byte)} (some : lists ≠ []) :
      lists.modifyHead (data ++ ·) ≠ [] := by
    cases lists with
    | nil => exact absurd rfl some
    | cons first rest => exact List.cons_ne_nil _ _
  fun_induction pieces stream with
  | case1 | case2 => exact List.cons_ne_nil _ _
  | case3 => exact kept _ ‹_›
  | case4 byte => exact kept [byte] ‹_›

/-- Data before a stream belong to its first piece. -/
theorem pieces_data {data : List Byte} (read : Data data) (stream : List Byte) :
    pieces (data ++ stream) = (pieces stream).modifyHead (data ++ ·) := by
  induction read with
  | nil => exact (modifyHead_nil_append _).symm
  | @cons zeros short byte nonzero rest _ ih =>
      have maximal : (byte :: (rest ++ stream)).head? ≠ some 0 := by simpa using nonzero
      have split := pieces_zeros zeros maximal
      rw [if_neg (Nat.not_le_of_lt short)] at split
      rw [List.append_assoc, List.cons_append, split, pieces, if_neg nonzero, ih]
      cases pieces stream <;> simp

/-! ### Events -/

theorem terminatedLines_append {line : List Byte} (open_ : lineFeed ∉ line) (piece : List Byte) :
    terminatedLines (line ++ piece) = (terminatedLines piece).modifyHead (line ++ ·) := by
  induction line with
  | nil => exact (modifyHead_nil_append _).symm
  | cons byte line ih =>
      have inside : byte ≠ lineFeed := fun same => open_ (same ▸ List.mem_cons_self)
      have later := ih fun member => open_ (List.mem_cons_of_mem _ member)
      rw [List.cons_append, terminatedLines, if_neg inside, later]
      cases terminatedLines piece <;> rfl

theorem pieceEvents_open {line : List Byte} (open_ : lineFeed ∉ line) : pieceEvents line = [] := by
  have none := terminatedLines_append open_ []
  rw [List.append_nil] at none
  rw [pieceEvents, none]
  rfl

theorem pieceEvents_line {line : List Byte} (open_ : lineFeed ∉ line) (piece : List Byte) :
    pieceEvents (line ++ lineFeed :: piece) = (lineEvent line).toList ++ pieceEvents piece := by
  rw [pieceEvents, terminatedLines_append open_, terminatedLines, if_pos rfl,
    List.modifyHead_cons, List.append_nil, List.filterMap_cons]
  cases lineEvent line <;> rfl

/-- A line that ends at the start of a stream. -/
theorem streamEvents_line {line : List Byte} (open_ : lineFeed ∉ line)
    (read : Data (line ++ [lineFeed])) (stream : List Byte) :
    streamEvents (line ++ lineFeed :: stream) =
      (lineEvent line).toList ++ streamEvents stream := by
  have split := pieces_data read stream
  rw [List.append_assoc, List.singleton_append] at split
  rw [streamEvents, streamEvents, split]
  cases pieced : pieces stream with
  | nil => exact absurd pieced (pieces_ne_nil stream)
  | cons piece later =>
      rw [List.modifyHead_cons, List.map_cons, List.map_cons, List.append_assoc,
        List.singleton_append, pieceEvents_line open_]
      cases later <;> simp [List.intercalate]

/-- A run of NULs that ends the line before it. -/
theorem streamEvents_sync {line : List Byte} (open_ : lineFeed ∉ line) (read : Data line)
    {zeros : Nat} (long : transportSyncLength ≤ zeros) {stream : List Byte}
    (maximal : stream.head? ≠ some 0) :
    streamEvents (line ++ (.replicate zeros 0 ++ stream)) =
      .transportSync :: streamEvents stream := by
  have split := pieces_zeros zeros maximal
  rw [if_pos long] at split
  rw [streamEvents, pieces_data read, split, List.modifyHead_cons, List.append_nil, List.map_cons,
    pieceEvents_open open_]
  cases later : pieces stream with
  | nil => exact absurd later (pieces_ne_nil stream)
  | cons piece rest => simp [streamEvents, later, List.intercalate]

theorem zeros_open (zeros : Nat) : lineFeed ∉ List.replicate zeros (0 : Byte) := by
  intro member
  exact absurd (List.eq_of_mem_replicate member) (by decide)

theorem streamEvents_open {line : List Byte} (open_ : lineFeed ∉ line) (read : Data line)
    {zeros : Nat} (short : zeros < transportSyncLength) :
    streamEvents (line ++ .replicate zeros 0) = [] := by
  have maximal : ([] : List Byte).head? ≠ some 0 := nofun
  have split := pieces_zeros zeros maximal
  rw [if_neg (Nat.not_le_of_lt short), List.append_nil] at split
  have whole : lineFeed ∉ line ++ List.replicate zeros 0 :=
    List.not_mem_append open_ (zeros_open zeros)
  rw [streamEvents, pieces_data read, split, pieces, List.modifyHead_cons, List.modifyHead_cons,
    List.append_nil, List.map_cons, pieceEvents_open whole]
  rfl

/-! ### The transport -/

/-- The NULs that were held back are read as data. -/
theorem Reads.zeros (reads : Reads transport line) (zeros : Nat) :
    Reads (transport.consumeLineBytes (.replicate zeros 0)).1 (line ++ .replicate zeros 0) ∧
      (transport.consumeLineBytes (.replicate zeros 0)).2 = [] := by
  induction zeros generalizing transport line with
  | zero =>
      rw [List.replicate_zero, List.append_nil]
      exact ⟨reads, rfl⟩
  | succ zeros ih =>
      obtain ⟨next, silent, _⟩ := reads.byte (by decide : (0 : Byte) ≠ lineFeed)
      obtain ⟨later, quiet⟩ := ih next
      rw [List.replicate_succ, Transport.consumeLineBytes]
      refine ⟨by simpa using later, ?_⟩
      rw [silent, quiet]
      rfl

/-- The events that the transport emits are those of the stream, when it has read this
line and held back some NULs. -/
def Emits (stream : List Byte) : Prop :=
  ∀ transport line, Reads transport line → Data line → lineFeed ∉ line →
    transport.consecutiveZeros < transportSyncLength →
      (transport.consume stream).2 =
        streamEvents (line ++ (.replicate transport.consecutiveZeros 0 ++ stream))

/-- A byte that is not NUL, after the NULs held back were read. -/
theorem Emits.byte {stream : List Byte} (emits : Emits stream) (reads : Reads transport line)
    (open_ : lineFeed ∉ line) {byte : Byte} (read : Data (line ++ [byte]))
    (none : transport.consecutiveZeros = 0) :
    (transport.consumeLineByte byte).2 ++ ((transport.consumeLineByte byte).1.consume stream).2 =
      streamEvents (line ++ byte :: stream) := by
  by_cases ended : byte = lineFeed
  · subst ended
    obtain ⟨reset, event⟩ := reads.ends
    have later := emits transport.resetLine [] (.reset transport) .nil nofun
      (none ▸ by decide)
    rw [reset, event, later, streamEvents_line open_ read]
    have zeros : transport.resetLine.consecutiveZeros = 0 := none
    rw [zeros]
    rfl
  · obtain ⟨next, silent, zeros⟩ := reads.byte ended
    have whole : lineFeed ∉ line ++ [byte] :=
      List.not_mem_append open_ fun member => ended (List.mem_singleton.mp member).symm
    rw [none] at zeros
    have later := emits _ _ next read whole (zeros ▸ by decide)
    rw [silent, later, zeros]
    simp

/-- After a synchronization, the NULs that follow it are dropped. -/
def Drops (stream : List Byte) : Prop :=
  ∀ transport, Reads transport [] → transport.consecutiveZeros = transportSyncLength →
    (transport.consume stream).2 = streamEvents (stream.dropWhile (· == 0))

theorem zeros_dropWhile (stream : List Byte) :
    ∃ zeros, stream = .replicate zeros 0 ++ stream.dropWhile (· == 0) := by
  refine ⟨(stream.takeWhile (· == 0)).length, ?_⟩
  have zeros : stream.takeWhile (· == 0) =
      .replicate (stream.takeWhile (· == 0)).length 0 := by
    refine List.eq_replicate_of_mem fun byte member => ?_
    simpa using List.mem_takeWhile_imp member
  rw [← zeros]
  exact (List.takeWhile_append_dropWhile ..).symm

theorem dropWhile_maximal (stream : List Byte) :
    (stream.dropWhile (· == 0)).head? ≠ some 0 := by
  intro first
  have nonzero := List.head?_dropWhile_not (· == 0) stream
  rw [first] at nonzero
  cases nonzero

theorem Emits.cons {stream : List Byte} (emits : Emits stream) (drops : Drops stream)
    (byte : Byte) : Emits (byte :: stream) := by
  intro transport line reads read open_ short
  rw [Transport.consume, Transport.consumeByte]
  by_cases zero : byte = 0
  · subst zero
    rw [if_pos rfl, if_pos short]
    dsimp only
    split
    · rename_i synced
      obtain ⟨more, run⟩ := zeros_dropWhile stream
      have held : List.replicate transport.consecutiveZeros 0 ++ 0 :: stream =
          .replicate (transportSyncLength + more) 0 ++ stream.dropWhile (· == 0) := by
        conv_lhs => rw [run]
        rw [← synced, List.append_cons, ← List.replicate_succ', ← List.append_assoc,
          List.replicate_append_replicate]
      have reset : Reads (Transport.resetLine { transport with
          consecutiveZeros := transport.consecutiveZeros + 1 }) [] := .reset _
      rw [held, streamEvents_sync open_ read (Nat.le_add_right ..) (dropWhile_maximal stream),
        ← drops _ reset synced]
      rfl
    · rename_i few
      have reads : Reads { transport with
          consecutiveZeros := transport.consecutiveZeros + 1 } line := reads.congr rfl rfl rfl
      have later := emits _ line reads read open_ (Nat.lt_of_le_of_ne short few)
      rw [List.replicate_succ', List.append_assoc] at later
      exact later
  · obtain ⟨replayed, silent⟩ := reads.zeros transport.consecutiveZeros
    have whole : lineFeed ∉ line ++ .replicate transport.consecutiveZeros 0 :=
      List.not_mem_append open_ (zeros_open _)
    have cleared : Reads { (transport.consumeLineBytes
        (.replicate transport.consecutiveZeros 0)).1 with consecutiveZeros := 0 }
        (line ++ .replicate transport.consecutiveZeros 0) := replayed.congr rfl rfl rfl
    have later := emits.byte cleared whole (read.concat short zero) rfl
    rw [if_neg zero, if_pos short]
    dsimp only
    rw [silent]
    rw [List.append_assoc] at later
    exact later

theorem Drops.cons {stream : List Byte} (emits : Emits stream) (drops : Drops stream)
    (byte : Byte) : Drops (byte :: stream) := by
  intro transport reads synced
  have full : ¬transport.consecutiveZeros < transportSyncLength := by omega
  rw [Transport.consume, Transport.consumeByte]
  by_cases zero : byte = 0
  · rw [if_pos zero, if_neg full, List.dropWhile_cons_of_pos (by simp [zero])]
    exact drops transport reads synced
  · have cleared : Reads { transport with consecutiveZeros := 0 } [] := reads.congr rfl rfl rfl
    have read : Data [byte] := Data.nil.concat (by decide : 0 < transportSyncLength) zero
    have later := emits.byte cleared List.not_mem_nil read rfl
    rw [if_neg zero, if_neg full, List.dropWhile_cons_of_neg (by simp [zero])]
    exact later

theorem consume_emits (stream : List Byte) : Emits stream ∧ Drops stream := by
  induction stream with
  | nil =>
      have none : streamEvents ([] ++ .replicate 0 0) = [] :=
        streamEvents_open List.not_mem_nil .nil (by decide)
      refine ⟨fun transport line reads read open_ short => ?_, fun transport reads synced => ?_⟩
      · rw [List.append_nil, streamEvents_open open_ read short]
        rfl
      · exact none.symm
  | cons byte stream ih => exact ⟨ih.1.cons ih.2 byte, ih.2.cons ih.1 byte⟩

/-! ### Frames -/

theorem mem_streamEvents {event : Event} {stream : List Byte} (member : event ∈ streamEvents stream)
    (other : event ≠ .transportSync) : ∃ line, lineEvent line = some event := by
  have found (events : List (List Event))
      (inside : event ∈ [Event.transportSync].intercalate events) :
      ∃ piece ∈ events, event ∈ piece := by
    induction events with
    | nil => simp [List.intercalate] at inside
    | cons first rest ih =>
        cases rest with
        | nil => exact ⟨first, List.mem_cons_self, by simpa [List.intercalate] using inside⟩
        | cons second rest =>
            simp only [List.intercalate, List.intersperse_cons_cons, List.flatten_cons,
              List.mem_append, List.mem_singleton] at inside ih
            rcases inside with here | sync | later
            · exact ⟨first, List.mem_cons_self, here⟩
            · exact absurd sync other
            · obtain ⟨piece, member, inside⟩ := ih later
              exact ⟨piece, List.mem_cons_of_mem _ member, inside⟩
  obtain ⟨events, member, inside⟩ := found _ member
  obtain ⟨piece, _, rfl⟩ := List.mem_map.mp member
  obtain ⟨line, _, same⟩ := List.mem_filterMap.mp inside
  exact ⟨line, same⟩

theorem lineEvent_frame {line payload : List Byte}
    (frame : lineEvent line = some (.frame payload)) :
    payload.length ≤ 504 := by
  unfold lineEvent at frame
  split at frame
  · rename_i started
    have prefixed := started.length_le
    have length : framePrefix.length = 8 := rfl
    split at frame
    · rename_i fits
      obtain rfl := Event.frame.inj (Option.some.inj frame)
      have rest : (line.drop framePrefix.length).length ≤ 504 := by
        rw [List.length_drop, length]
        unfold maxRequestLineBytes at fits
        omega
      unfold withoutCarriageReturn
      split
      · rw [List.length_dropLast]
        omega
      · exact rest
    · cases frame
  · cases frame

/-- However the stream is cut into chunks, the transport emits its events, and no frame
is longer than 504 bytes. -/
theorem transport_emits (chunks : List (List Byte)) :
    (Transport.reset.consumeChunks chunks).2 = streamEvents chunks.flatten ∧
      ∀ payload, .frame payload ∈ (Transport.reset.consumeChunks chunks).2 →
        payload.length ≤ 504 := by
  have events : (Transport.reset.consumeChunks chunks).2 = streamEvents chunks.flatten := by
    rw [Transport.consumeChunks_eq]
    exact (consume_emits chunks.flatten).1 .reset [] (.reset {}) .nil List.not_mem_nil (by decide)
  refine ⟨events, fun payload member => ?_⟩
  rw [events] at member
  obtain ⟨line, frame⟩ := mem_streamEvents member nofun
  exact lineEvent_frame frame

end HidBot.ControlFraming
