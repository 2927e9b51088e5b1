import Mathlib.Data.List.Basic

/-!
# Framing of the control stream

`control_framing::Transport`: it consumes the bytes of the UART stream in chunks and
emits the events that it recognizes in them.
-/

namespace HidBot.ControlFraming

abbrev Byte := UInt8

/-- `@HIDBOT `, with the blank. -/
def framePrefix : List Byte := [64, 72, 73, 68, 66, 79, 84, 32]

def maxRequestLineBytes : Nat := 512

def transportSyncLength : Nat := 4

def lineFeed : Byte := 10

def carriageReturn : Byte := 13

inductive Event where
  | frame (payload : List Byte)
  | overlongProtocolFrame
  | transportSync
  deriving DecidableEq, Repr

inductive LineState where
  | seekingPrefix
  | collectingFrame
  | ignoringLine
  | discardingFrame
  deriving DecidableEq, Repr

/-- `frame` is what `frame_` holds up to `frame_length_`. -/
structure Transport where
  lineState : LineState := .seekingPrefix
  prefixMatchLength : Nat := 0
  frame : List Byte := []
  consecutiveZeros : Nat := 0
  deriving DecidableEq, Repr

namespace Transport

def resetLine (transport : Transport) : Transport :=
  { transport with lineState := .seekingPrefix, prefixMatchLength := 0, frame := [] }

def reset : Transport := {}

/-- The payload of a collected line: a carriage return at its end is not part of it. -/
def payload (frame : List Byte) : List Byte :=
  let payloadLength := frame.length - framePrefix.length
  if 0 < payloadLength ∧ frame.getLast? = some carriageReturn then
    (frame.drop framePrefix.length).take (payloadLength - 1)
  else (frame.drop framePrefix.length).take payloadLength

def consumeLineByte (transport : Transport) (byte : Byte) : Transport × List Event :=
  if byte = lineFeed then
    (transport.resetLine,
      match transport.lineState with
      | .collectingFrame => [.frame (payload transport.frame)]
      | .discardingFrame => [.overlongProtocolFrame]
      | .seekingPrefix | .ignoringLine => [])
  else
    match transport.lineState with
    | .seekingPrefix =>
        if some byte ≠ framePrefix[transport.prefixMatchLength]? then
          ({ transport with lineState := .ignoringLine }, [])
        else
          let matched := transport.prefixMatchLength + 1
          ({ transport with
            frame := transport.frame ++ [byte]
            prefixMatchLength := matched
            lineState := if matched = framePrefix.length then .collectingFrame
              else .seekingPrefix }, [])
    | .collectingFrame =>
        if transport.frame.length < maxRequestLineBytes then
          ({ transport with frame := transport.frame ++ [byte] }, [])
        else ({ transport with lineState := .discardingFrame }, [])
    | .ignoringLine | .discardingFrame => (transport, [])

/-- Consume these bytes of a line one after the other. -/
def consumeLineBytes (transport : Transport) : List Byte → Transport × List Event
  | [] => (transport, [])
  | byte :: bytes =>
      let consumed := transport.consumeLineByte byte
      let rest := consumed.1.consumeLineBytes bytes
      (rest.1, consumed.2 ++ rest.2)

/-- The body of the loop of `consume`. -/
def consumeByte (transport : Transport) (byte : Byte) : Transport × List Event :=
  if byte = 0 then
    if transport.consecutiveZeros < transportSyncLength then
      let counted := { transport with consecutiveZeros := transport.consecutiveZeros + 1 }
      if counted.consecutiveZeros = transportSyncLength then
        (counted.resetLine, [.transportSync])
      else (counted, [])
    else (transport, [])
  else
    let replayed :=
      if transport.consecutiveZeros < transportSyncLength then
        transport.consumeLineBytes (.replicate transport.consecutiveZeros 0)
      else (transport, [])
    let consumed := { replayed.1 with consecutiveZeros := 0 }.consumeLineByte byte
    (consumed.1, replayed.2 ++ consumed.2)

/-- Consume a chunk of the stream. -/
def consume (transport : Transport) : List Byte → Transport × List Event
  | [] => (transport, [])
  | byte :: data =>
      let consumed := transport.consumeByte byte
      let rest := consumed.1.consume data
      (rest.1, consumed.2 ++ rest.2)

/-- Consume chunks, one call each. -/
def consumeChunks (transport : Transport) : List (List Byte) → Transport × List Event
  | [] => (transport, [])
  | chunk :: chunks =>
      let consumed := transport.consume chunk
      let rest := consumed.1.consumeChunks chunks
      (rest.1, consumed.2 ++ rest.2)

theorem consume_append (transport : Transport) (data more : List Byte) :
    transport.consume (data ++ more) =
      (((transport.consume data).1.consume more).1,
        (transport.consume data).2 ++ ((transport.consume data).1.consume more).2) := by
  induction data generalizing transport with
  | nil => rfl
  | cons byte data ih => simp [consume, ih]

/-- How the stream is cut into chunks does not matter. -/
theorem consumeChunks_eq (transport : Transport) (chunks : List (List Byte)) :
    transport.consumeChunks chunks = transport.consume chunks.flatten := by
  induction chunks generalizing transport with
  | nil => rfl
  | cons chunk chunks ih => simp [consumeChunks, consume_append, ih]

end Transport

end HidBot.ControlFraming
