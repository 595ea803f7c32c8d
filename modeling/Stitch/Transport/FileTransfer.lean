import Stitch.Foundation.ByteLayout
import Stitch.Foundation.FallibleState
import Stitch.Foundation.PathComponents

/-!
# File transfer over a stream

Transcription of the receiving half of `transfer.rs` and of the frames its sender writes. SHA-256
and the JSON reader are parameters, and so is what the callbacks, the disk and the stream answer.
The hasher is the bytes it was fed.
-/

namespace Stitch.Transport.FileTransfer

open Foundation.ByteLayout Foundation.FallibleState Foundation.PathComponents

def frameFileOffer : UInt8 := 0x01
def frameFileAccept : UInt8 := 0x02
def frameFileReject : UInt8 := 0x03
def frameDataChunk : UInt8 := 0x10
def frameTransferComplete : UInt8 := 0x20
def frameAck : UInt8 := 0x30

def maxFramePayload : Nat := 128 * 1024 * 1024

structure FileOffer where
  name : String
  size : UInt64
  sha256 : String

structure TransferProgress where
  bytesTransferred : UInt64
  totalBytes : UInt64

structure TransferResult where
  fileName : String
  fileSize : UInt64
  sha256 : String

inductive TransferError where
  | transfer (text : String)
  | hashMismatch (expected actual : String)
  | transferRejected (reason : String)
  | unexpectedFrame (frameType : UInt8)
  | io (text : String)
  | json (text : String)

structure Frame where
  frameType : UInt8
  payload : List UInt8

section

def header (frameType : UInt8) (payload : List UInt8) : List UInt8 :=
  frameType :: beBytes 4 payload.length

/-- What `write_frame` puts on the stream. -/
def Frame.bytes (frame : Frame) : List UInt8 := header frame.frameType frame.payload ++ frame.payload

/-- `read_frame` on the bytes still to come, with the stream's error where they end. -/
def readFrame (ended : String) (bytes : List UInt8) :
    Except TransferError (Frame × List UInt8) :=
  if bytes.length < 5 then .error (.transfer ("read frame header: " ++ ended))
  else
    let len := beValue (slice bytes 1 5)
    if maxFramePayload < len then
      .error (.transfer ("frame payload too large: " ++ toString len ++ " bytes"))
    else if bytes.length < 5 + len then .error (.transfer ("read frame payload: " ++ ended))
    else .ok (⟨bytes.getD 0 0, slice bytes 5 (5 + len)⟩, bytes.drop (5 + len))

variable {bytes rest : List UInt8} {frame : Frame}

theorem read_frame_shorter {ended : String} (read : readFrame ended bytes = .ok (frame, rest)) :
    rest.length < bytes.length := by
  unfold readFrame at read
  dsimp only at read
  split_ifs at read with short large cut
  cases read
  rw [List.length_drop]
  omega

/-- The frames that reads find one after the other, and the error of the read that ends them. -/
def incoming (ended : String) (bytes : List UInt8) : List Frame × TransferError :=
  match _read : readFrame ended bytes with
  | .error error => ([], error)
  | .ok (frame, rest) => (frame :: (incoming ended rest).1, (incoming ended rest).2)
termination_by bytes.length
decreasing_by all_goals exact read_frame_shorter _read

theorem incoming_ok {ended : String} (read : readFrame ended bytes = .ok (frame, rest)) :
    incoming ended bytes = (frame :: (incoming ended rest).1, (incoming ended rest).2) := by
  rw [incoming]
  split
  · next failed => rw [read] at failed; cases failed
  · next taken => rw [read] at taken; cases taken; rfl

theorem incoming_end (ended : String) :
    incoming ended [] = ([], .transfer ("read frame header: " ++ ended)) := by
  rw [incoming]
  rfl

theorem frame_bytes_length (frame : Frame) : frame.bytes.length = 5 + frame.payload.length := by
  simp only [Frame.bytes, header, List.length_append, List.length_cons, be_bytes_length]

theorem read_frame_bytes (ended : String) (rest : List UInt8)
    (fits : frame.payload.length ≤ maxFramePayload) :
    readFrame ended (frame.bytes ++ rest) = .ok (frame, rest) := by
  have small : frame.payload.length < 256 ^ 4 := lt_of_le_of_lt fits (by decide)
  have len : beValue (slice (frame.bytes ++ rest) 1 5) = frame.payload.length := by
    have layout : frame.bytes ++ rest =
        [frame.frameType] ++ (beBytes 4 frame.payload.length ++ (frame.payload ++ rest)) := by
      simp [Frame.bytes, header]
    have field : slice (frame.bytes ++ rest) 1 5 = beBytes 4 frame.payload.length := by
      rw [layout]
      exact slice_middle rfl (by rw [be_bytes_length])
    rw [field, be_value_be_bytes_of_lt small]
  have total : (frame.bytes ++ rest).length = 5 + frame.payload.length + rest.length := by
    rw [List.length_append, frame_bytes_length]
  have payload : slice (frame.bytes ++ rest) 5 (5 + frame.payload.length) = frame.payload := by
    rw [Frame.bytes, List.append_assoc]
    exact slice_middle (by simp [header]) rfl
  unfold readFrame
  rw [len, if_neg (by omega), if_neg (by omega), if_neg (by omega), payload,
    List.drop_left' (frame_bytes_length frame)]
  rfl

theorem incoming_written (ended : String) {frames : List Frame}
    (fit : ∀ frame ∈ frames, frame.payload.length ≤ maxFramePayload) :
    incoming ended (frames.flatMap Frame.bytes) =
      (frames, .transfer ("read frame header: " ++ ended)) := by
  induction frames with
  | nil => exact incoming_end ended
  | cons frame rest ih =>
    have later := ih (fun other member => fit other (List.mem_cons_of_mem frame member))
    rw [List.flatMap_cons, incoming_ok (read_frame_bytes ended _ (fit frame List.mem_cons_self)),
      later]

end

section

def hexText (bytes : List UInt8) : String := String.join (bytes.map hexByte)

structure Library where
  sha256 : List UInt8 → Block 32
  /-- `serde_json::from_slice`. -/
  parseOffer : List UInt8 → Except String FileOffer

/-- What the caller and the system answer: the error of each call that fails, by its number. -/
structure Outside where
  faults : Nat → Option String
  accept : FileOffer → Bool
  /-- The directories that are there, by the components of their paths. -/
  directory : List Component → Bool

inductive FileOp where
  | create (path : List Char)
  | write (path : List Char) (data : List UInt8)
  | flush (path : List Char)
  | rename (source target : List Char)
  | remove (path : List Char)

structure Receiver where
  sent : List UInt8
  ops : List FileOp
  reports : List TransferProgress
  calls : Nat

def Receiver.new : Receiver := ⟨[], [], [], 0⟩

abbrev Transfer (Result : Type) : Type := Fallible Receiver TransferError Result

variable (library : Library) (outside : Outside)

def call (failure : String → TransferError) (note : Receiver → Receiver) : Transfer Unit :=
  fun receiver =>
    let noted := note receiver
    let after := { noted with calls := receiver.calls + 1 }
    match outside.faults receiver.calls with
    | some text => (.error (failure text), after)
    | none => (.ok (), after)

/-- Why there can be no file at the path. -/
def refusal (directory : List Component → Bool) (path : List Char) : Option String :=
  if directory (components path).dropLast = false then
    some "No such file or directory (os error 2)"
  else if directory (components path) then some "Is a directory (os error 21)"
  else none

/-- The path an operation creates, renames to or removes. -/
def FileOp.target? : FileOp → Option (List Char)
  | .create path | .rename _ path | .remove path => some path
  | .write _ _ | .flush _ => none

/-- An operation of the file system; one that fails puts nothing anywhere and removes nothing. -/
def onDisk (op : FileOp) : Transfer Unit := fun receiver =>
  let after := { receiver with calls := receiver.calls + 1 }
  match (op.target?.bind (refusal outside.directory)).or (outside.faults receiver.calls) with
  | some text => (.error (.io text), after)
  | none => (.ok (), { after with ops := receiver.ops ++ [op] })

def writeAll (failed : String) (bytes : List UInt8) : Transfer Unit :=
  call outside (fun text => .transfer (failed ++ text))
    (fun receiver => { receiver with sent := receiver.sent ++ bytes })

def writeFrame (frameType : UInt8) (payload : List UInt8) : Transfer Unit := do
  writeAll outside "write frame header: " (header frameType payload)
  if payload ≠ [] then writeAll outside "write frame payload: " payload else pure ()

def finish : Transfer Unit :=
  call outside (fun text => .transfer ("finish send stream: " ++ text)) id

def Frame.data (frame : Frame) : List UInt8 := frame.payload.drop 8

def Frame.offset (frame : Frame) : Nat := beValue (frame.payload.take 8)

/-- The loop of `receive_file`; the hasher is taken by the completion. -/
def receiveLoop (total : UInt64) (temp : List Char) (ending : TransferError) :
    List Frame → Option (List UInt8) → UInt64 → Transfer (String × UInt64)
  | [], _, _ => settle (.error ending)
  | frame :: rest, hasher, received =>
    if frame.frameType = frameDataChunk then
      if frame.payload.length < 8 then settle (.error (.transfer "data chunk too short"))
      else do
        onDisk outside (.write temp frame.data)
        let received := received + UInt64.ofNat frame.data.length
        change (fun receiver =>
          { receiver with reports := receiver.reports ++ [⟨received, total⟩] })
        receiveLoop total temp ending rest (hasher.map (· ++ frame.data)) received
    else if frame.frameType = frameTransferComplete then
      if frame.payload.length < 32 then
        settle (.error (.transfer "transfer complete hash too short"))
      else
        match hasher with
        | none => settle (.error (.transfer "hasher already consumed"))
        | some fed =>
          let receivedHash := hexText (frame.payload.take 32)
          let computedHash := hexText (library.sha256 fed).bytes
          if receivedHash ≠ computedHash then do
            let _ ← attempt (onDisk outside (.remove temp))
            settle (.error (.hashMismatch receivedHash computedHash))
          else pure (computedHash, received)
    else settle (.error (.unexpectedFrame frame.frameType))

def tempName (name : List Char) : List Char := '.' :: name ++ ['.', 't', 'm', 'p']

def rejection : List UInt8 := utf8Bytes "\x7b\"reason\":\"rejected by receiver\"\x7d"

/-- `receive_file` from the accepted offer on. -/
def receiveOffered (outputDir : List Char) (offer : FileOffer) (frames : List Frame)
    (ending : TransferError) : Transfer TransferResult := do
  writeFrame outside frameFileAccept []
  let temp := join outputDir (tempName offer.name.toList)
  let out := join outputDir offer.name.toList
  onDisk outside (.create temp)
  let (finalHash, received) ←
    receiveLoop library outside offer.size temp ending frames (some []) 0
  onDisk outside (.flush temp)
  onDisk outside (.rename temp out)
  writeFrame outside frameAck (beBytes 8 received.toNat)
  finish outside
  pure ⟨offer.name, received, finalHash⟩

/-- `receive_file` from the frames that come in and the error that ends them. -/
def receiveFrames (outputDir : List Char) : List Frame → TransferError → Transfer TransferResult
  | [], ending => settle (.error ending)
  | first :: frames, ending =>
    if first.frameType ≠ frameFileOffer then
      settle (.error (.unexpectedFrame first.frameType))
    else
      match library.parseOffer first.payload with
      | .error text => settle (.error (.json text))
      | .ok offer =>
        if outside.accept offer = false then do
          writeFrame outside frameFileReject rejection
          settle (.error (.transferRejected "rejected by receiver"))
        else receiveOffered library outside outputDir offer frames ending

/-- `receive_file` on the bytes of the stream. -/
def receiveFile (outputDir : List Char) (ended : String) (stream : List UInt8) :
    Transfer TransferResult :=
  receiveFrames library outside outputDir (incoming ended stream).1 (incoming ended stream).2

end

section

def chunkFrames : UInt64 → List (List UInt8) → List Frame
  | _, [] => []
  | offset, piece :: rest =>
    ⟨frameDataChunk, beBytes 8 offset.toNat ++ piece⟩ ::
      chunkFrames (offset + UInt64.ofNat piece.length) rest

def completion (library : Library) (contents : List UInt8) : Frame :=
  ⟨frameTransferComplete, (library.sha256 contents).bytes⟩

def sentFrames (library : Library) (offer : List UInt8) (pieces : List (List UInt8)) : List Frame :=
  ⟨frameFileOffer, offer⟩ :: (chunkFrames 0 pieces ++ [completion library pieces.flatten])

end

end Stitch.Transport.FileTransfer
