import Mathlib.Tactic.Common
import Mathlib.Tactic.Ring

/-!
# Bytes, errors and time

The vocabulary of `src/core`: the protocol errors with what each of them does to a connection
(`error.hpp`), big-endian fields (`byte_reader.cpp`, `byte_writer.cpp`) and points in time
(`time.hpp`).

A reader is the bytes that are left, threaded through `StateT`; a writer is the bytes written so far
and the room that is left. A read past the end is `truncated` and a write past the end is
`bufferTooSmall`, as in the source. `decodeBE_encodeBE` is the round trip of one field: what a field
of `w` bytes holds of `n` is `n` modulo `256 ^ w`.
-/

namespace Zet.Core

/-- A span of bytes. -/
abbrev Bytes := List UInt8

/-- The bytes of an ASCII text. -/
def asciiBytes (text : String) : Bytes := text.toList.map fun c => UInt8.ofNat c.toNat

/-- A point in time, in nanoseconds (`zet::Timestamp`). -/
abbrev Timestamp := Nat

/-- A length of time, in nanoseconds (`zet::Duration`). -/
abbrev Duration := Nat

/-- What an error does (`EDisposition`). -/
inductive Disposition where
  | ignore
  | closeConnection
  | killSession
deriving DecidableEq, Repr

/-- Errors of one message or one frame (`EProtoError`). -/
inductive ProtoError where
  | truncated
  | lengthLimitExceeded
  | malformedField
  | unknownMessageType
  | unexpectedMessage
  | versionMismatch
  | unsupportedCriticalOption
  | nonceReused
  | authenticationFailed
  | bufferTooSmall
  | rekeyRequired
  | epochsExhausted
deriving DecidableEq, Repr

/-- `DispositionOf(EProtoError)`. -/
def ProtoError.disposition : ProtoError → Disposition
  | .unknownMessageType => .ignore
  | .versionMismatch => .killSession
  | _ => .closeConnection

/-- `DecodeBE`: the bytes as a number, most significant first. -/
def decodeBE (bytes : Bytes) : Nat :=
  bytes.foldl (fun value b => value * 256 + b.toNat) 0

/-- The low `width` bytes of `n`, most significant first. -/
def encodeBE : (width : Nat) → Nat → Bytes
  | 0, _ => []
  | width + 1, n => UInt8.ofNat (n / 256 ^ width) :: encodeBE width n

/-- A number takes the width it is written in. -/
@[simp] lemma length_encodeBE (width n : Nat) : (encodeBE width n).length = width := by
  induction width with
  | zero => rfl
  | succ width ih => simp [encodeBE, ih]

/-- Decoding continues from what is already read. -/
lemma foldl_encodeBE (width n acc : Nat) :
    (encodeBE width n).foldl (fun value b => value * 256 + b.toNat) acc =
      acc * 256 ^ width + n % 256 ^ width := by
  induction width generalizing acc with
  | zero => simp [encodeBE, Nat.mod_one]
  | succ width ih =>
    simp only [encodeBE, List.foldl_cons, ih]
    have hbyte : (UInt8.ofNat (n / 256 ^ width)).toNat = n / 256 ^ width % 256 := by simp
    rw [hbyte, pow_succ, Nat.mod_mul]
    ring

/-- One field read back: what `width` bytes keep of `n`. -/
lemma decodeBE_encodeBE (width n : Nat) : decodeBE (encodeBE width n) = n % 256 ^ width := by
  simp [decodeBE, foldl_encodeBE]

/-- A parser over the bytes left to read (`ByteReader`). -/
abbrev Reader := StateT Bytes (Except ProtoError)

/-- `ByteReader::ReadBytes`. -/
def readBytes (count : Nat) : Reader Bytes := fun left =>
  if count > left.length then .error .truncated else .ok (left.take count, left.drop count)

/-- `ByteReader::ReadU8`, `ReadU16BE`, `ReadU32BE` and `ReadU64BE`, by width. -/
def readBE (width : Nat) : Reader Nat := do
  return decodeBE (← readBytes width)

/-- `ByteReader::Rest`: what is left, without taking it. -/
def readRest : Reader Bytes := get

/-- `ByteReader::Skip`. -/
def skipBytes (count : Nat) : Reader Unit := fun left =>
  if count > left.length then .error .truncated else .ok ((), left.drop count)

/-- `RequireExhausted`: nothing may follow the message. -/
def requireExhausted : Reader Unit := fun left =>
  if left.isEmpty then .ok ((), left) else .error .malformedField

/-- A read that succeeds hands what it read, and what is left, to the rest. -/
lemma Reader.bind_ok {α β : Type} {p : Reader α} {f : α → Reader β} {s s' : Bytes} {a : α}
    (h : p s = .ok (a, s')) : (p >>= f) s = f a s' := by
  change Except.bind (p s) _ = _
  rw [h]
  rfl

/-- A field is read once its bytes are there. -/
lemma readBE_eq (width : Nat) (left : Bytes) :
    readBE width left = if left.length < width then .error .truncated
      else .ok (decodeBE (left.take width), left.drop width) := by
  change Except.bind (readBytes width left) _ = _
  rw [readBytes]
  split <;> rfl

/-- Reading back a field in front of anything. -/
@[simp] lemma readBE_encodeBE (width n : Nat) (tail : Bytes) :
    readBE width (encodeBE width n ++ tail) = .ok (n % 256 ^ width, tail) := by
  have htake : (encodeBE width n ++ tail).take width = encodeBE width n := by
    rw [List.take_append_of_le_length (by simp), List.take_of_length_le (by simp)]
  have hdrop : (encodeBE width n ++ tail).drop width = tail := by
    rw [List.drop_append_of_le_length (by simp), List.drop_of_length_le (by simp), List.nil_append]
  rw [readBE_eq, if_neg (by simp), htake, hdrop, decodeBE_encodeBE]

/-- A destination: how much of it is left and what it holds (`ByteWriter`). -/
structure ByteWriter where
  /-- Bytes of the destination not yet written. -/
  room : Nat
  written : Bytes
deriving DecidableEq, Repr

/-- An encoder into a bounded destination. -/
abbrev Writer := StateT ByteWriter (Except ProtoError)

/-- `ByteWriter::WriteBytes`. -/
def writeBytes (bytes : Bytes) : Writer Unit := fun w =>
  if bytes.length > w.room then .error .bufferTooSmall
  else .ok ((), ⟨w.room - bytes.length, w.written ++ bytes⟩)

/-- `ByteWriter::WriteU8`, `WriteU16BE`, `WriteU32BE` and `WriteU64BE`, by width. -/
def writeBE (width n : Nat) : Writer Unit := writeBytes (encodeBE width n)

/-- What an encoder writes into a fresh destination of `room` bytes. -/
def writeInto (room : Nat) (encode : Writer Unit) : Except ProtoError Bytes :=
  (encode ⟨room, []⟩).map fun r => r.2.written

end Zet.Core
