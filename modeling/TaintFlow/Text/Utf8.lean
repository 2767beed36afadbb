/-
Module: TaintFlow.Text.Utf8
Purpose: Strict decoding of UTF-8. A fault names the bytes it is about: one byte that starts nothing,
  or the longest beginning of a sequence that could still have been completed.
Main exports: Text.Utf8.Fault, Text.Utf8.decode
-/
import TaintFlow.Text.Quoted

namespace TaintFlow.Text.Utf8

/-- Why bytes are no text. -/
inductive Reason where
  | start
  | continuation
  | ending
deriving DecidableEq, Repr, Inhabited

/-- The wording of a reason. -/
def Reason.message : Reason → String
  | .start => "invalid start byte"
  | .continuation => "invalid continuation byte"
  | .ending => "unexpected end of data"

/-- A fault: where it starts, the first byte and the number of bytes it is about. -/
structure Fault where
  reason : Reason
  position : Nat
  byte : Nat
  length : Nat := 1
deriving DecidableEq, Repr, Inhabited

/-- The diagnostic for a fault. -/
def Fault.message (f : Fault) : String :=
  let bytes :=
    if f.length ≤ 1 then
      "byte 0x" ++ String.ofList (hexDigits 2 f.byte) ++ s!" in position {f.position}"
    else s!"bytes in position {f.position}-{f.position + f.length - 1}"
  "'utf-8' codec can't decode " ++ bytes ++ ": " ++ f.reason.message

/-- What a first byte announces: the number of bytes to follow, the bits it contributes, and the range
    of the byte after it, which excludes overlong forms, surrogates and code points out of range. -/
structure Lead where
  more : Nat
  bits : Nat
  low : Nat := 0x80
  high : Nat := 0xbf
deriving DecidableEq, Repr, Inhabited

/-- The announcement of a first byte, if it can be one. -/
def lead? (b : Nat) : Option Lead :=
  if b < 0x80 then some { more := 0, bits := b }
  else if b < 0xc2 then none
  else if b < 0xe0 then some { more := 1, bits := b - 0xc0 }
  else if b = 0xe0 then some { more := 2, bits := 0, low := 0xa0 }
  else if b = 0xed then some { more := 2, bits := b - 0xe0, high := 0x9f }
  else if b < 0xf0 then some { more := 2, bits := b - 0xe0 }
  else if b = 0xf0 then some { more := 3, bits := 0, low := 0x90 }
  else if b < 0xf4 then some { more := 3, bits := b - 0xf0 }
  else if b = 0xf4 then some { more := 3, bits := 4, high := 0x8f }
  else none

/-- A sequence being decoded: its first byte and position, the number of its bytes read, what is still
    to follow, and the range of the next byte. -/
structure Pending where
  byte : Nat
  position : Nat
  length : Nat
  more : Nat
  bits : Nat
  low : Nat
  high : Nat
deriving DecidableEq, Repr, Inhabited

/-- Decode bytes from a position on, in the middle of a sequence if one is pending; `text` holds the
    characters before, last first. -/
def decodeFrom (position : Nat) (pending : Option Pending) (text : List Char) :
    List UInt8 → Except Fault (List Char)
  | [] =>
      match pending with
      | none => .ok text.reverse
      | some p => .error { reason := .ending, position := p.position, byte := p.byte, length := p.length }
  | byte :: rest =>
      let b := byte.toNat
      match pending with
      | none =>
          match lead? b with
          | none => .error { reason := .start, position, byte := b }
          | some l =>
              if l.more = 0 then decodeFrom (position + 1) none (Char.ofNat l.bits :: text) rest
              else
                decodeFrom (position + 1)
                  (some { byte := b, position, length := 1, more := l.more, bits := l.bits,
                          low := l.low, high := l.high }) text rest
      | some p =>
          if p.low ≤ b ∧ b ≤ p.high then
            let bits := p.bits * 64 + (b - 0x80)
            if p.more = 1 then decodeFrom (position + 1) none (Char.ofNat bits :: text) rest
            else
              decodeFrom (position + 1)
                (some { p with length := p.length + 1, more := p.more - 1, bits,
                               low := 0x80, high := 0xbf }) text rest
          else
            .error { reason := .continuation, position := p.position, byte := p.byte,
                     length := p.length }

/-- The text that bytes encode. -/
def decode (bytes : ByteArray) : Except Fault String :=
  (decodeFrom 0 none [] bytes.toList).map String.ofList

end TaintFlow.Text.Utf8
