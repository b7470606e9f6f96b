/-!
# UTF-8

Bytes as characters. Bytes that are no well-formed character are a fault, or are passed over: the
faulty bytes are those from a start up to the first byte that cannot follow.
-/

namespace PullReview.Text.Utf8

inductive FaultKind where
  | start
  | continuation
  | truncated
  deriving DecidableEq, Repr

/-- What stands at the front of a list of bytes. -/
inductive Item where
  | char (c : Char) (size : Nat)
  | fault (kind : FaultKind) (size : Nat)
  deriving DecidableEq, Repr

def isContinuation (b : Nat) : Bool := 0x80 ≤ b && b ≤ 0xBF

/-- Whether a byte may stand second after `lead`: some second bytes would make the character too
long for its value, a surrogate, or too large. -/
def isSecond (lead b : Nat) : Bool :=
  isContinuation b && !(lead == 0xE0 && b < 0xA0) && !(lead == 0xED && 0xA0 ≤ b) &&
    !(lead == 0xF0 && b < 0x90) && !(lead == 0xF4 && 0x90 ≤ b)

/-- The number of bytes of a character with a given first byte. -/
def lengthOf (lead : Nat) : Nat :=
  if lead < 0x80 then 1
  else if lead < 0xC2 then 0
  else if lead < 0xE0 then 2
  else if lead < 0xF0 then 3
  else if lead < 0xF5 then 4
  else 0

/-- Reads the bytes after the first; `taken` bytes have been read, `missing` are still to come. -/
def finish (value taken : Nat) : Nat → List Nat → Item
  | 0, _ => .char (Char.ofNat value) taken
  | _ + 1, [] => .fault .truncated taken
  | missing + 1, b :: rest =>
      if isContinuation b then finish (value * 64 + (b - 0x80)) (taken + 1) missing rest
      else .fault .continuation taken

/-- The character, or the fault, at the front of `lead :: rest`. -/
def itemAt (lead : Nat) (rest : List Nat) : Item :=
  match lengthOf lead with
  | 0 => .fault .start 1
  | 1 => .char (Char.ofNat lead) 1
  | length =>
      match rest with
      | [] => .fault .truncated 1
      | b :: _ =>
          if isSecond lead b then finish (lead % (1 <<< (7 - length))) 1 (length - 1) rest
          else .fault .continuation 1

/-- All characters and faults, with the positions they start at; `fuel` need not exceed the number
of bytes. -/
def items (position : Nat) : Nat → List Nat → List (Nat × Item)
  | 0, _ => []
  | _ + 1, [] => []
  | fuel + 1, b :: rest =>
      let item := itemAt b rest
      let size := match item with
        | .char _ n => n
        | .fault _ n => n
      (position, item) :: items (position + size) fuel (rest.drop (size - 1))

/-- Bytes that are no text: what is wrong, where, and with how many bytes, the first of them
given. -/
structure Fault where
  kind : FaultKind
  position : Nat
  size : Nat
  byte : Nat
  deriving DecidableEq, Repr

def hexByte (b : Nat) : String :=
  String.ofList ((if b < 16 then ['0'] else []) ++ Nat.toDigits 16 b)

def Fault.message (f : Fault) : String :=
  let reason := match f.kind with
    | .start => "invalid start byte"
    | .continuation => "invalid continuation byte"
    | .truncated => "unexpected end of data"
  let place :=
    if f.size == 1 then "byte 0x" ++ hexByte f.byte ++ " in position " ++ toString f.position
    else "bytes in position " ++ toString f.position ++ "-" ++ toString (f.position + f.size - 1)
  "'utf-8' codec can't decode " ++ place ++ ": " ++ reason

def allItems (bytes : List UInt8) : List (Nat × Item) :=
  items 0 bytes.length (bytes.map UInt8.toNat)

def fault? (bytes : List UInt8) : Nat × Item → Option Fault
  | (position, .fault kind size) =>
      some ⟨kind, position, size, ((bytes[position]?).map UInt8.toNat).getD 0⟩
  | _ => none

/-- The text of the bytes without those that are faulty. -/
def decodeLossy (bytes : List UInt8) : String :=
  String.ofList <| (allItems bytes).filterMap fun i =>
    match i.2 with
    | .char c _ => some c
    | .fault _ _ => none

def decode (bytes : List UInt8) : Except Fault String :=
  match (allItems bytes).findSome? (fault? bytes) with
  | some f => .error f
  | none => .ok (decodeLossy bytes)

/-- Turns a carriage return, with or without a line feed, into a line feed. -/
def plainNewlines : List Char → List Char
  | [] => []
  | '\r' :: '\n' :: rest => '\n' :: plainNewlines rest
  | '\r' :: rest => '\n' :: plainNewlines rest
  | c :: rest => c :: plainNewlines rest

end PullReview.Text.Utf8
