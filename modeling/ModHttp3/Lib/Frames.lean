import Mathlib.Algebra.GroupWithZero.Nat
import Mathlib.Data.List.Basic
import Mathlib.Tactic.Common

/-!
# The frames of an HTTP/3 stream

A request stream is a sequence of frames: a type and a length, each a variable-length integer, and a
payload of that length. `Place` is where a reader of the stream is, byte by byte, and `payload` are
the bytes of the DATA frames (type 0) it has seen. Reading in pieces is the same as reading at once
(`payload_append`).
-/

namespace ModHttp3.Lib.Frames

/-- A variable-length integer at the beginning of a list of bytes, if it is complete, and what
follows it. The two high bits of the first byte give the length. -/
def varint : List UInt8 → Option (Nat × List UInt8)
  | [] => none
  | b :: bs =>
    let more := 2 ^ (b.toNat / 64) - 1
    if bs.length < more then
      none
    else
      some ((bs.take more).foldl (fun n c => n * 256 + c.toNat) (b.toNat % 64), bs.drop more)

/-- Where a reader is: in a frame header, of which it has seen some bytes, or in a payload. -/
inductive Place where
  | header (seen : List UInt8)
  | payload (isData : Bool) (left : Nat)
deriving DecidableEq

/-- The start of a frame. -/
def Place.start : Place := .header []

/-- The next byte. -/
def Place.next : Place → UInt8 → Place
  | .header seen, b =>
    let seen := seen ++ [b]
    match (varint seen).bind fun (type, rest) => (varint rest).map
      fun (length, _) => (type, length) with
    | none => .header seen
    | some (_, 0) => .start
    | some (type, length) => .payload (type == 0) length
  | .payload isData left, _ => if left ≤ 1 then .start else .payload isData (left - 1)

/-- The byte belongs to the payload of a DATA frame. -/
def Place.takes : Place → Bool
  | .header _ => false
  | .payload isData _ => isData

/-- Where the reader is after some bytes. -/
def placeFrom (p : Place) (bytes : List UInt8) : Place := bytes.foldl Place.next p

/-- The payload of the DATA frames in some bytes. -/
def payloadFrom : Place → List UInt8 → List UInt8
  | _, [] => []
  | p, b :: bs => if p.takes then b :: payloadFrom (p.next b) bs else payloadFrom (p.next b) bs

/-- Where a reader of the whole stream is. -/
def place (bytes : List UInt8) : Place := placeFrom .start bytes

/-- The payload of the DATA frames of a stream. -/
def payload (bytes : List UInt8) : List UInt8 := payloadFrom .start bytes

section
variable {p : Place} {xs ys : List UInt8}

/-- The payload of two pieces, the second read from where the first one ends. -/
lemma payloadFrom_append :
    payloadFrom p (xs ++ ys) = payloadFrom p xs ++ payloadFrom (placeFrom p xs) ys := by
  induction xs generalizing p with
  | nil => rfl
  | cons b xs ih =>
    rw [List.cons_append, payloadFrom, payloadFrom, ih]
    split <;> rfl

/-- More bytes add the payload they have where the reader is. -/
lemma payload_append : payload (xs ++ ys) = payload xs ++ payloadFrom (place xs) ys :=
  payloadFrom_append

end

/-- A HEADERS frame and two DATA frames, the second of which is cut off. -/
example : payload [1, 2, 0, 0, 0, 2, 97, 98, 0, 3, 99] = [97, 98, 99] ∧
    place [1, 2, 0, 0, 0, 2, 97, 98, 0, 3, 99] = .payload true 2 := by decide

end ModHttp3.Lib.Frames
