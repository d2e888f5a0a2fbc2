import Acceptance.Text.Quoted

/-!
# Texts as bytes

`decode` reads the UTF-8 form of a text.  Where the bytes have none, the fault names the longest
stretch of bytes, from the first one that fits nowhere, that could still have begun a character.

    decode s.toUTF8 = .ok s        (decode_toUTF8)
-/

namespace Acceptance.Text

/-! ## Algorithm -/

/-- Why a stretch of bytes is no UTF-8. -/
inductive ByteFaultKind where
  | start
  | continuation
  | incomplete
  deriving Repr, DecidableEq

/-- A stretch of `length` bytes from `position`, the first of them `byte`, that is no character. -/
structure ByteFault where
  kind : ByteFaultKind
  byte : Nat
  position : Nat
  length : Nat
  deriving Repr, DecidableEq

def isContinuation (b : Nat) : Bool := 0x80 ≤ b && b ≤ 0xBF

/-- The bounds of the second byte after a first one. -/
def secondBounds (first : Nat) : Nat × Nat :=
  if first = 0xE0 then (0xA0, 0xBF)
  else if first = 0xED then (0x80, 0x9F)
  else if first = 0xF0 then (0x90, 0xBF)
  else if first = 0xF4 then (0x80, 0x8F)
  else (0x80, 0xBF)

/-- The number of bytes of a character by its first one; zero where none begins so. -/
def sequenceLength (first : Nat) : Nat :=
  if first < 0x80 then 1
  else if first < 0xC2 then 0
  else if first < 0xE0 then 2
  else if first < 0xF0 then 3
  else if first < 0xF5 then 4
  else 0

/-- The number of bytes after the first one that continue a character of `want` more bytes. -/
def continuationCount (first : Nat) (want : Nat) : List Nat → Nat
  | [] => 0
  | b :: rest =>
    let (lo, hi) := secondBounds first
    if want = 0 then 0
    else if lo ≤ b && b ≤ hi then 1 + ((rest.take (want - 1)).takeWhile isContinuation).length
    else 0

/-- The first fault of a sequence of bytes that starts at `position`. -/
def faultFrom (position : Nat) : List Nat → Option ByteFault
  | [] => none
  | b :: rest =>
    let n := sequenceLength b
    if n = 0 then some ⟨.start, b, position, 1⟩
    else
      let k := continuationCount b (n - 1) rest
      if k + 1 = n then faultFrom (position + n) (rest.drop (n - 1))
      else if k < rest.length then some ⟨.continuation, b, position, k + 1⟩
      else some ⟨.incomplete, b, position, k + 1⟩
termination_by bs => bs.length
decreasing_by simp only [List.length_drop, List.length_cons]; omega

/-- The first fault of bytes that are no UTF-8. -/
def fault (bytes : ByteArray) : ByteFault :=
  (faultFrom 0 (bytes.toList.map UInt8.toNat)).getD ⟨.start, 0, 0, 1⟩

/-- The text that the bytes encode. -/
def decode (bytes : ByteArray) : Except ByteFault String :=
  match String.fromUTF8? bytes with
  | some s => .ok s
  | none => .error (fault bytes)

def ByteFaultKind.message : ByteFaultKind → String
  | .start => "invalid start byte"
  | .continuation => "invalid continuation byte"
  | .incomplete => "unexpected end of data"

def ByteFault.message (f : ByteFault) : String :=
  let place :=
    if f.length = 1 then
      "byte 0x" ++ .ofList (hexDigits 2 f.byte) ++ " in position " ++ toString f.position
    else "bytes in position " ++ toString f.position ++ "-" ++ toString (f.position + f.length - 1)
  "'utf-8' codec can't decode " ++ place ++ ": " ++ f.kind.message

/-! ## Lemmas -/

theorem decode_toUTF8 (s : String) : decode s.toUTF8 = .ok s := by
  have h : String.fromUTF8? s.toUTF8 = some s := by
    unfold String.fromUTF8?
    split
    · rfl
    · rename_i h
      exact absurd s.isValidUTF8 h
  rw [decode, h]

end Acceptance.Text
