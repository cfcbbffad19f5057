import ProcessDiagram.Text.Basic

set_option autoImplicit false

namespace ProcessDiagram.Text.Utf8

inductive Cause where
  | start
  | continuation
  | ending
deriving DecidableEq, Repr

def Cause.message : Cause → String
  | .start => "invalid start byte"
  | .continuation => "invalid continuation byte"
  | .ending => "unexpected end of data"

-- The octets from `position` on, `count` of them, are no character; `first` is the first one.
structure Fault where
  first : Nat
  position : Nat
  count : Nat
  cause : Cause
deriving DecidableEq, Repr

def Fault.message (fault : Fault) : String :=
  if fault.count = 1 then
    s!"'utf-8' codec can't decode byte 0x{String.ofList (hex 2 fault.first)} in position " ++
      s!"{fault.position}: {fault.cause.message}"
  else
    s!"'utf-8' codec can't decode bytes in position {fault.position}-" ++
      s!"{fault.position + fault.count - 1}: {fault.cause.message}"

-- How many octets follow the first one, and the range that the second one must lie in.
def lead? (octet : Nat) : Option (Nat × Nat × Nat) :=
  if octet < 0xc2 then none
  else if octet < 0xe0 then some (1, 0x80, 0xbf)
  else if octet = 0xe0 then some (2, 0xa0, 0xbf)
  else if octet = 0xed then some (2, 0x80, 0x9f)
  else if octet < 0xf0 then some (2, 0x80, 0xbf)
  else if octet = 0xf0 then some (3, 0x90, 0xbf)
  else if octet < 0xf4 then some (3, 0x80, 0xbf)
  else if octet = 0xf4 then some (3, 0x80, 0x8f)
  else none

def follow : Nat → Nat → Nat → Nat → Nat → List UInt8 → Except (Cause × Nat) (Nat × List UInt8)
  | 0, _, _, _, code, rest => .ok (code, rest)
  | _ + 1, _, _, good, _, [] => .error (.ending, good)
  | count + 1, low, high, good, code, octet :: rest =>
      if low ≤ octet.toNat && octet.toNat ≤ high then
        follow count 0x80 0xbf (good + 1) (code * 64 + octet.toNat % 64) rest
      else .error (.continuation, good)

def decodeFrom : Nat → Nat → List UInt8 → List Char → Except Fault (List Char)
  | 0, _, _, read => .ok read.reverse
  | _, _, [], read => .ok read.reverse
  | fuel + 1, position, octet :: rest, read =>
      if octet.toNat < 0x80 then
        decodeFrom fuel (position + 1) rest (Char.ofNat octet.toNat :: read)
      else
        match lead? octet.toNat with
        | none => .error ⟨octet.toNat, position, 1, .start⟩
        | some (count, low, high) =>
            match follow count low high 0 (octet.toNat % Nat.pow 2 (6 - count)) rest with
            | .error (cause, good) => .error ⟨octet.toNat, position, good + 1, cause⟩
            | .ok (code, rest) =>
                decodeFrom fuel (position + count + 1) rest (Char.ofNat code :: read)

def decode (octets : List UInt8) : Except Fault (List Char) :=
  decodeFrom octets.length 0 octets []

end ProcessDiagram.Text.Utf8
