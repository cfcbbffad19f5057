import ProcessDiagram.Text.Encoding.Basic

set_option autoImplicit false

namespace ProcessDiagram.Text.Encoding

def looseDigit? (octet : Nat) : Option Nat :=
  if 0x30 ≤ octet && octet ≤ 0x39 then some (octet - 0x30)
  else if 0x41 ≤ octet && octet ≤ 0x5a then some (octet - 0x41 + 10)
  else if 0x61 ≤ octet && octet ≤ 0x7a then some (octet - 0x61 + 10)
  else none

-- A number of so many digits; bits of digits that are too large run into each other.
def looseNumber? (count : Nat) (octets : List Nat) : Option (Nat × List Nat) :=
  if octets.length < count then none
  else do
    let digits ← (octets.take count).mapM looseDigit?
    some (digits.foldl (fun number digit => (number <<< 4) ||| digit) 0, octets.drop count)

def isSurrogate (code : Nat) : Bool :=
  0xd800 ≤ code && code < 0xe000

def joinSurrogates? (high low : Nat) : Option Char :=
  if 0xd800 ≤ high && high < 0xdc00 && 0xdc00 ≤ low && low < 0xe000 then
    some (Char.ofNat (0x10000 + (high - 0xd800) * 0x400 + (low - 0xdc00)))
  else none

def shortNumber? : List Nat → Option (Nat × List Nat)
  | 0x5c :: 0x75 :: rest => looseNumber? 4 rest
  | _ => none

def pairedNumber? (octets : List Nat) : Option (Char × List Nat) := do
  let (code, rest) ← shortNumber? octets
  if isSurrogate code then
    let (low, rest) ← shortNumber? rest
    let c ← joinSurrogates? code low
    some (c, rest)
  else
    let c ← charOfCode? code
    some (c, rest)

def scanPaired : Scan
  | [] => none
  | octet :: rest =>
      match pairedNumber? (octet :: rest) with
      | some (c, rest) => some ([c], rest)
      | none => some ([Char.ofNat octet], rest)

def longNumber? : List Nat → Option (Nat × List Nat)
  | 0x5c :: 0x75 :: rest => looseNumber? 4 rest
  | 0x5c :: 0x55 :: rest => looseNumber? 8 rest
  | _ => none

def mayBeNumbered (code : Nat) : Bool :=
  !isSurrogate code && (0xa0 ≤ code || code = 0x24 || code = 0x40 || code = 0x60)

def scanNumbered : Scan
  | [] => none
  | octet :: rest =>
      match longNumber? (octet :: rest) with
      | some (code, rest) =>
          if mayBeNumbered code then (charOfCode? code).map fun c => ([c], rest) else none
      | none => if octet < 0xa0 then some ([Char.ofNat octet], rest) else none

def sextet? (octet : Nat) : Option Nat :=
  if 0x41 ≤ octet && octet ≤ 0x5a then some (octet - 0x41)
  else if 0x61 ≤ octet && octet ≤ 0x7a then some (octet - 0x61 + 26)
  else if 0x30 ≤ octet && octet ≤ 0x39 then some (octet - 0x30 + 52)
  else if octet = 0x2b then some 62
  else if octet = 0x2f then some 63
  else none

def unitsAbove (number shift : Nat) : Nat → List Nat
  | 0 => []
  | count + 1 => (number >>> (shift + 16 * count)) % 0x10000 :: unitsAbove number shift count

-- The units that six bits each amount to; what is left over must be less than six bits, all of
-- them zero.
def unitsOf? (sextets : List Nat) : Option (List Nat) :=
  let number := sextets.foldl (fun sum sextet => sum * 64 + sextet) 0
  let count := 6 * sextets.length / 16
  let spare := 6 * sextets.length % 16
  if 6 ≤ spare || number % Nat.pow 2 spare ≠ 0 then none else some (unitsAbove number spare count)

def charsOfUnits? : List Nat → Option (List Char)
  | [] => some []
  | unit :: rest =>
      if isSurrogate unit then
        match rest with
        | [] => none
        | low :: rest => do
            let c ← joinSurrogates? unit low
            let others ← charsOfUnits? rest
            some (c :: others)
      else do
        let others ← charsOfUnits? rest
        some (Char.ofNat unit :: others)

def isPlainOctet (octet : Nat) : Bool :=
  octet = 0x09 || octet = 0x0a || octet = 0x0d ||
    (0x20 ≤ octet && octet < 0x7e && octet ≠ 0x2b && octet ≠ 0x5c)

-- A minus right behind the run ends it, and is no character.
def afterRun : List Nat → List Nat
  | 0x2d :: rest => rest
  | rest => rest

def scanSextets : Scan
  | [] => none
  | 0x2b :: 0x2d :: rest => some (['+'], rest)
  | 0x2b :: rest => do
      let units ← unitsOf? ((rest.takeWhile fun octet => (sextet? octet).isSome).filterMap sextet?)
      let chars ← charsOfUnits? units
      some (chars, afterRun (rest.dropWhile fun octet => (sextet? octet).isSome))
  | octet :: rest =>
      if isPlainOctet octet then some ([Char.ofNat octet], rest) else none

def escaped : List Encoding :=
  [ofScan ["java"] scanPaired, ofScan ["c99"] scanNumbered,
   ofScan ["utf-7", "unicode-1-1-utf-7", "csunicode11utf7"] scanSextets]

end ProcessDiagram.Text.Encoding
