import ProcessDiagram.Text.Encoding.Chinese
import ProcessDiagram.Text.Encoding.Japanese
import ProcessDiagram.Text.Encoding.Korean
import ProcessDiagram.Text.Encoding.PageTable

set_option autoImplicit false

namespace ProcessDiagram.Text.Encoding

inductive OctetSet where
  | single (char? : Nat → Option Char)
  | pair (char? : Nat → Nat → Option Char)

def OctetSet.scan : OctetSet → Scan
  | .single char?, octet :: rest =>
      if octet < 0x80 then (char? octet).map fun c => ([c], rest) else none
  | .pair char?, first :: second :: rest =>
      if first < 0x80 && second < 0x80 then (char? first second).map fun c => ([c], rest)
      else none
  | _, _ => none

inductive Role where
  | main
  | shifted
  | next
deriving DecidableEq, Repr

structure Switching where
  sequences : List (String × Role × OctetSet)
  hasShifts : Bool := false
  -- Whether the end of a line undoes the choices but that of the main set.
  resetsAtLineEnd : Bool := false

structure SwitchState where
  main : OctetSet := .single ascii?
  shifted : Option OctetSet := none
  next : Option OctetSet := none
  isShifted : Bool := false

namespace SwitchState

def choose (state : SwitchState) (role : Role) (set : OctetSet) : SwitchState :=
  match role with
  | .main => { state with main := set }
  | .shifted => { state with shifted := some set }
  | .next => { state with next := some set }

def current (state : SwitchState) : OctetSet :=
  if state.isShifted then state.shifted.getD state.main else state.main

def after (state : SwitchState) (resets : Bool) (chars : List Char) : SwitchState :=
  if resets && !state.isShifted && (chars = ['\n'] || chars = ['\r']) then
    { state with shifted := none, next := none }
  else state

end SwitchState

namespace Switching

def escape : Nat := 0x1b

def shiftOut : Nat := 0x0e

def shiftIn : Nat := 0x0f

def scanSequence? (switching : Switching) (octets : List Nat) :
    Option (Role × OctetSet × List Nat) :=
  switching.sequences.findSome? fun (sequence, role, set) =>
    let codes := sequence.toList.map Char.toNat
    if codes.isPrefixOf octets then some (role, set, octets.drop codes.length) else none

def step (switching : Switching) : Step SwitchState
  | state, 0x1b :: 0x4e :: rest => do
      let (chars, rest) ← (← state.next).scan rest
      some (chars, state, rest)
  | state, first :: rest =>
      if first = escape then do
        let (role, set, rest) ← switching.scanSequence? rest
        some ([], state.choose role set, rest)
      else if switching.hasShifts && first = shiftOut then
        if state.shifted.isSome then some ([], { state with isShifted := true }, rest) else none
      else if switching.hasShifts && first = shiftIn then
        some ([], { state with isShifted := false }, rest)
      else do
        let (chars, rest) ← state.current.scan (first :: rest)
        some (chars, state.after switching.resetsAtLineEnd chars, rest)
  | _, [] => none

def encoding (switching : Switching) (names : List String) : Encoding :=
  ofStep names {} switching.step

end Switching

def basicSequences : List (String × Role × OctetSet) :=
  [("(B", .main, .single ascii?), ("(J", .main, .single roman?),
   ("$@", .main, .pair jisX0208.low?), ("$B", .main, .pair jisX0208.low?)]

def supplementarySequence : String × Role × OctetSet :=
  ("$(D", .main, .pair jisX0212.low?)

def greekPage : Page :=
  (pages.find? fun page => page.names.contains "iso-8859-7").getD ⟨[], []⟩

def foreignSequences : List (String × Role × OctetSet) :=
  [("$A", .main, .pair gb2312.low?), ("$(C", .main, .pair ksX1001.low?),
   (".A", .next, .single fun octet => some (Char.ofNat (octet + 0x80))),
   (".F", .next, .single fun octet => greekPage.char? (octet + 0x80))]

def vendorPair? (first second : Nat) : Option Char :=
  if second < 0x21 || 0x7e < second then none
  else if 0x75 ≤ first && first ≤ 0x7e then
    private? 0xe000 (94 * (first - 0x75) + (second - 0x21))
  else if first = 0x2d then cp932Extension.char? 0x87 (second - 0x21)
  else jisX0208.low? first second

def vendorSequences : List (String × Role × OctetSet) :=
  [("(B", .main, .single ascii?), ("(J", .main, .single roman?),
   ("(I", .main, .single fun octet => halfWidth? (octet + 0x80)),
   ("$@", .main, .pair vendorPair?), ("$B", .main, .pair vendorPair?), supplementarySequence]

def tildeStep : Step Bool
  | false, 0x7e :: 0x7e :: rest => some (['~'], false, rest)
  | false, 0x7e :: 0x7b :: rest => some ([], true, rest)
  | false, 0x7e :: 0x0a :: rest => some ([], false, rest)
  | true, 0x7e :: 0x7d :: rest => some ([], false, rest)
  | inPairs, octets =>
      if octets.head? = some 0x7e then none
      else do
        let set := if inPairs then OctetSet.pair gb2312.low? else .single ascii?
        let (chars, rest) ← set.scan octets
        some (chars, inPairs, rest)

def switching : List Encoding :=
  [Switching.encoding { sequences := basicSequences } ["iso-2022-jp", "csiso2022jp"],
   Switching.encoding { sequences := supplementarySequence :: basicSequences } ["iso-2022-jp-1"],
   Switching.encoding
     { sequences := supplementarySequence :: basicSequences ++ foreignSequences
       resetsAtLineEnd := true }
     ["iso-2022-jp-2", "csiso2022jp2"],
   Switching.encoding { sequences := vendorSequences } ["iso-2022-jp-ms", "cp50221"],
   Switching.encoding
     { sequences := [("$)C", .shifted, .pair ksX1001.low?)], hasShifts := true }
     ["iso-2022-kr", "csiso2022kr"],
   Switching.encoding
     { sequences := [("$)A", .shifted, .pair gb2312.low?), ("$)G", .shifted, .pair cns11643.low?)]
       hasShifts := true
       resetsAtLineEnd := true }
     ["iso-2022-cn", "csiso2022cn", "iso-2022-cn-ext"],
   ofStep ["hz", "hz-gb-2312"] false tildeStep]

end ProcessDiagram.Text.Encoding
