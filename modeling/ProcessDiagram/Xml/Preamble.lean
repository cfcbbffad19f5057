import ProcessDiagram.Text.Encoding.Escaped
import ProcessDiagram.Text.Encoding.Switching
import ProcessDiagram.Text.Encoding.Vietnamese
import ProcessDiagram.Xml.Scan

set_option autoImplicit false

namespace ProcessDiagram

namespace Text.Encoding

def all : List Encoding :=
  pages.map Page.encoding ++ vietnamese ++ japanese ++ simplified ++ traditional ++ korean ++
    switching ++ escaped

def named? (name : String) : Option Encoding :=
  let key := String.ofList (name.toList.map Char.toLower)
  all.find? fun encoding => encoding.names.contains key

end Text.Encoding

namespace Xml

structure Preamble where
  standalone : Bool := false
  content : List Char
deriving DecidableEq, Repr

def reencode? (name : List Char) (input : List Char) : Option (List Char) :=
  let key := name.map Char.toLower
  if key = "utf-8".toList || key = "utf8".toList then some input
  else
    (Text.Encoding.named? (String.ofList name)).bind fun encoding =>
      encoding.decode? ((String.ofList input).toUTF8.toList.map UInt8.toNat)

def isVersion (chars : List Char) : Bool :=
  match chars with
  | '1' :: '.' :: minor => minor.all Char.isDigit
  | _ => false

def isEncodingName (chars : List Char) : Bool :=
  match chars with
  | [] => false
  | c :: rest => c.isAlpha && rest.all fun c => c.isAlphanum || c = '.' || c = '_' || c = '-'

def scanSetting (word : List Char) (input : List Char) : Option (Option (List Char) × List Char) :=
  match afterWord? word (skipSpaces input) with
  | none => some (none, input)
  | some rest =>
      match startsWithSpace input, skipSpaces rest with
      | true, '=' :: rest =>
          (scanQuoted? (skipSpaces rest)).map fun (value, rest) => (some value, rest)
      | _, _ => none

def versionWord : List Char := ['v', 'e', 'r', 's', 'i', 'o', 'n']

def encodingWord : List Char := ['e', 'n', 'c', 'o', 'd', 'i', 'n', 'g']

def standaloneWord : List Char := ['s', 't', 'a', 'n', 'd', 'a', 'l', 'o', 'n', 'e']

def declarationWord : List Char := ['<', '?', 'x', 'm', 'l']

namespace Preamble

-- The input after the declaration; `marked` tells that a byte order mark stood before it.
def readDeclaration? (marked : Bool) (input : List Char) : Option Preamble :=
  match afterWord? declarationWord input with
  | none => some { content := input }
  | some rest =>
      if !(rest.take 1).all isSpace then some { content := input }
      else do
        let (version, rest) ← scanSetting versionWord rest
        let (encoding, rest) ← scanSetting encodingWord rest
        let rest ← match marked, encoding with
          | false, some name => reencode? name rest
          | _, _ => some rest
        let (standalone, rest) ← scanSetting standaloneWord rest
        let content ← afterWord? ['?', '>'] (skipSpaces rest)
        let known := standalone.all fun value =>
          value = ['y', 'e', 's'] || value = ['n', 'o']
        if version.any isVersion && encoding.all isEncodingName && known then
          some { standalone := standalone = some ['y', 'e', 's'], content }
        else none

def read? (input : List Char) : Option Preamble :=
  match input with
  | '\ufeff' :: rest => readDeclaration? true rest
  | input => readDeclaration? false input

end Preamble

end Xml

end ProcessDiagram
