import ProcessDiagram.Text.Encoding.Basic

set_option autoImplicit false

namespace ProcessDiagram.Text.Encoding

def vietnamesePages : List Page :=
  [⟨["cp1258", "windows-1258"],
    [(0x80, "20ac - 201a 192 201e 2026 2020 2021 2c6 2030 - 2039 152 - - -"),
     (0x90, "- 2018 2019 201c 201d 2022 2013 2014 2dc 2122 - 203a 153 - - 178"),
     (0xc0, "c0 c1 c2 102 c4 c5 c6 c7 c8 c9 ca cb 300 cd ce cf"),
     (0xd0, "110 d1 309 d3 d4 1a0 d6 d7 d8 d9 da db dc 1af 303 df"),
     (0xe0, "e0 e1 e2 103 e4 e5 e6 e7 e8 e9 ea eb 301 ed ee ef"),
     (0xf0, "111 f1 323 f3 f4 1a1 f6 f7 f8 f9 fa fb fc 1b0 20ab ff")]⟩,
   ⟨["tcvn", "tcvn-5712", "tcvn5712-1"],
    [(0x00, "0 da 1ee4 3 1eea 1eec 1eee 7 8 9 a b c d e f"),
     (0x10, "10 1ee8 1ef0 1ef2 1ef6 1ef8 dd 1ef4 18 19 1a 1b 1c 1d 1e 1f"),
     (0x80, "c0 1ea2 c3 c1 1ea0 1eb6 1eac c8 1eba 1ebc c9 1eb8 1ec6 cc 1ec8 128"),
     (0x90, "cd 1eca d2 1ece d5 d3 1ecc 1ed8 1edc 1ede 1ee0 1eda 1ee2 d9 1ee6 168"),
     (0xa0, "a0 102 c2 ca d4 1a0 1af 110 103 e2 ea f4 1a1 1b0 111 1eb0"),
     (0xb0, "300 309 303 301 323 e0 1ea3 e3 e1 1ea1 1eb2 1eb1 1eb3 1eb5 1eaf 1eb4"),
     (0xc0, "1eae 1ea6 1ea8 1eaa 1ea4 1ec0 1eb7 1ea7 1ea9 1eab 1ea5 1ead e8 1ec2 1ebb 1ebd"),
     (0xd0, "e9 1eb9 1ec1 1ec3 1ec5 1ebf 1ec7 ec 1ec9 1ec4 1ebe 1ed2 129 ed 1ecb f2"),
     (0xe0, "1ed4 1ecf f5 f3 1ecd 1ed3 1ed5 1ed7 1ed1 1ed9 1edd 1edf 1ee1 1edb 1ee3 f9"),
     (0xf0, "1ed6 1ee7 169 fa 1ee5 1eeb 1eed 1eef 1ee9 1ef1 1ef3 1ef7 1ef9 fd 1ef5 1ed0")]⟩]

def combinations : List (Char × String × String) :=
  [('\u0300', "AEINOUWYaeinouwy¨ÂÊÔÜâêôüĂăĒēŌōƠơƯư",
    "ÀÈÌǸÒÙẀỲàèìǹòùẁỳ῭ẦỀỒǛầềồǜẰằḔḕṐṑỜờỪừ"),
   ('\u0301', "ACEGIKLMNOPRSUWYZacegiklmnoprsuwyz¨ÂÅÆÇÊÏÔÕØÜâåæçêïôõøüĂăĒēŌōŨũƠơƯư",
    "ÁĆÉǴÍḰĹḾŃÓṔŔŚÚẂÝŹáćéǵíḱĺḿńóṕŕśúẃýź΅ẤǺǼḈẾḮỐṌǾǗấǻǽḉếḯốṍǿǘẮắḖḗṒṓṸṹỚớỨứ"),
   ('\u0303', "AEINOUVYaeinouvyÂÊÔâêôĂăƠơƯư",
    "ÃẼĨÑÕŨṼỸãẽĩñõũṽỹẪỄỖẫễỗẴẵỠỡỮữ"),
   ('\u0309', "AEIOUYaeiouyÂÊÔâêôĂăƠơƯư",
    "ẢẺỈỎỦỶảẻỉỏủỷẨỂỔẩểổẲẳỞởỬử"),
   ('\u0323', "ABDEHIKLMNORSTUVWYZabdehiklmnorstuvwyzÂÊÔâêôĂăƠơƯư",
    "ẠḄḌẸḤỊḲḶṂṆỌṚṢṬỤṾẈỴẒạḅḍẹḥịḳḷṃṇọṛṣṭụṿẉỵẓẬỆỘậệộẶặỢợỰự")]

def combine? (letter mark : Char) : Option Char := do
  let (letters, combined) ← List.lookup mark combinations
  List.lookup letter (letters.toList.zip combined.toList)

-- A mark combines with a letter once, and another mark after it stands alone.
def Page.scanCombined (page : Page) : Scan
  | first :: second :: rest => do
      let letter ← page.char? first
      match (page.char? second).bind (combine? letter) with
      | some combined => some ([combined], rest)
      | none => some ([letter], second :: rest)
  | octets => page.scan octets

def vietnamese : List Encoding :=
  vietnamesePages.map fun page => ofScan page.names page.scanCombined

end ProcessDiagram.Text.Encoding
