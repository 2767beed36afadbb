/-
Module: TaintFlow.Text.CharName
Purpose: Characters by their names (Unicode 14). Most names are listed. The names of syllables of Hangul are
  composed of those of their parts, and the names of ideographs end in their numbers.
Main exports: Text.charNamed?
-/
import TaintFlow.Text.CharName.Alphabets
import TaintFlow.Text.CharName.Ancient
import TaintFlow.Text.CharName.Pictures
import TaintFlow.Text.CharName.Scripts
import TaintFlow.Text.CharName.Syllables
import TaintFlow.Text.CharName.Symbols

namespace TaintFlow.Text

namespace CharName

/-! ### Numbers in names -/

/-- The value of a hexadecimal digit in capitals. -/
def hexValue? (c : Char) : Option Nat :=
  if '0' ≤ c && c ≤ '9' then some (c.toNat - '0'.toNat)
  else if 'A' ≤ c && c ≤ 'F' then some (c.toNat - 'A'.toNat + 10)
  else none

/-- The number that hexadecimal digits in capitals denote. -/
def hexNumber? (digits : List Char) : Option Nat :=
  digits.foldlM (fun n c => (hexValue? c).map (16 * n + ·)) 0

/-- What follows the beginning of a text. -/
def after? (start text : List Char) : Option (List Char) :=
  if start.isPrefixOf text then some (text.drop start.length) else none

/-- Inclusive ranges of the ideographs that are named by their numbers. -/
def ideographRanges : List (Nat × Nat) :=
  [(0x3400, 0x4dbf), (0x4e00, 0x9fff), (0x20000, 0x2a6df), (0x2a700, 0x2b738), (0x2b740, 0x2b81d),
   (0x2b820, 0x2cea1), (0x2ceb0, 0x2ebe0), (0x30000, 0x3134a)]

/-- The ideograph of a number of four or five digits. -/
def ideograph? (digits : List Char) : Option Nat := do
  let n ← hexNumber? digits
  if (digits.length = 4 || digits.length = 5) && ideographRanges.any fun r => r.1 ≤ n && n ≤ r.2 then
    some n
  else none

/-- What the names of other characters begin with that end in the number, and inclusive ranges of such
    characters. -/
def numberedRanges : List (String × Nat × Nat) :=
  [("CJK COMPATIBILITY IDEOGRAPH-", 0xf900, 0xfa6d), ("CJK COMPATIBILITY IDEOGRAPH-", 0xfa70, 0xfad9),
   ("CJK COMPATIBILITY IDEOGRAPH-", 0x2f800, 0x2fa1d),
   ("KHITAN SMALL SCRIPT CHARACTER-", 0x18b00, 0x18cd5), ("NUSHU CHARACTER-", 0x1b170, 0x1b2fb)]

/-- A character whose name ends in its number, which has no zero in front. -/
def numbered? (name : List Char) : Option Nat :=
  numberedRanges.findSome? fun (start, low, high) => do
    let digits ← after? start.toList name
    let n ← hexNumber? digits
    if low ≤ n && n ≤ high && digits.head? ≠ some '0' then some n else none

/-- A variation selector by its short name. -/
def selector? (name : List Char) : Option Nat := do
  let digits ← after? ['V', 'S'] name
  if digits.isEmpty || !digits.all Char.isDigit || digits.head? = some '0' then none
  else
    let n := digits.foldl (fun n c => 10 * n + (c.toNat - '0'.toNat)) 0
    if n ≤ 16 then some (0xfe00 + n - 1)
    else if n ≤ 256 then some (0xe0100 + n - 17)
    else none

/-! ### Hangul -/

/-- The names of the consonants that syllables begin with. -/
def leads : List String :=
  ["G", "GG", "N", "D", "DD", "R", "M", "B", "BB", "S", "SS", "", "J", "JJ", "C", "K", "T", "P", "H"]

/-- The names of the vowels of syllables. -/
def vowels : List String :=
  ["A", "AE", "YA", "YAE", "EO", "E", "YEO", "YE", "O", "WA", "WAE", "OE", "YO", "U", "WEO", "WE", "WI",
   "YU", "EU", "YI", "I"]

/-- The names of what syllables end with, perhaps nothing. -/
def tails : List String :=
  ["", "G", "GG", "GS", "N", "NJ", "NH", "D", "L", "LG", "LM", "LB", "LS", "LT", "LP", "LH", "M", "B",
   "BS", "S", "SS", "NG", "J", "C", "K", "T", "P", "H"]

/-- The longest of some names that a text begins with: its place in the list, and what follows it. -/
def longest? (names : List String) (text : List Char) : Option (Nat × List Char) :=
  let found := names.zipIdx.filter fun p => p.1.toList.isPrefixOf text
  let best := found.foldl (fun best p =>
    if best.all fun (q : String × Nat) => q.1.length < p.1.length then some p else best) none
  best.map fun p => (p.2, text.drop p.1.length)

/-- The syllable whose name is composed of the names of its parts. -/
def syllable? (text : List Char) : Option Nat := do
  let (lead, text) ← longest? leads text
  let (vowel, text) ← longest? vowels text
  let (tail, text) ← longest? tails text
  if text.isEmpty then some (0xac00 + (lead * vowels.length + vowel) * tails.length + tail) else none

/-! ### Listed names -/

/-- All rows of names. -/
def rows : List String :=
  [alphabets, scripts, symbols, syllables, ancient, pictures].flatMap (·.splitOn "\n")

/-- The character of a name in a row of names. -/
def inRow? (name row : String) : Option Nat :=
  let (number, names) := row.toList.span (· ≠ ' ')
  match (String.ofList (names.drop 1)).splitOn "|" with
  | start :: endings => do
      let ending ← after? start.toList name.toList
      let place ← endings.idxOf? (String.ofList ending)
      let first ← hexNumber? number
      some (first + place)
  | [] => none

/-- Further names of characters, a line for each: the number of the character, and its names. -/
def otherNames : String := "0 NULL|NUL
1 START OF HEADING|SOH
2 START OF TEXT|STX
3 END OF TEXT|ETX
4 END OF TRANSMISSION|EOT
5 ENQUIRY|ENQ
6 ACKNOWLEDGE|ACK
7 ALERT|BEL
8 BACKSPACE|BS
9 CHARACTER TABULATION|HORIZONTAL TABULATION|HT|TAB
A LINE FEED|NEW LINE|END OF LINE|EOL|LF|NL
B LINE TABULATION|VERTICAL TABULATION|VT
C FORM FEED|FF
D CARRIAGE RETURN|CR
E SHIFT OUT|LOCKING-SHIFT ONE|SO
F SHIFT IN|LOCKING-SHIFT ZERO|SI
10 DATA LINK ESCAPE|DLE
11 DEVICE CONTROL ONE|DC1
12 DEVICE CONTROL TWO|DC2
13 DEVICE CONTROL THREE|DC3
14 DEVICE CONTROL FOUR|DC4
15 NEGATIVE ACKNOWLEDGE|NAK
16 SYNCHRONOUS IDLE|SYN
17 END OF TRANSMISSION BLOCK|ETB
18 CANCEL|CAN
19 END OF MEDIUM|EOM
1A SUBSTITUTE|SUB
1B ESCAPE|ESC
1C INFORMATION SEPARATOR FOUR|FILE SEPARATOR|FS
1D INFORMATION SEPARATOR THREE|GROUP SEPARATOR|GS
1E INFORMATION SEPARATOR TWO|RECORD SEPARATOR|RS
1F INFORMATION SEPARATOR ONE|UNIT SEPARATOR|US
20 SP
7F DELETE|DEL
80 PADDING CHARACTER|PAD
81 HIGH OCTET PRESET|HOP
82 BREAK PERMITTED HERE|BPH
83 NO BREAK HERE|NBH
84 INDEX|IND
85 NEXT LINE|NEL
86 START OF SELECTED AREA|SSA
87 END OF SELECTED AREA|ESA
88 CHARACTER TABULATION SET|HORIZONTAL TABULATION SET|HTS
89 CHARACTER TABULATION WITH JUSTIFICATION|HORIZONTAL TABULATION WITH JUSTIFICATION|HTJ
8A LINE TABULATION SET|VERTICAL TABULATION SET|VTS
8B PARTIAL LINE FORWARD|PARTIAL LINE DOWN|PLD
8C PARTIAL LINE BACKWARD|PARTIAL LINE UP|PLU
8D REVERSE LINE FEED|REVERSE INDEX|RI
8E SINGLE SHIFT TWO|SINGLE-SHIFT-2|SS2
8F SINGLE SHIFT THREE|SINGLE-SHIFT-3|SS3
90 DEVICE CONTROL STRING|DCS
91 PRIVATE USE ONE|PRIVATE USE-1|PU1
92 PRIVATE USE TWO|PRIVATE USE-2|PU2
93 SET TRANSMIT STATE|STS
94 CANCEL CHARACTER|CCH
95 MESSAGE WAITING|MW
96 START OF GUARDED AREA|START OF PROTECTED AREA|SPA
97 END OF GUARDED AREA|END OF PROTECTED AREA|EPA
98 START OF STRING|SOS
99 SINGLE GRAPHIC CHARACTER INTRODUCER|SGC
9A SINGLE CHARACTER INTRODUCER|SCI
9B CONTROL SEQUENCE INTRODUCER|CSI
9C STRING TERMINATOR|ST
9D OPERATING SYSTEM COMMAND|OSC
9E PRIVACY MESSAGE|PM
9F APPLICATION PROGRAM COMMAND|APC
A0 NBSP
AD SHY
1A2 LATIN CAPITAL LETTER GHA
1A3 LATIN SMALL LETTER GHA
34F CGJ
61C ALM
709 SYRIAC SUBLINEAR COLON SKEWED LEFT
CDE KANNADA LETTER LLLA
E9D LAO LETTER FO FON
E9F LAO LETTER FO FAY
EA3 LAO LETTER RO
EA5 LAO LETTER LO
FD0 TIBETAN MARK BKA- SHOG GI MGO RGYAN
11EC HANGUL JONGSEONG YESIEUNG-KIYEOK
11ED HANGUL JONGSEONG YESIEUNG-SSANGKIYEOK
11EE HANGUL JONGSEONG SSANGYESIEUNG
11EF HANGUL JONGSEONG YESIEUNG-KHIEUKH
180B FVS1
180C FVS2
180D FVS3
180E MVS
180F FVS4
200B ZWSP
200C ZWNJ
200D ZWJ
200E LRM
200F RLM
202A LRE
202B RLE
202C PDF
202D LRO
202E RLO
202F NNBSP
205F MMSP
2060 WJ
2066 LRI
2067 RLI
2068 FSI
2069 PDI
2118 WEIERSTRASS ELLIPTIC FUNCTION
2448 MICR ON US SYMBOL
2449 MICR DASH SYMBOL
2B7A LEFTWARDS TRIANGLE-HEADED ARROW WITH DOUBLE VERTICAL STROKE
2B7C RIGHTWARDS TRIANGLE-HEADED ARROW WITH DOUBLE VERTICAL STROKE
A015 YI SYLLABLE ITERATION MARK
AA6E MYANMAR LETTER KHAMTI LLA
FE18 PRESENTATION FORM FOR VERTICAL RIGHT WHITE LENTICULAR BRACKET
FEFF BYTE ORDER MARK|BOM|ZWNBSP
122D4 CUNEIFORM SIGN NU11 TENU
122D5 CUNEIFORM SIGN NU11 OVER NU11 BUR OVER BUR
16E56 MEDEFAIDRIN CAPITAL LETTER H
16E57 MEDEFAIDRIN CAPITAL LETTER NG
16E76 MEDEFAIDRIN SMALL LETTER H
16E77 MEDEFAIDRIN SMALL LETTER NG
1B001 HENTAIGANA LETTER E-1
1D0C5 BYZANTINE MUSICAL SYMBOL FTHORA SKLIRON CHROMA VASIS"

/-- The character of one of the names in a line. -/
def inLine? (name line : String) : Option Nat :=
  let (number, names) := line.toList.span (· ≠ ' ')
  if ((String.ofList (names.drop 1)).splitOn "|").contains name then hexNumber? number else none

/-- The character of a listed name in capitals. -/
def listed? (name : String) : Option Nat :=
  rows.findSome? (inRow? name) <|> (otherNames.splitOn "\n").findSome? (inLine? name) <|>
    numbered? name.toList <|> selector? name.toList

end CharName

/-- The character of a name. Case counts only in the names of syllables of Hangul and of ideographs. -/
def charNamed? (name : String) : Option Nat :=
  match CharName.after? "HANGUL SYLLABLE ".toList name.toList with
  | some parts => CharName.syllable? parts
  | none =>
      match CharName.after? "CJK UNIFIED IDEOGRAPH-".toList name.toList with
      | some digits => CharName.ideograph? digits
      | none => CharName.listed? (String.ofList (name.toList.map Char.toUpper))

end TaintFlow.Text
