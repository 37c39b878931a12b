import Docblock.Text.Bytes
import Docblock.Text.Sets.Big5
import Docblock.Text.Sets.Gb2312
import Docblock.Text.Sets.Gbk
import Docblock.Text.Sets.Hkscs
import Docblock.Text.Sets.Ksx1001
import Docblock.Text.Sets.Uhc

/-!
# Chinese and Korean encodings

Characters of ASCII take one byte, and others begin with a byte from 128 on and take two. A few
take more: any character that has no two bytes, or a syllable that is put together from letters.
-/

namespace Docblock.Text

open CharSet

/-- The step of characters that stand for so many bytes, or the fault of the first of these. -/
def readSign (count : Nat) : Option Char → ByteStep Unit
  | some c => .ok ([c], count, ())
  | none => .error (1, .sequence)

/-- Characters of one byte below 128, or of two. -/
def readDouble (pair? : Nat → Nat → Option Char) : ByteReader Unit
  | _, first :: rest =>
    if first < 0x80 then readCode first 1
    else
      match rest with
      | second :: _ => readSign 2 (pair? first second)
      | [] => .error (1, .sequenceEnd)
  | _, [] => .error (1, .sequenceEnd)

/-! ## Chinese -/

/-- A character of GB 2312. -/
def gb2312? (first second : Nat) : Option Char := gb2312.high? first second

/-- A character of GBK. -/
def gbk? (first second : Nat) : Option Char :=
  (runChar? gbkMore (256 * first + second)).or (gb2312? first second)

/-- The private characters of GB 18030. They fill two blocks of rows at the end of the cells and one
at their beginning. -/
def gbPrivate? (first second : Nat) : Option Char :=
  if 0xaa ≤ first ∧ first ≤ 0xaf ∧ 0xa1 ≤ second ∧ second ≤ 0xfe then
    some (Char.ofNat (0xe000 + 94 * (first - 0xaa) + (second - 0xa1)))
  else if 0xf8 ≤ first ∧ first ≤ 0xfe ∧ 0xa1 ≤ second ∧ second ≤ 0xfe then
    some (Char.ofNat (0xe234 + 94 * (first - 0xf8) + (second - 0xa1)))
  else if 0xa1 ≤ first ∧ first ≤ 0xa7 ∧ 0x40 ≤ second ∧ second ≤ 0xa0 ∧ second ≠ 0x7f then
    let place := if second < 0x7f then second - 0x40 else second - 0x41
    some (Char.ofNat (0xe4c6 + 96 * (first - 0xa1) + place))
  else none

/-- A character of two bytes of GB 18030. -/
def gb18030? (first second : Nat) : Option Char :=
  ((gbk? first second).or (gbPrivate? first second)).or
    (runChar? gb18030More (256 * first + second))

/-- The numbers of four bytes where a row of characters of the basic plane begins, and the first of
the row. -/
def fourByteStarts : List (Nat × Nat) := [
  (0, 0x80), (36, 0xa5), (38, 0xa9), (45, 0xb2), (50, 0xb8), (81, 0xd8), (89, 0xe2), (95, 0xeb),
  (96, 0xee), (100, 0xf4), (103, 0xf8), (104, 0xfb), (105, 0xfd), (109, 0x102), (126, 0x114),
  (133, 0x11c), (148, 0x12c), (172, 0x145), (175, 0x149), (179, 0x14e), (208, 0x16c), (306, 0x1cf),
  (307, 0x1d1), (308, 0x1d3), (309, 0x1d5), (310, 0x1d7), (311, 0x1d9), (312, 0x1db), (313, 0x1dd),
  (341, 0x1fa), (428, 0x252), (443, 0x262), (544, 0x2c8), (545, 0x2cc), (558, 0x2da), (741, 0x3a2),
  (742, 0x3aa), (749, 0x3c2), (750, 0x3ca), (805, 0x402), (819, 0x450), (820, 0x452),
  (7922, 0x2011), (7924, 0x2017), (7925, 0x201a), (7927, 0x201e), (7934, 0x2027), (7943, 0x2031),
  (7944, 0x2034), (7945, 0x2036), (7950, 0x203c), (8062, 0x20ad), (8148, 0x2104), (8149, 0x2106),
  (8152, 0x210a), (8164, 0x2117), (8174, 0x2122), (8236, 0x216c), (8240, 0x217a), (8262, 0x2194),
  (8264, 0x219a), (8374, 0x2209), (8380, 0x2210), (8381, 0x2212), (8384, 0x2216), (8388, 0x221b),
  (8390, 0x2221), (8392, 0x2224), (8393, 0x2226), (8394, 0x222c), (8396, 0x222f), (8401, 0x2238),
  (8406, 0x223e), (8416, 0x2249), (8419, 0x224d), (8424, 0x2253), (8437, 0x2262), (8439, 0x2268),
  (8445, 0x2270), (8482, 0x2296), (8485, 0x229a), (8496, 0x22a6), (8521, 0x22c0), (8603, 0x2313),
  (8936, 0x246a), (8946, 0x249c), (9046, 0x254c), (9050, 0x2574), (9063, 0x2590), (9066, 0x2596),
  (9076, 0x25a2), (9092, 0x25b4), (9100, 0x25be), (9108, 0x25c8), (9111, 0x25cc), (9113, 0x25d0),
  (9131, 0x25e6), (9162, 0x2607), (9164, 0x260a), (9218, 0x2641), (9219, 0x2643), (11329, 0x2e82),
  (11331, 0x2e85), (11334, 0x2e89), (11336, 0x2e8d), (11346, 0x2e98), (11361, 0x2ea8),
  (11363, 0x2eab), (11366, 0x2eaf), (11370, 0x2eb4), (11372, 0x2eb8), (11375, 0x2ebc),
  (11389, 0x2ecb), (11682, 0x2ffc), (11686, 0x3004), (11687, 0x3018), (11692, 0x301f),
  (11694, 0x302a), (11714, 0x303f), (11716, 0x3094), (11723, 0x309f), (11725, 0x30f7),
  (11730, 0x30ff), (11736, 0x312a), (11982, 0x322a), (11989, 0x3232), (12102, 0x32a4),
  (12336, 0x3390), (12348, 0x339f), (12350, 0x33a2), (12384, 0x33c5), (12393, 0x33cf),
  (12395, 0x33d3), (12397, 0x33d6), (12510, 0x3448), (12553, 0x3474), (12851, 0x359f),
  (12962, 0x360f), (12973, 0x361b), (13738, 0x3919), (13823, 0x396f), (13919, 0x39d1),
  (13933, 0x39e0), (14080, 0x3a74), (14298, 0x3b4f), (14585, 0x3c6f), (14698, 0x3ce1),
  (15583, 0x4057), (15847, 0x4160), (16318, 0x4338), (16434, 0x43ad), (16438, 0x43b2),
  (16481, 0x43de), (16729, 0x44d7), (17102, 0x464d), (17122, 0x4662), (17315, 0x4724),
  (17320, 0x472a), (17402, 0x477d), (17418, 0x478e), (17859, 0x4948), (17909, 0x497b),
  (17911, 0x497e), (17915, 0x4984), (17916, 0x4987), (17936, 0x499c), (17939, 0x49a0),
  (17961, 0x49b8), (18664, 0x4c78), (18703, 0x4ca4), (18814, 0x4d1a), (18962, 0x4daf),
  (19043, 0x9fa6), (33469, 0xe76c), (33470, 0xe7c8), (33471, 0xe7e7), (33484, 0xe815),
  (33485, 0xe819), (33490, 0xe81f), (33497, 0xe827), (33501, 0xe82d), (33505, 0xe833),
  (33513, 0xe83c), (33520, 0xe844), (33536, 0xe856), (33550, 0xe865), (37845, 0xf92d),
  (37921, 0xf97a), (37948, 0xf996), (38029, 0xf9e8), (38038, 0xf9f2), (38064, 0xfa10),
  (38065, 0xfa12), (38066, 0xfa15), (38069, 0xfa19), (38075, 0xfa22), (38076, 0xfa25),
  (38078, 0xfa2a), (39108, 0xfe32), (39109, 0xfe45), (39113, 0xfe53), (39114, 0xfe58),
  (39115, 0xfe67), (39116, 0xfe6c), (39265, 0xff5f), (39394, 0xffe6)]

/-- The numbers of four bytes below this one are those of characters of the basic plane. -/
def fourByteEnd : Nat := 39420

/-- A character of four bytes: those of the basic plane that have no two bytes are counted in
their order, and the others in theirs. -/
def fourBytes? (a b c d : Nat) : Option Char :=
  if 0x81 ≤ a ∧ a ≤ 0xfe ∧ 0x30 ≤ b ∧ b ≤ 0x39 ∧ 0x81 ≤ c ∧ c ≤ 0xfe ∧ 0x30 ≤ d ∧ d ≤ 0x39 then
    let rest := 1260 * (b - 0x30) + 10 * (c - 0x81) + (d - 0x30)
    if a < 0x85 then
      let place := 12600 * (a - 0x81) + rest
      if fourByteEnd ≤ place then none
      else
        (fourByteStarts.reverse.find? fun start => start.1 ≤ place).map fun start =>
          Char.ofNat (start.2 + (place - start.1))
    else if a < 0x90 then none
    else
      let code := 0x10000 + 12600 * (a - 0x90) + rest
      if 0x10ffff < code then none else some (Char.ofNat code)
  else none

/-- Characters of one, two or four bytes. -/
def readGb18030 : ByteReader Unit
  | _, a :: b :: rest =>
    if 0x80 ≤ a ∧ 0x30 ≤ b ∧ b ≤ 0x39 then
      match rest with
      | c :: d :: _ => readSign 4 (fourBytes? a b c d)
      | _ => .error (2 + rest.length, .sequenceEnd)
    else readDouble gb18030? () (a :: b :: rest)
  | _, bytes => readDouble gb18030? () bytes

/-- A character of Big5. -/
def big5? (first second : Nat) : Option Char := runChar? big5 (256 * first + second)

/-- A character of the code page of Big5. -/
def big5Page? (first second : Nat) : Option Char :=
  (runChar? big5Page (256 * first + second)).or (big5? first second)

/-- Whether the set of Hong Kong has a place for itself. -/
def isHkscsRow (first second : Nat) : Bool :=
  0xc6 ≤ first && first ≤ 0xc8 && (0xc7 ≤ first || 0xa1 ≤ second)

/-- The letters of the set of Hong Kong that are told by a letter and a mark. -/
def hkscsPairs : List (Nat × List Char) := [
  (0x8862, ['\u00ca', '\u0304']), (0x8864, ['\u00ca', '\u030c']), (0x88a3, ['\u00ea', '\u0304']),
  (0x88a5, ['\u00ea', '\u030c'])]

/-- Characters of Big5 with the set of Hong Kong. -/
def readBig5Hkscs : ByteReader Unit
  | _, first :: second :: rest =>
    match if first < 0x80 then none else hkscsPairs.lookup (256 * first + second) with
    | some cs => .ok (cs, 2, ())
    | none =>
      let pair? (first second : Nat) :=
        (runChar? hkscs (256 * first + second)).or
          (if isHkscsRow first second then none else big5? first second)
      readDouble pair? () (first :: second :: rest)
  | _, bytes => readDouble big5? () bytes

/-- The state of a text that tells by signs whether it goes on with characters of GB 2312 in
seven bits: characters of ASCII until then. -/
def readHz : ByteReader Bool
  | chinese, 0x7e :: rest =>
    match rest with
    | [] => .error (1, .sequenceEnd)
    | second :: _ =>
      if chinese then
        if second = 0x7d then .ok ([], 2, false) else .error (1, .sequence)
      else if second = 0x7e then .ok (['~'], 2, false)
      else if second = 0x7b then .ok ([], 2, true)
      else if second = 0x0a then .ok ([], 2, false)
      else .error (1, .sequence)
  | chinese, first :: rest =>
    if 0x80 ≤ first then .error (1, .sequence)
    else if !chinese then .ok ([Char.ofNat first], 1, false)
    else
      match rest with
      | [] => .error (1, .sequenceEnd)
      | second :: _ =>
        match gb2312.char? first second with
        | some c => .ok ([c], 2, true)
        | none => .error (1, .sequence)
  | _, [] => .error (1, .sequenceEnd)

/-! ## Korean -/

/-- The syllable of letters that are told by their places. -/
def syllableOf (leading vowel trailing : Nat) : Char :=
  Char.ofNat (0xac00 + 588 * leading + 28 * vowel + trailing)

/-- A character of KS X 1001. -/
def ksx1001? (first second : Nat) : Option Char := ksx1001.high? first second

/-- A character of KS X 1001, or another syllable. -/
def uhc? (first second : Nat) : Option Char :=
  (ksx1001? first second).or (runChar? syllablesMore (256 * first + second))

/-- The consonants of KS X 1001, from the byte 0xa1 on, that end a syllable and do not begin one. -/
def onlyTrailing : List Nat := [0xa3, 0xa5, 0xa6, 0xaa, 0xab, 0xac, 0xad, 0xae, 0xaf, 0xb0, 0xb4]

/-- The consonants of KS X 1001 that begin a syllable and do not end one. -/
def onlyLeading : List Nat := [0xa8, 0xb3, 0xb9]

/-- The place of a consonant among those from the byte 0xa1 on that are not left out. -/
def consonant? (left : List Nat) (byte : Nat) : Option Nat :=
  if 0xa1 ≤ byte ∧ byte ≤ 0xbe ∧ !left.contains byte then
    some (byte - 0xa1 - (left.filter (· < byte)).length)
  else none

/-- The byte of the letter that stands for no letter. -/
def fillerByte : Nat := 0xd4

/-- A syllable of the bytes of its three letters. -/
def madeSyllable? (leading vowel trailing : Nat) : Option Char := do
  let leading ← consonant? onlyTrailing leading
  let vowel ← if 0xbf ≤ vowel ∧ vowel ≤ 0xd3 then some (vowel - 0xbf) else none
  let trailing ←
    if trailing = fillerByte then some 0 else (consonant? onlyLeading trailing).map (· + 1)
  return syllableOf leading vowel trailing

/-- Characters of KS X 1001. A syllable that is not among them is a filler and three letters. -/
def readEucKr : ByteReader Unit
  | _, 0xa4 :: 0xd4 :: rest =>
    match rest with
    | a :: b :: c :: d :: e :: f :: _ =>
      if a = 0xa4 ∧ c = 0xa4 ∧ e = 0xa4 then readSign 8 (madeSyllable? b d f)
      else .error (1, .sequence)
    | _ => .error (2 + rest.length, .sequenceEnd)
  | _, bytes => readDouble ksx1001? () bytes

/-! ### Syllables by the bits of their letters -/

/-- A letter that is told by five bits. -/
inductive JohabLetter where
  | none
  | filler
  | letter (place : Nat)

/-- The letter of five bits: fillers have the number `filler`, the letters follow from the next
one on, and some numbers are left out. -/
def johabLetter (filler count : Nat) (left : List Nat) (bits : Nat) : JohabLetter :=
  if bits = filler then .filler
  else if bits < filler ∨ left.contains bits then .none
  else
    let place := bits - filler - 1 - (left.filter (· < bits)).length
    if place < count then .letter place else .none

/-- The letters that begin a syllable, each by itself. -/
def leadingSigns : String := "ㄱㄲㄴㄷㄸㄹㅁㅂㅃㅅㅆㅇㅈㅉㅊㅋㅌㅍㅎ"

/-- The vowels, each by itself. -/
def vowelSigns : String := "ㅏㅐㅑㅒㅓㅔㅕㅖㅗㅘㅙㅚㅛㅜㅝㅞㅟㅠㅡㅢㅣ"

/-- The letters that end a syllable, each by itself. -/
def trailingSigns : String := "ㄱㄲㄳㄴㄵㄶㄷㄹㄺㄻㄼㄽㄾㄿㅀㅁㅂㅄㅅㅆㅇㅈㅊㅋㅌㅍㅎ"

/-- A syllable or a letter by fifteen bits. -/
def johabSyllable? (bits : Nat) : Option Char :=
  let leading := johabLetter 1 19 [] (bits / 1024 % 32)
  let vowel := johabLetter 2 21 [8, 9, 16, 17, 24, 25] (bits / 32 % 32)
  let trailing := johabLetter 1 27 [18] (bits % 32)
  match leading, vowel, trailing with
  | .letter l, .letter v, .filler => some (syllableOf l v 0)
  | .letter l, .letter v, .letter t => some (syllableOf l v (t + 1))
  | .letter l, .filler, .filler => cell? leadingSigns l
  | .filler, .letter v, .filler => cell? vowelSigns v
  | .filler, .filler, .letter t => cell? trailingSigns t
  | .filler, .filler, .filler => some '\u3000'
  | _, _, _ => none

/-- A sign or an ideograph of KS X 1001 by two bytes, each of which holds two rows. -/
def johabSign? (first second : Nat) : Option Char :=
  if first < 0xd9 ∨ first = 0xdf ∨ 0xf9 < first ∨ second < 0x31 ∨ (0x80 ≤ second ∧ second < 0x91) ∨
      second % 128 = 0x7f ∨ (first = 0xda ∧ 0xa1 ≤ second ∧ second ≤ 0xd3) then none
  else
    let row := if first < 0xe0 then 2 * (first - 0xd9) else 2 * first - 0x197
    let place := if second < 0x91 then second - 0x31 else second - 0x43
    ksx1001.char? (row + place / 94 + 0x21) (place % 94 + 0x21)

/-- A syllable by its letters, or another character of KS X 1001. -/
def johab? (first second : Nat) : Option Char :=
  if first < 0xd8 then johabSyllable? (256 * first + second) else johabSign? first second

end Docblock.Text
