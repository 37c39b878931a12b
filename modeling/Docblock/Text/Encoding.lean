import Docblock.Text.Designated
import Docblock.Text.Escaped
import Docblock.Text.Insertion
import Docblock.Text.Pages.Desktop
import Docblock.Text.Pages.Dos
import Docblock.Text.Pages.Mainframe
import Docblock.Text.Pages.Windows
import Docblock.Text.Shifted

/-!
# Encodings of text

How the bytes of a file are read as text. Encodings are known by many names; case and the marks
between the words of a name do not count.

Texts are only read and never written, and a fault ends reading: no character is put in place of
bytes that cannot be read. What is at fault is told with the words of the encoding and the place of
the first byte, because that is part of what a failed reading says.
-/

namespace Docblock.Text

/-- An encoding: its name, and the text of bytes. -/
structure Encoding where
  name : String
  decode : List Nat → Except DecodeFault (List Char)

/-- Why a name is not that of an encoding of text. -/
inductive NameFault where
  | unknown
  | notText
  deriving DecidableEq, Repr

/-- The wording of a fault of a name. -/
def NameFault.message (name : String) : NameFault → String
  | unknown => "unknown encoding: " ++ name
  | notText =>
    "'" ++ name ++ "' is not a text encoding; use codecs.open() to handle arbitrary codecs"

/-- Characters of one byte on a code page. -/
def readPage (page : Page) : ByteReader Unit
  | _, byte :: _ =>
    match page.char? byte with
    | some c => .ok ([c], 1, ())
    | none => .error (1, .undefined)
  | _, [] => .error (1, .ending)

namespace Encoding

/-- An encoding of one character after the other; messages know it by another name. -/
def plain (name known : String) (read : ByteReader Unit) : Encoding :=
  ⟨name, decodeFrom known read () 0 0⟩

/-- An encoding that messages know by its name. -/
def simple (name : String) (read : ByteReader Unit) : Encoding := plain name name read

/-- An encoding with designated sets. -/
def designated (name : String) (designation : Designation) : Encoding :=
  ⟨name, decodeFrom name (readDesignated designation) .start 0 0⟩

/-- The sets of Japanese encodings that have no shifts. -/
def japanese (sets : List Repertory) (hasThird : Bool) : Designation :=
  ⟨sets, false, hasThird, true⟩

/-- Bytes that may begin with a mark, which is left out. A part of the mark alone is no text. -/
def decodeUtf8Marked : List Nat → Except DecodeFault (List Char)
  | 0xef :: 0xbb :: 0xbf :: rest => decodeFrom "utf-8" readUtf8 () 0 0 rest
  | [0xef, 0xbb] | [0xef] => .ok []
  | bytes => decodeFrom "utf-8" readUtf8 () 0 0 bytes

/-- The code pages. -/
def pages : List (String × Page) := [
  ("cp437", Page.cp437), ("cp720", Page.cp720), ("cp737", Page.cp737), ("cp775", Page.cp775),
  ("cp850", Page.cp850), ("cp852", Page.cp852), ("cp855", Page.cp855), ("cp856", Page.cp856),
  ("cp857", Page.cp857), ("cp858", Page.cp858), ("cp860", Page.cp860), ("cp861", Page.cp861),
  ("cp862", Page.cp862), ("cp863", Page.cp863), ("cp864", Page.cp864), ("cp865", Page.cp865),
  ("cp866", Page.cp866), ("cp869", Page.cp869), ("cp1125", Page.cp1125), ("cp874", Page.cp874),
  ("cp1250", Page.cp1250), ("cp1251", Page.cp1251), ("cp1252", Page.cp1252),
  ("cp1253", Page.cp1253), ("cp1254", Page.cp1254), ("cp1255", Page.cp1255),
  ("cp1256", Page.cp1256), ("cp1257", Page.cp1257), ("cp1258", Page.cp1258),
  ("kz1048", Page.kz1048), ("ptcp154", Page.ptcp154), ("palmos", Page.palmos),
  ("iso8859_2", Page.iso8859_2), ("iso8859_3", Page.iso8859_3), ("iso8859_4", Page.iso8859_4),
  ("iso8859_5", Page.iso8859_5), ("iso8859_6", Page.iso8859_6), ("iso8859_7", Page.iso8859_7),
  ("iso8859_8", Page.iso8859_8), ("iso8859_9", Page.iso8859_9), ("iso8859_10", Page.iso8859_10),
  ("iso8859_11", Page.iso8859_11), ("iso8859_13", Page.iso8859_13), ("iso8859_14", Page.iso8859_14),
  ("iso8859_15", Page.iso8859_15), ("iso8859_16", Page.iso8859_16), ("tis_620", Page.tis620),
  ("cp1006", Page.cp1006), ("hp_roman8", Page.hpRoman8), ("mac_arabic", Page.macArabic),
  ("mac_croatian", Page.macCroatian), ("mac_cyrillic", Page.macCyrillic),
  ("mac_farsi", Page.macFarsi), ("mac_greek", Page.macGreek), ("mac_iceland", Page.macIceland),
  ("mac_latin2", Page.macLatin2), ("mac_roman", Page.macRoman), ("mac_romanian", Page.macRomanian),
  ("mac_turkish", Page.macTurkish), ("cp037", Page.cp037), ("cp273", Page.cp273),
  ("cp424", Page.cp424), ("cp500", Page.cp500), ("cp875", Page.cp875), ("cp1026", Page.cp1026),
  ("cp1140", Page.cp1140), ("koi8_r", Page.koi8R), ("koi8_t", Page.koi8T), ("koi8_u", Page.koi8U)]

/-- The encodings of all characters. -/
def universal : List Encoding := [
  plain "utf_8" "utf-8" readUtf8, ⟨"utf_8_sig", decodeUtf8Marked⟩, plain "utf_7" "utf7" readUtf7,
  ⟨"utf_16", decodeMarked false⟩, ⟨"utf_16_le", decodeUnits false false 0⟩,
  ⟨"utf_16_be", decodeUnits false true 0⟩, ⟨"utf_32", decodeMarked true⟩,
  ⟨"utf_32_le", decodeUnits true false 0⟩, ⟨"utf_32_be", decodeUnits true true 0⟩,
  plain "unicode_escape" "unicodeescape" readEscaped,
  plain "raw_unicode_escape" "rawunicodeescape" readRawEscaped, ⟨"punycode", decodeSpelled⟩,
  ⟨"idna", decodeLabels⟩, ⟨"undefined", fun _ => .error .noEncoding⟩]

/-- The encodings of Chinese, Japanese and Korean. -/
def eastern : List Encoding := [
  simple "gb2312" (readDouble gb2312?), simple "gbk" (readDouble gbk?),
  simple "gb18030" readGb18030, ⟨"hz", decodeFrom "hz" readHz false 0 0⟩,
  simple "big5" (readDouble big5?), simple "cp950" (readDouble big5Page?),
  simple "big5hkscs" readBig5Hkscs, simple "euc_kr" readEucKr, simple "cp949" (readDouble uhc?),
  simple "johab" (readDouble johab?), simple "shift_jis" readShiftJis, simple "cp932" readCp932,
  simple "shift_jis_2004" (readShiftJis2004 false),
  simple "shift_jisx0213" (readShiftJis2004 true), simple "euc_jp" readEucJp,
  simple "euc_jis_2004" (readEucJis false), simple "euc_jisx0213" (readEucJis true),
  designated "iso2022_kr" ⟨[.ksx1001], true, false, false⟩,
  designated "iso2022_jp" (japanese [.jisx0208 false, .roman, .jisx0208 true] false),
  designated "iso2022_jp_1" (japanese [.jisx0208 false, .jisx0212, .roman, .jisx0208 true] false),
  designated "iso2022_jp_2" (japanese
    [.jisx0208 false, .jisx0212, .ksx1001, .gb2312, .roman, .jisx0208 true, .latin, .greek] true),
  designated "iso2022_jp_2004" (japanese
    [.jisx0208 false, .jisx0213 false, .jisx0213Second] false),
  designated "iso2022_jp_3" (japanese
    [.jisx0208 false, .jisx0213 true, .jisx0213Second] false),
  designated "iso2022_jp_ext" (japanese
    [.jisx0208 false, .jisx0212, .roman, .narrow, .jisx0208 true] false)]

/-- All encodings of text. -/
def all : List Encoding :=
  universal ++ eastern ++ [plain "ascii" "ascii" readAscii, plain "latin_1" "latin-1" readLatin1,
    plain "charmap" "charmap" readLatin1] ++
  pages.map fun (name, page) => plain name "charmap" (readPage page)

/-- Encodings of something else than text. -/
def others : List String := ["base64_codec", "bz2_codec", "hex_codec", "quopri_codec", "rot_13",
  "uu_codec", "zlib_codec"]

/-- The other names of encodings, with low lines between their words. -/
def aliases : List (String × List String) := [
  ("ascii", ["646", "ansi_x3.4_1968", "ansi_x3_4_1968", "ansi_x3.4_1986", "cp367", "csascii",
    "ibm367", "iso646_us", "iso_646.irv_1991", "iso_ir_6", "us", "us_ascii"]),
  ("base64_codec", ["base64", "base_64"]),
  ("big5", ["big5_tw", "csbig5", "x_mac_trad_chinese"]),
  ("big5hkscs", ["big5_hkscs", "hkscs"]),
  ("bz2_codec", ["bz2"]),
  ("cp037", ["037", "csibm037", "ebcdic_cp_ca", "ebcdic_cp_nl", "ebcdic_cp_us", "ebcdic_cp_wt",
    "ibm037", "ibm039"]),
  ("cp1026", ["1026", "csibm1026", "ibm1026"]),
  ("cp1125", ["1125", "ibm1125", "cp866u", "ruscii"]),
  ("cp1140", ["1140", "ibm1140"]),
  ("cp1250", ["1250", "windows_1250"]),
  ("cp1251", ["1251", "windows_1251"]),
  ("cp1252", ["1252", "windows_1252"]),
  ("cp1253", ["1253", "windows_1253"]),
  ("cp1254", ["1254", "windows_1254"]),
  ("cp1255", ["1255", "windows_1255"]),
  ("cp1256", ["1256", "windows_1256"]),
  ("cp1257", ["1257", "windows_1257"]),
  ("cp1258", ["1258", "windows_1258"]),
  ("cp273", ["273", "ibm273", "csibm273"]),
  ("cp424", ["424", "csibm424", "ebcdic_cp_he", "ibm424"]),
  ("cp437", ["437", "cspc8codepage437", "ibm437"]),
  ("cp500", ["500", "csibm500", "ebcdic_cp_be", "ebcdic_cp_ch", "ibm500"]),
  ("cp775", ["775", "cspc775baltic", "ibm775"]),
  ("cp850", ["850", "cspc850multilingual", "ibm850"]),
  ("cp852", ["852", "cspcp852", "ibm852"]),
  ("cp855", ["855", "csibm855", "ibm855"]),
  ("cp857", ["857", "csibm857", "ibm857"]),
  ("cp858", ["858", "csibm858", "ibm858"]),
  ("cp860", ["860", "csibm860", "ibm860"]),
  ("cp861", ["861", "cp_is", "csibm861", "ibm861"]),
  ("cp862", ["862", "cspc862latinhebrew", "ibm862"]),
  ("cp863", ["863", "csibm863", "ibm863"]),
  ("cp864", ["864", "csibm864", "ibm864"]),
  ("cp865", ["865", "csibm865", "ibm865"]),
  ("cp866", ["866", "csibm866", "ibm866"]),
  ("cp869", ["869", "cp_gr", "csibm869", "ibm869"]),
  ("cp932", ["932", "ms932", "mskanji", "ms_kanji"]),
  ("cp949", ["949", "ms949", "uhc"]),
  ("cp950", ["950", "ms950"]),
  ("euc_jis_2004", ["jisx0213", "eucjis2004", "euc_jis2004"]),
  ("euc_jisx0213", ["eucjisx0213"]),
  ("euc_jp", ["eucjp", "ujis", "u_jis"]),
  ("euc_kr", ["euckr", "korean", "ksc5601", "ks_c_5601", "ks_c_5601_1987", "ksx1001", "ks_x_1001",
    "x_mac_korean"]),
  ("gb18030", ["gb18030_2000"]),
  ("gb2312", ["chinese", "csiso58gb231280", "euc_cn", "euccn", "eucgb2312_cn", "gb2312_1980",
    "gb2312_80", "iso_ir_58", "x_mac_simp_chinese"]),
  ("gbk", ["936", "cp936", "ms936"]),
  ("hex_codec", ["hex"]),
  ("hp_roman8", ["roman8", "r8", "cp1051", "ibm1051"]),
  ("hz", ["hzgb", "hz_gb", "hz_gb_2312"]),
  ("iso2022_jp", ["csiso2022jp", "iso2022jp", "iso_2022_jp"]),
  ("iso2022_jp_1", ["iso2022jp_1", "iso_2022_jp_1"]),
  ("iso2022_jp_2", ["iso2022jp_2", "iso_2022_jp_2"]),
  ("iso2022_jp_2004", ["iso_2022_jp_2004", "iso2022jp_2004"]),
  ("iso2022_jp_3", ["iso2022jp_3", "iso_2022_jp_3"]),
  ("iso2022_jp_ext", ["iso2022jp_ext", "iso_2022_jp_ext"]),
  ("iso2022_kr", ["csiso2022kr", "iso2022kr", "iso_2022_kr"]),
  ("iso8859_10", ["csisolatin6", "iso_8859_10", "iso_8859_10_1992", "iso_ir_157", "l6", "latin6"]),
  ("iso8859_11", ["thai", "iso_8859_11", "iso_8859_11_2001"]),
  ("iso8859_13", ["iso_8859_13", "l7", "latin7"]),
  ("iso8859_14", ["iso_8859_14", "iso_8859_14_1998", "iso_celtic", "iso_ir_199", "l8", "latin8"]),
  ("iso8859_15", ["iso_8859_15", "l9", "latin9"]),
  ("iso8859_16", ["iso_8859_16", "iso_8859_16_2001", "iso_ir_226", "l10", "latin10"]),
  ("iso8859_2", ["csisolatin2", "iso_8859_2", "iso_8859_2_1987", "iso_ir_101", "l2", "latin2"]),
  ("iso8859_3", ["csisolatin3", "iso_8859_3", "iso_8859_3_1988", "iso_ir_109", "l3", "latin3"]),
  ("iso8859_4", ["csisolatin4", "iso_8859_4", "iso_8859_4_1988", "iso_ir_110", "l4", "latin4"]),
  ("iso8859_5", ["csisolatincyrillic", "cyrillic", "iso_8859_5", "iso_8859_5_1988", "iso_ir_144"]),
  ("iso8859_6", ["arabic", "asmo_708", "csisolatinarabic", "ecma_114", "iso_8859_6",
    "iso_8859_6_1987", "iso_ir_127"]),
  ("iso8859_7", ["csisolatingreek", "ecma_118", "elot_928", "greek", "greek8", "iso_8859_7",
    "iso_8859_7_1987", "iso_ir_126"]),
  ("iso8859_8", ["csisolatinhebrew", "hebrew", "iso_8859_8", "iso_8859_8_1988", "iso_ir_138"]),
  ("iso8859_9", ["csisolatin5", "iso_8859_9", "iso_8859_9_1989", "iso_ir_148", "l5", "latin5"]),
  ("johab", ["cp1361", "ms1361"]),
  ("koi8_r", ["cskoi8r"]),
  ("kz1048", ["kz_1048", "rk1048", "strk1048_2002"]),
  ("latin_1", ["8859", "cp819", "csisolatin1", "ibm819", "iso8859", "iso8859_1", "iso_8859_1",
    "iso_8859_1_1987", "iso_ir_100", "l1", "latin", "latin1"]),
  ("mac_cyrillic", ["maccyrillic"]),
  ("mac_greek", ["macgreek"]),
  ("mac_iceland", ["maciceland"]),
  ("mac_latin2", ["maccentraleurope", "mac_centeuro", "maclatin2"]),
  ("mac_roman", ["macintosh", "macroman"]),
  ("mac_turkish", ["macturkish"]),
  ("ptcp154", ["csptcp154", "pt154", "cp154", "cyrillic_asian"]),
  ("quopri_codec", ["quopri", "quoted_printable", "quotedprintable"]),
  ("rot_13", ["rot13"]),
  ("shift_jis", ["csshiftjis", "shiftjis", "sjis", "s_jis", "x_mac_japanese"]),
  ("shift_jis_2004", ["shiftjis2004", "sjis_2004", "s_jis_2004"]),
  ("shift_jisx0213", ["shiftjisx0213", "sjisx0213", "s_jisx0213"]),
  ("tis_620", ["tis620", "tis_620_0", "tis_620_2529_0", "tis_620_2529_1", "iso_ir_166"]),
  ("utf_16", ["u16", "utf16"]),
  ("utf_16_be", ["unicodebigunmarked", "utf_16be"]),
  ("utf_16_le", ["unicodelittleunmarked", "utf_16le"]),
  ("utf_32", ["u32", "utf32"]),
  ("utf_32_be", ["utf_32be"]),
  ("utf_32_le", ["utf_32le"]),
  ("utf_7", ["u7", "utf7", "unicode_1_1_utf_7"]),
  ("utf_8", ["u8", "utf", "utf8", "utf8_ucs2", "utf8_ucs4", "cp65001"]),
  ("uu_codec", ["uu"]),
  ("zlib_codec", ["zip", "zlib"])]

/-- The words of a name, with low lines between them. -/
def nameWords : Bool → List Char → List Char
  | _, [] => []
  | gap, c :: rest =>
    if c.isAlphanum || c == '.' then
      (if gap then ['_', c] else [c]) ++ nameWords false rest
    else nameWords true rest

/-- The encoding that has another name. -/
def ofAlias? (name : String) : Option String := (aliases.find? (·.2.contains name)).map (·.1)

/-- The names that a name may stand for, the first choice first. Points count as low lines in other
names. -/
def candidates (name : String) : List String :=
  let start := name.toList.dropWhile fun c => !(c.isAlphanum || c == '.')
  let words := asciiLower (nameWords false start)
  let name := String.ofList words
  let joined := String.ofList (words.map fun c => if c = '.' then '_' else c)
  match (ofAlias? name).or (ofAlias? joined) with
  | some found => [found, name]
  | none => [name]

/-- The encoding with a name. -/
def ofName (name : String) : Except NameFault Encoding :=
  let names := candidates name
  match names.findSome? fun name => all.find? (·.name = name) with
  | some encoding => .ok encoding
  | none => .error (if names.any others.contains then .notText else .unknown)

/-- The name of the encoding that the surroundings choose. -/
def localName : String := "locale"

/-- The encoding that a file is read with. -/
def forFile (name : String) : Except NameFault Encoding :=
  if name = localName then ofName "utf_8" else ofName name

end Encoding

/-- A text with line feeds for all line ends. -/
def unifyLineEnds : List Char → List Char
  | '\r' :: '\n' :: rest => '\n' :: unifyLineEnds rest
  | '\r' :: rest => '\n' :: unifyLineEnds rest
  | c :: rest => c :: unifyLineEnds rest
  | [] => []

end Docblock.Text
