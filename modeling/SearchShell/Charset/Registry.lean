import SearchShell.Charset.Dos
import SearchShell.Charset.Ebcdic
import SearchShell.Charset.Escapes
import SearchShell.Charset.Iso8859
import SearchShell.Charset.Korean
import SearchShell.Charset.Macintosh
import SearchShell.Charset.National
import SearchShell.Charset.Switched
import SearchShell.Charset.Unicode
import SearchShell.Charset.Windows

/-!
# The registered charsets

Reading octets in any charset, and finding a charset by its name.  Every charset has
one proper name and any number of others; neither case nor what separates the words of a
name counts.
-/

set_option autoImplicit false

namespace SearchShell

/-! ## The charsets of East Asia

Reading octets in any of them, and their names. -/

def EastAsianCharset.decode (octets : Octets) (charset : EastAsianCharset) :
    Except CharsetFault Text :=
  let inPairs (text? : Nat → Nat → Option Text) : Except CharsetFault Text :=
    Charset.decodeStream (Reading.afterAscii (Reading.pair text?)) () octets
  match charset with
  | gb2312 => inPairs Plane.gb2312.highText?
  | gbk => inPairs Chinese.gbkText?
  | gb18030 => Charset.decodeStream (Reading.afterAscii Chinese.gb18030) () octets
  | hz => Charset.decodeStream Chinese.hz false octets
  | big5 => inPairs (Chinese.big5Text? Plane.big5)
  | cp950 => inPairs Chinese.cp950Text?
  | hongKong => inPairs Chinese.hongKongText?
  | eucJapanese repertoire =>
      Charset.decodeStream (Reading.afterAscii (Japanese.euc repertoire)) () octets
  | shiftJapanese repertoire => Charset.decodeStream (Japanese.shifted repertoire) () octets
  | cp932 => Charset.decodeStream Japanese.cp932 () octets
  | eucKorean => Charset.decodeStream (Reading.afterAscii Korean.euc) () octets
  | cp949 => inPairs Korean.cp949Text?
  | johab => inPairs Korean.johabText?
  | switched form => Charset.decodeStream (Switched.read form) {} octets

namespace Charset

def eastAsia : List Entry := [
  ⟨"big5", ["big5_tw", "csbig5", "x_mac_trad_chinese"], .eastAsian .big5⟩,
  ⟨"big5hkscs", ["big5_hkscs", "hkscs"], .eastAsian .hongKong⟩,
  ⟨"cp932", ["932", "ms932", "ms_kanji", "mskanji"], .eastAsian .cp932⟩,
  ⟨"cp949", ["949", "ms949", "uhc"], .eastAsian .cp949⟩,
  ⟨"cp950", ["950", "ms950"], .eastAsian .cp950⟩,
  ⟨"euc_jis_2004", ["euc_jis2004", "eucjis2004", "jisx0213"],
    .eastAsian (.eucJapanese .jis2004)⟩,
  ⟨"euc_jisx0213", ["eucjisx0213"], .eastAsian (.eucJapanese .jis2000)⟩,
  ⟨"euc_jp", ["eucjp", "u_jis", "ujis"], .eastAsian (.eucJapanese .jis1990)⟩,
  ⟨"euc_kr", ["euckr", "korean", "ks_c_5601", "ks_c_5601_1987", "ks_x_1001", "ksc5601",
    "ksx1001", "x_mac_korean"], .eastAsian .eucKorean⟩,
  ⟨"gb18030", ["gb18030_2000"], .eastAsian .gb18030⟩,
  ⟨"gb2312", ["chinese", "csiso58gb231280", "euc_cn", "euccn", "eucgb2312_cn", "gb2312_1980",
    "gb2312_80", "iso_ir_58", "x_mac_simp_chinese"], .eastAsian .gb2312⟩,
  ⟨"gbk", ["936", "cp936", "ms936"], .eastAsian .gbk⟩,
  ⟨"hz", ["hz_gb", "hz_gb_2312", "hzgb"], .eastAsian .hz⟩,
  ⟨"iso2022_jp", ["csiso2022jp", "iso2022jp", "iso_2022_jp"], .eastAsian (.switched .japanese)⟩,
  ⟨"iso2022_jp_1", ["iso2022jp_1", "iso_2022_jp_1"], .eastAsian (.switched .japanese1)⟩,
  ⟨"iso2022_jp_2", ["iso2022jp_2", "iso_2022_jp_2"], .eastAsian (.switched .japanese2)⟩,
  ⟨"iso2022_jp_2004", ["iso2022jp_2004", "iso_2022_jp_2004"],
    .eastAsian (.switched .japanese2004)⟩,
  ⟨"iso2022_jp_3", ["iso2022jp_3", "iso_2022_jp_3"], .eastAsian (.switched .japanese3)⟩,
  ⟨"iso2022_jp_ext", ["iso2022jp_ext", "iso_2022_jp_ext"],
    .eastAsian (.switched .japaneseExtended)⟩,
  ⟨"iso2022_kr", ["csiso2022kr", "iso2022kr", "iso_2022_kr"], .eastAsian (.switched .korean)⟩,
  ⟨"johab", ["cp1361", "ms1361"], .eastAsian .johab⟩,
  ⟨"shift_jis", ["csshiftjis", "s_jis", "shiftjis", "sjis", "x_mac_japanese"],
    .eastAsian (.shiftJapanese .jis1990)⟩,
  ⟨"shift_jis_2004", ["s_jis_2004", "shiftjis2004", "sjis_2004"],
    .eastAsian (.shiftJapanese .jis2004)⟩,
  ⟨"shift_jisx0213", ["s_jisx0213", "shiftjisx0213", "sjisx0213"],
    .eastAsian (.shiftJapanese .jis2000)⟩]

end Charset

/-! ## All charsets -/

namespace Charset

/-- What an octet stands for, given the code points of the octets from `first` on. -/
def tablePoint (first : Nat) (points : Array CodePoint) (octet : UInt8) : CodePoint :=
  if octet.toNat < first then samePoint octet
  else (points[octet.toNat - first]?).getD CodePoint.replacement

/-- Reads octets.  What the charset leaves undefined reads as U+FFFD. -/
def decode (octets : Octets) : Charset → Except CharsetFault Text
  | utf8 => .ok (Utf8.decodeLenient octets)
  | utf8Marked => .ok (decodeUtf8Marked octets)
  | utf16 order => decodeUtf16 order octets
  | utf32 order => decodeUtf32 order octets
  | utf7 => .ok (Utf7.decode octets)
  | ascii => .ok (octets.map asciiPoint)
  | latin1 => .ok (octets.map samePoint)
  | singleOctet first rows =>
      let points := (rows.flatMap text).toArray
      .ok (octets.map (tablePoint first points))
  | escapes raw => .ok (Escapes.decode raw octets)
  | punycode => decodePunycode octets
  | eastAsian charset => charset.decode octets
  | unreadable fault => .error fault

def unicode : List Entry := [
  ⟨"ascii", ["646", "ansi_x3.4_1968", "ansi_x3.4_1986", "ansi_x3_4_1968", "cp367", "csascii",
    "ibm367", "iso646_us", "iso_646.irv_1991", "iso_ir_6", "us", "us_ascii"], ascii⟩,
  ⟨"latin_1", ["8859", "cp819", "csisolatin1", "ibm819", "iso8859", "iso8859_1", "iso_8859_1",
    "iso_8859_1_1987", "iso_ir_100", "l1", "latin", "latin1"], latin1⟩,
  ⟨"charmap", [], latin1⟩,
  ⟨"utf_8", ["u8", "utf", "utf8", "utf8_ucs2", "utf8_ucs4", "cp65001"], utf8⟩,
  ⟨"utf_8_sig", [], utf8Marked⟩,
  ⟨"utf_16", ["u16", "utf16"], utf16 none⟩,
  ⟨"utf_16_be", ["unicodebigunmarked", "utf_16be"], utf16 (some .big)⟩,
  ⟨"utf_16_le", ["unicodelittleunmarked", "utf_16le"], utf16 (some .little)⟩,
  ⟨"utf_32", ["u32", "utf32"], utf32 none⟩,
  ⟨"utf_32_be", ["utf_32be"], utf32 (some .big)⟩,
  ⟨"utf_32_le", ["utf_32le"], utf32 (some .little)⟩,
  ⟨"utf_7", ["u7", "utf7", "unicode_1_1_utf_7"], utf7⟩,
  ⟨"unicode_escape", [], escapes false⟩,
  ⟨"raw_unicode_escape", [], escapes true⟩,
  ⟨"punycode", [], punycode⟩]

/-- Names that are known but stand for no way to read text. -/
def transforms : List Entry := [
  ⟨"idna", [], unreadable .strictOnly⟩,
  ⟨"undefined", [], unreadable .undefined⟩,
  ⟨"rot_13", ["rot13"], unreadable .textOnly⟩,
  ⟨"base64_codec", ["base64", "base_64"], unreadable .octetsOnly⟩,
  ⟨"bz2_codec", ["bz2"], unreadable .octetsOnly⟩,
  ⟨"hex_codec", ["hex"], unreadable .octetsOnly⟩,
  ⟨"quopri_codec", ["quopri", "quoted_printable", "quotedprintable"], unreadable .octetsOnly⟩,
  ⟨"uu_codec", ["uu"], unreadable .octetsOnly⟩,
  ⟨"zlib_codec", ["zip", "zlib"], unreadable .octetsOnly⟩]

def registered : List Entry :=
  unicode ++ iso8859 ++ windows ++ dos ++ ebcdic ++ macintosh ++ national ++ eastAsia ++ transforms

/-! ### Names -/

/-- The words of a name, with underscores between them.  A dot belongs to a word. -/
def normalName (name : Text) : Text :=
  let marked := name.toAsciiLower.map fun c =>
    if c.isAsciiLetter || c.isAsciiDigit || c = CodePoint.ofChar '.' then c
    else CodePoint.ofChar '_'
  Text.joined (text "_") (Text.pieces '_' marked)

/-- The charset goes by this name, which is not its proper one. -/
def Entry.hasAlias (name : Text) (entry : Entry) : Bool :=
  entry.aliases.any fun known => text known = name

/-- The entry for a name.  A name with a dot in it is no proper name, and the dot can be
left out. -/
def lookUp? (name : Text) : Option Entry :=
  let normal := normalName name
  let undotted : Text := normal.map fun c =>
    if c = CodePoint.ofChar '.' then CodePoint.ofChar '_' else c
  registered.find? fun entry =>
    entry.hasAlias normal || entry.hasAlias undotted || text entry.name = normal

def ofName? (name : Text) : Option Charset := (lookUp? name).map Entry.charset

end Charset

end SearchShell
