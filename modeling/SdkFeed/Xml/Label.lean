import SdkFeed.Xml.Charset
import SdkFeed.Xml.ReadError

/-!
The names of encodings, as the reader of documents takes them. Besides the character sets it knows
itself it takes every set of one byte per character in which the markup can be written; of the
others it knows that they exist.
-/

namespace SdkFeed.Xml

/-- What the name of an encoding means to the reader. -/
inductive Label where
  | charset (charset : Charset)
  /-- A document cannot be written in it. -/
  | unusable
  | fault (fault : EncodingFault)
deriving DecidableEq, Repr

namespace Label

/-- A name with one underscore in place of every row of hyphens and underscores, and none at its
ends. `gap` tells that one is due. -/
def joinedName (gap : Bool) : List Char → List Char
  | [] => []
  | c :: rest =>
    if c.isAlphanum || c == '.' then
      if gap then '_' :: c.toLower :: joinedName false rest else c.toLower :: joinedName false rest
    else joinedName true rest

/-- A name as the tables of names have it. -/
def plainName (name : String) : String :=
  String.ofList (joinedName false (name.toList.dropWhile fun c => !(c.isAlphanum || c == '.')))

/-- Further names of the code pages. -/
def pageLabels : List (String × List String) := [
  ("cp1125", ["cp866u", "ibm1125", "ruscii"]),
  ("cp1250", ["windows_1250"]),
  ("cp1251", ["windows_1251"]),
  ("cp1252", ["windows_1252"]),
  ("cp1253", ["windows_1253"]),
  ("cp1254", ["windows_1254"]),
  ("cp1255", ["windows_1255"]),
  ("cp1256", ["windows_1256"]),
  ("cp1257", ["windows_1257"]),
  ("cp1258", ["windows_1258"]),
  ("cp437", ["cspc8codepage437", "ibm437"]),
  ("cp775", ["cspc775baltic", "ibm775"]),
  ("cp850", ["cspc850multilingual", "ibm850"]),
  ("cp852", ["cspcp852", "ibm852"]),
  ("cp855", ["csibm855", "ibm855"]),
  ("cp857", ["csibm857", "ibm857"]),
  ("cp858", ["csibm858", "ibm858"]),
  ("cp860", ["csibm860", "ibm860"]),
  ("cp861", ["cp_is", "csibm861", "ibm861"]),
  ("cp862", ["cspc862latinhebrew", "ibm862"]),
  ("cp863", ["csibm863", "ibm863"]),
  ("cp865", ["csibm865", "ibm865"]),
  ("cp866", ["csibm866", "ibm866"]),
  ("cp869", ["cp_gr", "csibm869", "ibm869"]),
  ("hp_roman8", ["cp1051", "ibm1051", "r8", "roman8"]),
  ("iso8859_10", ["csisolatin6", "iso_8859_10", "iso_8859_10_1992", "iso_ir_157", "l6", "latin6"]),
  ("iso8859_11", ["iso_8859_11", "iso_8859_11_2001", "thai"]),
  ("iso8859_13", ["iso_8859_13", "l7", "latin7"]),
  ("iso8859_14", ["iso_8859_14", "iso_8859_14_1998", "iso_celtic", "iso_ir_199", "l8", "latin8"]),
  ("iso8859_15", ["iso_8859_15", "l9", "latin9"]),
  ("iso8859_16", ["iso_8859_16", "iso_8859_16_2001", "iso_ir_226", "l10", "latin10"]),
  ("iso8859_2", ["csisolatin2", "iso_8859_2", "iso_8859_2_1987", "iso_ir_101", "l2", "latin2"]),
  ("iso8859_3", ["csisolatin3", "iso_8859_3", "iso_8859_3_1988", "iso_ir_109", "l3", "latin3"]),
  ("iso8859_4", ["csisolatin4", "iso_8859_4", "iso_8859_4_1988", "iso_ir_110", "l4", "latin4"]),
  ("iso8859_5", ["csisolatincyrillic", "cyrillic", "iso_8859_5", "iso_8859_5_1988", "iso_ir_144"]),
  ("iso8859_6", ["arabic", "asmo_708", "csisolatinarabic", "ecma_114", "iso_8859_6",
     "iso_8859_6_1987", "iso_ir_127"]),
  ("iso8859_7", ["csisolatingreek", "ecma_118", "elot_928", "greek", "greek8", "iso_8859_7",
     "iso_8859_7_1987", "iso_ir_126"]),
  ("iso8859_8", ["csisolatinhebrew", "hebrew", "iso_8859_8", "iso_8859_8_1988", "iso_ir_138"]),
  ("iso8859_9", ["csisolatin5", "iso_8859_9", "iso_8859_9_1989", "iso_ir_148", "l5", "latin5"]),
  ("koi8_r", ["cskoi8r"]),
  ("kz1048", ["kz_1048", "rk1048", "strk1048_2002"]),
  ("mac_cyrillic", ["maccyrillic"]),
  ("mac_greek", ["macgreek"]),
  ("mac_iceland", ["maciceland"]),
  ("mac_latin2", ["mac_centeuro", "maccentraleurope", "maclatin2"]),
  ("mac_roman", ["macintosh", "macroman"]),
  ("mac_turkish", ["macturkish"]),
  ("ptcp154", ["cp154", "csptcp154", "cyrillic_asian", "pt154"]),
  ("tis_620", ["iso_ir_166", "tis620", "tis_620_0", "tis_620_2529_0", "tis_620_2529_1"])]

/-- Sets with one meaning: their own names, and others that they go by. -/
structure Group where
  label : Label
  names : List String
  others : List String

/-- The sets that are no code pages. -/
def groups : List Group := [
  -- The set of the first 256 characters.
  { label := .charset .latin1
    names := ["charmap", "latin_1", "raw_unicode_escape", "unicode_escape"]
    others := ["cp819", "csisolatin1", "ibm819", "iso8859", "iso8859_1", "iso_8859_1",
      "iso_8859_1_1987", "iso_ir_100", "l1", "latin", "latin1"] },
  -- Sets of which the ASCII characters alone can be read byte by byte.
  { label := .charset .ascii
    names := ["ascii", "hz", "iso2022_jp", "iso2022_jp_1", "iso2022_jp_2", "iso2022_jp_2004",
      "iso2022_jp_3", "iso2022_jp_ext", "utf_8", "utf_8_sig"]
    others := ["ansi_x3.4_1968", "ansi_x3.4_1986", "ansi_x3_4_1968", "cp367", "cp65001",
      "csascii", "csiso2022jp", "hz_gb", "hz_gb_2312", "hzgb", "ibm367", "iso2022jp",
      "iso2022jp_1", "iso2022jp_2", "iso2022jp_2004", "iso2022jp_3", "iso2022jp_ext", "iso646_us",
      "iso_2022_jp", "iso_2022_jp_1", "iso_2022_jp_2", "iso_2022_jp_2004", "iso_2022_jp_3",
      "iso_2022_jp_ext", "iso_646.irv_1991", "iso_ir_6", "u8", "us", "us_ascii", "utf", "utf8",
      "utf8_ucs2", "utf8_ucs4"] },
  -- Sets whose characters take more than one byte.
  { label := .fault .multiByte
    names := ["big5", "big5hkscs", "cp932", "cp949", "cp950", "euc_jis_2004", "euc_jisx0213",
      "euc_jp", "euc_kr", "gb18030", "gb2312", "gbk", "iso2022_kr", "johab", "shift_jis",
      "shift_jis_2004", "shift_jisx0213", "utf_16", "utf_16_be", "utf_16_le", "utf_32",
      "utf_32_be", "utf_32_le", "utf_7"]
    others := ["big5_hkscs", "big5_tw", "chinese", "cp1361", "cp936", "csbig5", "csiso2022kr",
      "csiso58gb231280", "csshiftjis", "euc_cn", "euc_jis2004", "euccn", "eucgb2312_cn",
      "eucjis2004", "eucjisx0213", "eucjp", "euckr", "gb18030_2000", "gb2312_1980", "gb2312_80",
      "hkscs", "iso2022kr", "iso_2022_kr", "iso_ir_58", "jisx0213", "korean", "ks_c_5601",
      "ks_c_5601_1987", "ks_x_1001", "ksc5601", "ksx1001", "ms1361", "ms932", "ms936", "ms949",
      "ms950", "ms_kanji", "mskanji", "s_jis", "s_jis_2004", "s_jisx0213", "shiftjis",
      "shiftjis2004", "shiftjisx0213", "sjis", "sjis_2004", "sjisx0213", "u16", "u32", "u7",
      "u_jis", "uhc", "ujis", "unicode_1_1_utf_7", "unicodebigunmarked", "unicodelittleunmarked",
      "utf16", "utf32", "utf7", "utf_16be", "utf_16le", "utf_32be", "utf_32le", "x_mac_japanese",
      "x_mac_korean", "x_mac_simp_chinese", "x_mac_trad_chinese"] },
  -- Sets in which the markup has other codes, or more than one.
  { label := .unusable
    names := ["cp037", "cp1026", "cp1140", "cp273", "cp424", "cp500", "cp864", "cp875",
      "mac_arabic", "mac_farsi"]
    others := ["csibm037", "csibm1026", "csibm273", "csibm424", "csibm500", "csibm864",
      "ebcdic_cp_be", "ebcdic_cp_ca", "ebcdic_cp_ch", "ebcdic_cp_he", "ebcdic_cp_nl",
      "ebcdic_cp_us", "ebcdic_cp_wt", "ibm037", "ibm039", "ibm1026", "ibm1140", "ibm273",
      "ibm424", "ibm500", "ibm864"] },
  -- No sets of characters.
  { label := .fault .refused
    names := ["idna", "undefined"]
    others := [] },
  -- A form of names.
  { label := .fault .fails
    names := ["punycode"]
    others := [] }]

/-- The meaning of the own name of a set. -/
def ofOwnName? (name : String) : Option Label :=
  match groups.find? fun group => group.names.contains name with
  | some group => some group.label
  | none => (Text.codepages.lookup name).map fun upper => .charset (.page upper)

/-- The meaning of another name that sets go by. -/
def ofOtherName? (name : String) : Option Label :=
  match groups.find? fun group => group.others.contains name with
  | some group => some group.label
  | none => do
    let (page, _) ← pageLabels.find? fun (_, labels) => labels.contains name
    return .charset (.ofPage page)

/-- The meaning of a name. In names that are not the own ones a dot may stand for an underscore. -/
def ofName (name : String) : Label :=
  let plain := plainName name
  let dotless := String.ofList (plain.toList.map fun c => if c == '.' then '_' else c)
  let label? := (ofOtherName? plain).or ((ofOtherName? dotless).or (ofOwnName? plain))
  label?.getD (.fault (.unknown name))

end Label

namespace Charset

/-- The character set that the first bytes announce, and the bytes after a byte order mark. A
document starts with an ASCII character, so a zero byte among the first two tells units of 16
bits. -/
def announced : List UInt8 → Charset × Bool × List UInt8
  | 0xFE :: 0xFF :: rest => (.utf16 true false, true, rest)
  | 0xFF :: 0xFE :: rest => (.utf16 false false, true, rest)
  | 0xEF :: 0xBB :: 0xBF :: rest => (.utf8, true, rest)
  | 0 :: rest => (.utf16 true false, false, 0 :: rest)
  | a :: 0 :: rest => (.utf16 false false, false, a :: 0 :: rest)
  | bytes => (.utf8, false, bytes)

/-- Reconcile a declared name with the announced character set: sets of 8-bit units replace each
other, sets of 16-bit units must be the announced one. -/
def settle (announced : Charset) (name : String) : Except ReadError Charset :=
  let narrow (charset : Charset) : Except ReadError Charset :=
    if announced.isWide then .error .malformed else .ok charset
  let wide (isMeant : Bool) : Except ReadError Charset :=
    if isMeant then .ok announced else .error .malformed
  match name.toUpper with
  | "UTF-8" => narrow .utf8
  | "ISO-8859-1" => narrow .latin1
  | "US-ASCII" => narrow .ascii
  | "UTF-16" => wide announced.isWide
  | "UTF-16BE" => wide (announced = .utf16 true false)
  | "UTF-16LE" => wide (announced = .utf16 false false)
  | _ =>
    match Label.ofName name with
    | .charset charset => narrow charset
    | .unusable => .error .malformed
    | .fault fault => .error (.encoding fault)

end Charset

end SdkFeed.Xml
