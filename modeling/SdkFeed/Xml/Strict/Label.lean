import SdkFeed.Xml.Charset

/-!
The names of encodings, as the strict reader takes them: registered names and their aliases, in
any case but letter by letter. Sets whose units are wider than a byte are left out, since a
document whose first bytes do not show them cannot be written in them.
-/

namespace SdkFeed.Xml.Strict

namespace Label

/-- Other names of the parts of the family of Latin alphabets and their relatives, by number. -/
def partLabels : List (Nat × List String) := [
  (1, ["ISO-IR-100", "CP819", "IBM819", "LATIN1", "L1", "CSISOLATIN1", "ISO-LATIN-1"]),
  (2, ["ISO-IR-101", "LATIN2", "L2", "CSISOLATIN2", "ISO-LATIN-2"]),
  (3, ["ISO-IR-109", "LATIN3", "L3", "CSISOLATIN3"]),
  (4, ["ISO-IR-110", "LATIN4", "L4", "CSISOLATIN4"]),
  (5, ["ISO-IR-144", "CYRILLIC", "CSISOLATINCYRILLIC"]),
  (6, ["ISO-IR-127", "ECMA-114", "ASMO-708", "ARABIC", "CSISOLATINARABIC"]),
  (7, ["ISO-IR-126", "ECMA-118", "ELOT_928", "GREEK8", "GREEK", "CSISOLATINGREEK"]),
  (8, ["ISO-IR-138", "HEBREW", "CSISOLATINHEBREW"]),
  (9, ["ISO-IR-148", "LATIN5", "L5", "CSISOLATIN5"]),
  (10, ["ISO-IR-157", "LATIN6", "L6", "CSISOLATIN6"]),
  (11, []),
  (13, ["ISO-IR-179", "LATIN7", "L7"]),
  (14, ["ISO-IR-199", "LATIN8", "L8", "ISO-CELTIC"]),
  (15, ["ISO-IR-203", "LATIN-9"]),
  (16, ["ISO-IR-226", "LATIN10", "L10"])]

/-- The names of the other code pages. -/
def pageLabels : List (String × List String) := [
  ("koi8_r", ["KOI8-R", "CSKOI8R"]),
  ("koi8_u", ["KOI8-U"]),
  ("koi8_t", ["KOI8-T"]),
  ("cp1250", ["CP1250", "WINDOWS-1250", "MS-EE"]),
  ("cp1251", ["CP1251", "WINDOWS-1251", "MS-CYRL"]),
  ("cp1252", ["CP1252", "WINDOWS-1252", "MS-ANSI"]),
  ("cp1253", ["CP1253", "WINDOWS-1253", "MS-GREEK"]),
  ("cp1254", ["CP1254", "WINDOWS-1254", "MS-TURK"]),
  ("cp1255", ["CP1255", "WINDOWS-1255", "MS-HEBR"]),
  ("cp1256", ["CP1256", "WINDOWS-1256", "MS-ARAB"]),
  ("cp1257", ["CP1257", "WINDOWS-1257", "WINBALTRIM"]),
  ("cp1258", ["CP1258", "WINDOWS-1258"]),
  ("cp850", ["CP850", "IBM850", "CSPC850MULTILINGUAL"]),
  ("cp862", ["CP862", "IBM862", "CSPC862LATINHEBREW"]),
  ("cp866", ["CP866", "IBM866", "CSIBM866"]),
  ("cp874", ["CP874", "WINDOWS-874"]),
  ("mac_roman", ["MACROMAN", "MACINTOSH", "MAC", "CSMACINTOSH"]),
  ("mac_latin2", ["MACCENTRALEUROPE"]),
  ("mac_iceland", ["MACICELAND"]),
  ("mac_croatian", ["MACCROATIAN"]),
  ("mac_romanian", ["MACROMANIA"]),
  ("mac_cyrillic", ["MACCYRILLIC"]),
  ("mac_greek", ["MACGREEK"]),
  ("mac_turkish", ["MACTURKISH"]),
  ("hp_roman8", ["HP-ROMAN8", "ROMAN8", "R8", "CSHPROMAN8"]),
  ("ptcp154", ["PT154", "PTCP154", "CP154", "CYRILLIC-ASIAN", "CSPTCP154"]),
  ("kz1048", ["RK1048", "STRK1048-2002", "KZ-1048", "CSKZ1048"]),
  ("tis_620", ["TIS-620", "TIS620", "TIS620-0", "TIS620.2529-1", "TIS620.2533-0", "TIS620.2533-1",
    "ISO-IR-166"])]

/-- Names of code pages whose characters are not told apart. -/
def unmappedLabels : List String :=
  ["KOI8-RU", "CP1131", "MACUKRAINE", "MACHEBREW", "MACARABIC", "MACTHAI", "NEXTSTEP",
    "ARMSCII-8", "GEORGIAN-ACADEMY", "GEORGIAN-PS", "MULELAO-1", "CP1133", "IBM-CP1133", "VISCII",
    "VISCII1.1-1", "CSVISCII", "TCVN", "TCVN-5712", "TCVN5712-1", "JIS_X0201", "JISX0201-1976",
    "X0201", "CSHALFWIDTHKATAKANA"]

/-- Names of sets that hold ASCII and no byte beyond it. -/
def asciiLabels : List String :=
  ["US-ASCII", "ASCII", "ISO646-US", "ISO-IR-6", "ANSI_X3.4-1968",
    "ANSI_X3.4-1986", "CP367", "IBM367", "US", "CSASCII", "HTML", "UTF-7", "UNICODE-1-1-UTF-7",
    "CSUNICODE11UTF7", "C99", "JAVA", "ISO646-JP", "ISO-IR-14", "JP", "CSISO14ISO646JP",
    "JIS_C6220-1969-RO", "ISO646-CN", "ISO-IR-57", "CN", "GB_1988-80", "CSISO57GB1988",
    "ISO-2022-JP", "CSISO2022JP", "ISO-2022-JP-1", "ISO-2022-JP-2", "CSISO2022JP2", "ISO-2022-CN",
    "CSISO2022CN", "ISO-2022-CN-EXT", "ISO-2022-KR", "CSISO2022KR", "HZ", "HZ-GB-2312"]

/-- The bytes of a range. -/
def range (low high : Nat) : ByteRange :=
  [(low, high)]

/-- Two bytes of the upper half, as the sets of the Extended Unix Code have them. -/
def upperPair : List ByteRange :=
  [range 0xA1 0xFE, range 0xA1 0xFE]

/-- The forms of rows of bytes in sets of several bytes per character, with their names. -/
def rowLabels : List (List (List ByteRange) × List String) := [
  ([upperPair, [range 0x8E 0x8E, range 0xA1 0xDF],
      [range 0x8F 0x8F, range 0xA1 0xFE, range 0xA1 0xFE]],
    ["EUC-JP", "EUCJP", "CSEUCPKDFMTJAPANESE",
      "EXTENDED_UNIX_CODE_PACKED_FORMAT_FOR_JAPANESE"]),
  ([[range 0xA1 0xDF],
      [[(0x81, 0x9F), (0xE0, 0xFC)], [(0x40, 0x7E), (0x80, 0xFC)]]],
    ["SHIFT_JIS", "SHIFT-JIS", "SJIS", "MS_KANJI", "CSSHIFTJIS", "CP932"]),
  ([[range 0xA1 0xF7, range 0xA1 0xFE]],
    ["EUC-CN", "EUCCN", "GB2312", "CN-GB", "CSGB2312"]),
  ([[range 0x81 0xFE, [(0x40, 0x7E), (0x80, 0xFE)]]],
    ["GBK", "CP936", "MS936", "WINDOWS-936"]),
  ([[range 0x81 0xFE, [(0x40, 0x7E), (0x80, 0xFE)]],
      [range 0x81 0xFE, range 0x30 0x39, range 0x81 0xFE, range 0x30 0x39]],
    ["GB18030", "CSGB18030"]),
  ([upperPair, [range 0x8E 0x8E, range 0xA1 0xB0, range 0xA1 0xFE, range 0xA1 0xFE]],
    ["EUC-TW", "EUCTW", "CSEUCTW"]),
  ([[range 0xA1 0xF9, [(0x40, 0x7E), (0xA1, 0xFE)]]],
    ["BIG5", "BIG-5", "BIG-FIVE", "BIGFIVE", "CN-BIG5", "CSBIG5", "CP950"]),
  ([[range 0x87 0xFE, [(0x40, 0x7E), (0xA1, 0xFE)]]],
    ["BIG5-HKSCS", "BIG5HKSCS"]),
  ([upperPair], ["EUC-KR", "EUCKR", "CSEUCKR"]),
  ([[range 0x81 0xFE, [(0x41, 0x5A), (0x61, 0x7A), (0x81, 0xFE)]]],
    ["CP949", "UHC"]),
  ([[[(0x84, 0xD3), (0xD8, 0xDE), (0xE0, 0xF9)], [(0x31, 0x7E), (0x81, 0xFE)]]],
    ["JOHAB", "CP1361"])]

/-- The names of a part of the family of Latin alphabets. -/
def partNames (part : Nat) (others : List String) : List String :=
  ["ISO-8859-", "ISO_8859-", "ISO8859-"].map (· ++ toString part) ++ others

/-- The page of a part of the family of Latin alphabets. -/
def ofPart (part : Nat) : Charset :=
  if part == 1 then .latin1 else .ofPage ("iso8859_" ++ toString part)

/-- The character set that a name stands for. -/
def charset? (name : String) : Option Charset :=
  let name := name.toUpper
  if ["UTF-8", "UTF8", "UTF-8-MAC", "UTF8-MAC"].contains name then some .utf8
  else if asciiLabels.contains name then some .ascii
  else if unmappedLabels.contains name then some (.page Text.unmappedPage)
  else if let some (part, _) :=
      partLabels.find? fun (part, others) => (partNames part others).contains name then
    some (ofPart part)
  else if let some (page, _) := pageLabels.find? fun (_, labels) => labels.contains name then
    some (.ofPage page)
  else (rowLabels.find? fun (_, labels) => labels.contains name).map fun (forms, _) => .rows forms

end Label

end SdkFeed.Xml.Strict
