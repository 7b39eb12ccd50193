/-
This file finds an encoding by its name. Names are compared without case, and any
run of characters other than letters, digits and points counts as one underscore.
A name may be an alias; only an alias may hold a point.
-/

import KeyFeed.Charset.Encode
import KeyFeed.Text.Character

namespace KeyFeed

/-- An encoding that refuses every text: the name by which it was asked for, and the reason. -/
structure Refuser where
  name : String
  reason : String
  deriving Repr, DecidableEq

/-- Why a name is refused as the name of an encoding for text. -/
inductive EncodingRefusal where
  /-- No encoding has the name. -/
  | unknown (name : String)
  /-- The name belongs to a transformation of bytes. -/
  | notText (name : String)
  /-- The name belongs to an encoding that refuses every text. -/
  | undefined (refuser : Refuser)
  /-- The name holds a NUL character. -/
  | holdsNul
  deriving Repr, DecidableEq

/-- How many bytes of a name, written in UTF-8, the message about a transformation of bytes
shows. -/
def shownNameBytes : Nat := 400

/-- The character in the place of one that is cut in two. -/
def cutMark : Char := '\uFFFD'

/-- The beginning of a text that has so many bytes in UTF-8. A character that is cut in two shows
as a mark. -/
def cutBytes : (room : Nat) → List Char → List Char
  | _, [] => []
  | 0, _ => []
  | room + 1, char :: rest =>
    if char.utf8Size ≤ room + 1 then char :: cutBytes (room + 1 - char.utf8Size) rest
    else [cutMark]

/-- The message of a refusal. -/
def EncodingRefusal.message : EncodingRefusal → String
  | .unknown name => "unknown encoding: " ++ name
  | .notText name =>
    "'" ++ String.ofList (cutBytes shownNameBytes name.toList) ++
      "' is not a text encoding; use codecs.encode() to handle arbitrary codecs"
  | .undefined refuser =>
    s!"encoding with '{refuser.name}' codec failed (UnicodeError: {refuser.reason})"
  | .holdsNul => "embedded null character"

namespace Charset

open KeyFeed.Text

/-- What a name in normal form stands for. -/
inductive Named where
  | text (charset : Charset)
  | transformation
  /-- An encoding that refuses every text, for the same reason. -/
  | refusing (reason : String)
  deriving Repr, DecidableEq

/-- A character that a name in normal form keeps. -/
def keptInName (char : Char) : Bool :=
  ('a' ≤ char && char ≤ 'z') || ('A' ≤ char && char ≤ 'Z') || ('0' ≤ char && char ≤ '9') ||
    char == '.'

/-- The normal form of a name, its parts joined by underscores. The flags say that a kept
character has been written, and that a run of others follows it. -/
def normalize : (started pending : Bool) → List Char → List Char
  | _, _, [] => []
  | started, pending, char :: rest =>
    if keptInName char then
      if started && pending then '_' :: lowerAscii char :: normalize true false rest
      else lowerAscii char :: normalize true false rest
    else normalize started true rest

/-- What stands under a name of its own and under others. -/
structure Entry where
  named : Named
  own : String
  others : List String := []

/-- All that has a name. -/
def entries : List Entry :=
  [{ named := .text .ascii, own := "ascii",
      others := ["646", "ansi_x3.4_1968", "ansi_x3_4_1968", "ansi_x3.4_1986", "cp367", "csascii",
        "ibm367", "iso646_us", "iso_646.irv_1991", "iso_ir_6", "us", "us_ascii"] },
    { named := .text .latin1, own := "latin_1",
      others := ["8859", "cp819", "csisolatin1", "ibm819", "iso8859", "iso8859_1", "iso_8859_1",
        "iso_8859_1_1987", "iso_ir_100", "l1", "latin", "latin1"] },
    { named := .text .latin1, own := "iso8859_1" },
    { named := .text .latin1, own := "charmap" },
    { named := .text .utf8, own := "utf_8",
      others := ["u8", "utf", "utf8", "utf8_ucs2", "utf8_ucs4", "cp65001"] },
    { named := .text .utf8Marked, own := "utf_8_sig" },
    { named := .text .utf16Marked, own := "utf_16", others := ["u16", "utf16"] },
    { named := .text .utf16Little, own := "utf_16_le",
      others := ["unicodelittleunmarked", "utf_16le"] },
    { named := .text .utf16Big, own := "utf_16_be", others := ["unicodebigunmarked", "utf_16be"] },
    { named := .text .utf32Marked, own := "utf_32", others := ["u32", "utf32"] },
    { named := .text .utf32Little, own := "utf_32_le", others := ["utf_32le"] },
    { named := .text .utf32Big, own := "utf_32_be", others := ["utf_32be"] },
    { named := .text .utf7, own := "utf_7", others := ["u7", "utf7", "unicode_1_1_utf_7"] },
    { named := .text .escaped, own := "unicode_escape" },
    { named := .text .rawEscaped, own := "raw_unicode_escape" },
    { named := .text .punycode, own := "punycode" },
    { named := .text (.page .ibm037), own := "cp037",
      others := ["037", "csibm037", "ebcdic_cp_ca", "ebcdic_cp_nl", "ebcdic_cp_us",
        "ebcdic_cp_wt", "ibm037", "ibm039"] },
    { named := .text (.page .ibm1006), own := "cp1006" },
    { named := .text (.page .ibm1026), own := "cp1026",
      others := ["1026", "csibm1026", "ibm1026"] },
    { named := .text (.page .ibm1125), own := "cp1125",
      others := ["1125", "ibm1125", "cp866u", "ruscii"] },
    { named := .text (.page .ibm1140), own := "cp1140", others := ["1140", "ibm1140"] },
    { named := .text (.page .ibm273), own := "cp273", others := ["273", "ibm273", "csibm273"] },
    { named := .text (.page .ibm424), own := "cp424",
      others := ["424", "csibm424", "ebcdic_cp_he", "ibm424"] },
    { named := .text (.page .ibm437), own := "cp437",
      others := ["437", "cspc8codepage437", "ibm437"] },
    { named := .text (.page .ibm500), own := "cp500",
      others := ["500", "csibm500", "ebcdic_cp_be", "ebcdic_cp_ch", "ibm500"] },
    { named := .text (.page .ibm720), own := "cp720" },
    { named := .text (.page .ibm737), own := "cp737" },
    { named := .text (.page .ibm775), own := "cp775",
      others := ["775", "cspc775baltic", "ibm775"] },
    { named := .text (.page .ibm850), own := "cp850",
      others := ["850", "cspc850multilingual", "ibm850"] },
    { named := .text (.page .ibm852), own := "cp852", others := ["852", "cspcp852", "ibm852"] },
    { named := .text (.page .ibm855), own := "cp855", others := ["855", "csibm855", "ibm855"] },
    { named := .text (.page .ibm856), own := "cp856" },
    { named := .text (.page .ibm857), own := "cp857", others := ["857", "csibm857", "ibm857"] },
    { named := .text (.page .ibm858), own := "cp858", others := ["858", "csibm858", "ibm858"] },
    { named := .text (.page .ibm860), own := "cp860", others := ["860", "csibm860", "ibm860"] },
    { named := .text (.page .ibm861), own := "cp861",
      others := ["861", "cp_is", "csibm861", "ibm861"] },
    { named := .text (.page .ibm862), own := "cp862",
      others := ["862", "cspc862latinhebrew", "ibm862"] },
    { named := .text (.page .ibm863), own := "cp863", others := ["863", "csibm863", "ibm863"] },
    { named := .text (.page .ibm864), own := "cp864", others := ["864", "csibm864", "ibm864"] },
    { named := .text (.page .ibm865), own := "cp865", others := ["865", "csibm865", "ibm865"] },
    { named := .text (.page .ibm866), own := "cp866", others := ["866", "csibm866", "ibm866"] },
    { named := .text (.page .ibm869), own := "cp869",
      others := ["869", "cp_gr", "csibm869", "ibm869"] },
    { named := .text (.page .ibm874), own := "cp874" },
    { named := .text (.page .ibm875), own := "cp875" },
    { named := .text (.page .roman8), own := "hp_roman8",
      others := ["roman8", "r8", "csHPRoman8", "cp1051", "ibm1051"] },
    { named := .text (.page .latin2), own := "iso8859_2",
      others := ["csisolatin2", "iso_8859_2", "iso_8859_2_1987", "iso_ir_101", "l2", "latin2"] },
    { named := .text (.page .latin3), own := "iso8859_3",
      others := ["csisolatin3", "iso_8859_3", "iso_8859_3_1988", "iso_ir_109", "l3", "latin3"] },
    { named := .text (.page .latin4), own := "iso8859_4",
      others := ["csisolatin4", "iso_8859_4", "iso_8859_4_1988", "iso_ir_110", "l4", "latin4"] },
    { named := .text (.page .latinCyrillic), own := "iso8859_5",
      others := ["csisolatincyrillic", "cyrillic", "iso_8859_5", "iso_8859_5_1988", "iso_ir_144"] },
    { named := .text (.page .latinArabic), own := "iso8859_6",
      others := ["arabic", "asmo_708", "csisolatinarabic", "ecma_114", "iso_8859_6",
        "iso_8859_6_1987", "iso_ir_127"] },
    { named := .text (.page .latinGreek), own := "iso8859_7",
      others := ["csisolatingreek", "ecma_118", "elot_928", "greek", "greek8", "iso_8859_7",
        "iso_8859_7_1987", "iso_ir_126"] },
    { named := .text (.page .latinHebrew), own := "iso8859_8",
      others := ["csisolatinhebrew", "hebrew", "iso_8859_8", "iso_8859_8_1988", "iso_ir_138"] },
    { named := .text (.page .latin5), own := "iso8859_9",
      others := ["csisolatin5", "iso_8859_9", "iso_8859_9_1989", "iso_ir_148", "l5", "latin5"] },
    { named := .text (.page .latin6), own := "iso8859_10",
      others := ["csisolatin6", "iso_8859_10", "iso_8859_10_1992", "iso_ir_157", "l6", "latin6"] },
    { named := .text (.page .latinThai), own := "iso8859_11",
      others := ["thai", "iso_8859_11", "iso_8859_11_2001"] },
    { named := .text (.page .latin7), own := "iso8859_13",
      others := ["iso_8859_13", "l7", "latin7"] },
    { named := .text (.page .latin8), own := "iso8859_14",
      others := ["iso_8859_14", "iso_8859_14_1998", "iso_celtic", "iso_ir_199", "l8", "latin8"] },
    { named := .text (.page .latin9), own := "iso8859_15",
      others := ["iso_8859_15", "l9", "latin9"] },
    { named := .text (.page .latin10), own := "iso8859_16",
      others := ["iso_8859_16", "iso_8859_16_2001", "iso_ir_226", "l10", "latin10"] },
    { named := .text (.page .koi8), own := "koi8_r", others := ["cskoi8r"] },
    { named := .text (.page .koi8Tajik), own := "koi8_t" },
    { named := .text (.page .koi8Ukrainian), own := "koi8_u" },
    { named := .text (.page .kazakh), own := "kz1048",
      others := ["kz_1048", "rk1048", "strk1048_2002"] },
    { named := .text (.page .macArabic), own := "mac_arabic" },
    { named := .text (.page .macCroatian), own := "mac_croatian" },
    { named := .text (.page .macCyrillic), own := "mac_cyrillic", others := ["maccyrillic"] },
    { named := .text (.page .macFarsi), own := "mac_farsi" },
    { named := .text (.page .macGreek), own := "mac_greek", others := ["macgreek"] },
    { named := .text (.page .macIceland), own := "mac_iceland", others := ["maciceland"] },
    { named := .text (.page .macLatin2), own := "mac_latin2",
      others := ["maccentraleurope", "mac_centeuro", "maclatin2"] },
    { named := .text (.page .macRoman), own := "mac_roman", others := ["macintosh", "macroman"] },
    { named := .text (.page .macRomanian), own := "mac_romanian" },
    { named := .text (.page .macTurkish), own := "mac_turkish", others := ["macturkish"] },
    { named := .text (.page .palm), own := "palmos" },
    { named := .text (.page .asianCyrillic), own := "ptcp154",
      others := ["csptcp154", "pt154", "cp154", "cyrillic_asian"] },
    { named := .text (.page .thai), own := "tis_620",
      others := ["tis620", "tis_620_0", "tis_620_2529_0", "tis_620_2529_1", "iso_ir_166"] },
    { named := .text (.page .windows1250), own := "cp1250", others := ["1250", "windows_1250"] },
    { named := .text (.page .windows1251), own := "cp1251", others := ["1251", "windows_1251"] },
    { named := .text (.page .windows1252), own := "cp1252", others := ["1252", "windows_1252"] },
    { named := .text (.page .windows1253), own := "cp1253", others := ["1253", "windows_1253"] },
    { named := .text (.page .windows1254), own := "cp1254", others := ["1254", "windows_1254"] },
    { named := .text (.page .windows1255), own := "cp1255", others := ["1255", "windows_1255"] },
    { named := .text (.page .windows1256), own := "cp1256", others := ["1256", "windows_1256"] },
    { named := .text (.page .windows1257), own := "cp1257", others := ["1257", "windows_1257"] },
    { named := .text (.page .windows1258), own := "cp1258", others := ["1258", "windows_1258"] },
    { named := .text (.wide .shiftJis), own := "shift_jis",
      others := ["csshiftjis", "shiftjis", "sjis", "s_jis", "x_mac_japanese"] },
    { named := .text (.wide .windowsJapanese), own := "cp932",
      others := ["932", "ms932", "mskanji", "ms_kanji"] },
    { named := .text (.wide .unixJapanese), own := "euc_jp", others := ["eucjp", "ujis", "u_jis"] },
    { named := .text (.wide .gb2312), own := "gb2312",
      others := ["chinese", "csiso58gb231280", "euc_cn", "euccn", "eucgb2312_cn", "gb2312_1980",
        "gb2312_80", "iso_ir_58", "x_mac_simp_chinese"] },
    { named := .text (.wide .gbk), own := "gbk", others := ["936", "cp936", "ms936"] },
    { named := .text (.wide .gb18030), own := "gb18030", others := ["gb18030_2000"] },
    { named := .text (.wide .big5), own := "big5",
      others := ["big5_tw", "csbig5", "x_mac_trad_chinese"] },
    { named := .text (.wide .windowsTaiwanese), own := "cp950", others := ["950", "ms950"] },
    { named := .text (.wide .unixKorean), own := "euc_kr",
      others := ["euckr", "korean", "ksc5601", "ks_c_5601", "ks_c_5601_1987", "ksx1001",
        "ks_x_1001", "x_mac_korean"] },
    { named := .text (.wide .windowsKorean), own := "cp949", others := ["949", "ms949", "uhc"] },
    { named := .text (.wide .combinedKorean), own := "johab", others := ["cp1361", "ms1361"] },
    { named := .text (.pairs (.shiftJis .first)), own := "shift_jisx0213",
      others := ["shiftjisx0213", "sjisx0213", "s_jisx0213"] },
    { named := .text (.pairs (.shiftJis .second)), own := "shift_jis_2004",
      others := ["shiftjis2004", "sjis_2004", "s_jis_2004"] },
    { named := .text (.pairs (.unix .first)), own := "euc_jisx0213", others := ["eucjisx0213"] },
    { named := .text (.pairs (.unix .second)), own := "euc_jis_2004",
      others := ["jisx0213", "eucjis2004", "euc_jis2004"] },
    { named := .text (.pairs .hongKong), own := "big5hkscs", others := ["big5_hkscs", "hkscs"] },
    { named := .text .hz, own := "hz", others := ["hzgb", "hz_gb", "hz_gb_2312"] },
    { named := .text (.iso2022 .korean), own := "iso2022_kr",
      others := ["csiso2022kr", "iso2022kr", "iso_2022_kr"] },
    { named := .text (.iso2022 .japanese), own := "iso2022_jp",
      others := ["csiso2022jp", "iso2022jp", "iso_2022_jp"] },
    { named := .text (.iso2022 .japanese1), own := "iso2022_jp_1",
      others := ["iso2022jp_1", "iso_2022_jp_1"] },
    { named := .text (.iso2022 .japanese2), own := "iso2022_jp_2",
      others := ["iso2022jp_2", "iso_2022_jp_2"] },
    { named := .text (.iso2022 .japanese3), own := "iso2022_jp_3",
      others := ["iso2022jp_3", "iso_2022_jp_3"] },
    { named := .text (.iso2022 .japanese2004), own := "iso2022_jp_2004",
      others := ["iso_2022_jp_2004", "iso2022jp_2004"] },
    { named := .text (.iso2022 .japaneseExtended), own := "iso2022_jp_ext",
      others := ["iso2022jp_ext", "iso_2022_jp_ext"] },
    { named := .transformation, own := "rot_13", others := ["rot13"] },
    { named := .transformation, own := "hex_codec", others := ["hex"] },
    { named := .transformation, own := "base64_codec", others := ["base64", "base_64"] },
    { named := .transformation, own := "bz2_codec", others := ["bz2"] },
    { named := .transformation, own := "zlib_codec", others := ["zip", "zlib"] },
    { named := .transformation, own := "uu_codec", others := ["uu"] },
    { named := .transformation, own := "quopri_codec",
      others := ["quopri", "quoted_printable", "quotedprintable"] },
    { named := .refusing "undefined encoding", own := "undefined" },
    { named := .refusing "unsupported error handling replace", own := "idna" }]

/-- The encodings by their own names. -/
def ownNames : List (String × Named) := entries.map fun entry => (entry.own, entry.named)

/-- The encodings by their other names. -/
def aliases : List (String × Named) :=
  entries.flatMap fun entry => entry.others.map fun key => (key, entry.named)

/-- A point as an underscore, any other character as it is. -/
def withoutPoint (char : Char) : Char := if char = '.' then '_' else char

/-- What a name in normal form stands for: an alias as it is written or with its points as
underscores, or else an encoding's own name, which holds no point. -/
def named? (normal : List Char) : Option Named :=
  (aliases.lookup (String.ofList normal)).or <|
    (aliases.lookup (String.ofList (normal.map withoutPoint))).or <|
      ownNames.lookup (String.ofList normal)

/-- Finds the encoding for text that a name stands for. -/
def find (name : String) : Except EncodingRefusal Charset :=
  if '\x00' ∈ name.toList then .error .holdsNul
  else match named? (normalize false false name.toList) with
    | none => .error (.unknown name)
    | some .transformation => .error (.notText name)
    | some (.refusing reason) => .error (.undefined ⟨name, reason⟩)
    | some (.text charset) => .ok charset

end Charset

end KeyFeed
