/-
# Names of charsets

A charset goes by a name of its own and by others.  In names only letters,
digits and dots count, letters in any case; whatever stands between two runs of
them is one separator, written `_` here.  A dot counts as a separator too where
that makes one of the other names.

Some names are of encodings that turn bytes into bytes, and nothing is a text in
those.
-/
import TagTemplate.Text.Charset.Basic
import TagTemplate.Text.Charset.Pages.Ebcdic
import TagTemplate.Text.Charset.Pages.Personal
import TagTemplate.Text.Charset.Pages.Windows
import TagTemplate.Text.Charset.Pages.Iso
import TagTemplate.Text.Charset.Pages.Macintosh
import TagTemplate.Text.Charset.Pages.Various

namespace TagTemplate

/-- The names of a charset. -/
structure CharsetNames where
  own : String
  others : List String
  charset : Charset

/-- Why there is no charset of a name. -/
inductive CharsetFault where
  | unknown
  /-- The name is that of an encoding of bytes as bytes. -/
  | notText
  /-- There is a null character in the name. -/
  | holdsNull
deriving DecidableEq

namespace Charset

/-- The charsets by name. -/
def catalogue : List CharsetNames :=
  [⟨"utf_8", ["cp65001", "u8", "utf", "utf8", "utf8_ucs2", "utf8_ucs4"], utf8⟩,
   ⟨"utf_8_sig", [], utf8Signed⟩,
   ⟨"utf_7", ["u7", "unicode_1_1_utf_7", "utf7"], utf7⟩,
   ⟨"utf_16", ["u16", "utf16"], utf16 none⟩,
   ⟨"utf_16_le", ["unicodelittleunmarked", "utf_16le"], utf16 (some .little)⟩,
   ⟨"utf_16_be", ["unicodebigunmarked", "utf_16be"], utf16 (some .big)⟩,
   ⟨"utf_32", ["u32", "utf32"], utf32 none⟩,
   ⟨"utf_32_le", ["utf_32le"], utf32 (some .little)⟩,
   ⟨"utf_32_be", ["utf_32be"], utf32 (some .big)⟩,
   ⟨"ascii", ["646", "ansi_x3.4_1968", "ansi_x3.4_1986", "ansi_x3_4_1968", "cp367", "csascii",
     "ibm367", "iso646_us", "iso_646.irv_1991", "iso_ir_6", "us", "us_ascii"], ascii⟩,
   ⟨"latin_1", ["8859", "cp819", "csisolatin1", "ibm819", "iso8859", "iso8859_1", "iso_8859_1",
     "iso_8859_1_1987", "iso_ir_100", "l1", "latin", "latin1"], latin1⟩,
   ⟨"charmap", [], latin1⟩,
   ⟨"unicode_escape", [], escaped false⟩,
   ⟨"raw_unicode_escape", [], escaped true⟩,
   ⟨"punycode", [], punycode false⟩,
   ⟨"idna", [], punycode true⟩,
   ⟨"undefined", [], void⟩,
   ⟨"gb2312", ["chinese", "csiso58gb231280", "euc_cn", "euccn", "eucgb2312_cn", "gb2312_1980",
     "gb2312_80", "iso_ir_58", "x_mac_simp_chinese"], multibyte .gb2312⟩,
   ⟨"gbk", ["936", "cp936", "ms936"], multibyte .gbk⟩,
   ⟨"gb18030", ["gb18030_2000"], multibyte .gb18030⟩,
   ⟨"hz", ["hz_gb", "hz_gb_2312", "hzgb"], multibyte .hz⟩,
   ⟨"big5", ["big5_tw", "csbig5", "x_mac_trad_chinese"], multibyte .big5⟩,
   ⟨"cp950", ["950", "ms950"], multibyte .cp950⟩,
   ⟨"big5hkscs", ["big5_hkscs", "hkscs"], multibyte .big5Hkscs⟩,
   ⟨"euc_kr", ["euckr", "korean", "ks_c_5601", "ks_c_5601_1987", "ks_x_1001", "ksc5601",
     "ksx1001", "x_mac_korean"], multibyte .eucKr⟩,
   ⟨"cp949", ["949", "ms949", "uhc"], multibyte .cp949⟩,
   ⟨"johab", ["cp1361", "ms1361"], multibyte .johab⟩,
   ⟨"euc_jp", ["eucjp", "u_jis", "ujis"], multibyte .eucJp⟩,
   ⟨"euc_jis_2004", ["euc_jis2004", "eucjis2004", "jisx0213"], multibyte (.eucJis .y2004)⟩,
   ⟨"euc_jisx0213", ["eucjisx0213"], multibyte (.eucJis .y2000)⟩,
   ⟨"shift_jis", ["csshiftjis", "s_jis", "shiftjis", "sjis", "x_mac_japanese"], multibyte
     .shiftJis⟩,
   ⟨"cp932", ["932", "ms932", "ms_kanji", "mskanji"], multibyte .cp932⟩,
   ⟨"shift_jis_2004", ["s_jis_2004", "shiftjis2004", "sjis_2004"], multibyte (.shiftJis0213
     .y2004)⟩,
   ⟨"shift_jisx0213", ["s_jisx0213", "shiftjisx0213", "sjisx0213"], multibyte (.shiftJis0213
     .y2000)⟩,
   ⟨"iso2022_jp", ["csiso2022jp", "iso2022jp", "iso_2022_jp"], multibyte .iso2022Jp⟩,
   ⟨"iso2022_jp_1", ["iso2022jp_1", "iso_2022_jp_1"], multibyte .iso2022Jp1⟩,
   ⟨"iso2022_jp_2", ["iso2022jp_2", "iso_2022_jp_2"], multibyte .iso2022Jp2⟩,
   ⟨"iso2022_jp_2004", ["iso2022jp_2004", "iso_2022_jp_2004"], multibyte .iso2022Jp2004⟩,
   ⟨"iso2022_jp_3", ["iso2022jp_3", "iso_2022_jp_3"], multibyte .iso2022Jp3⟩,
   ⟨"iso2022_jp_ext", ["iso2022jp_ext", "iso_2022_jp_ext"], multibyte .iso2022JpExt⟩,
   ⟨"iso2022_kr", ["csiso2022kr", "iso2022kr", "iso_2022_kr"], multibyte .iso2022Kr⟩,
   ⟨"cp037", ["037", "csibm037", "ebcdic_cp_ca", "ebcdic_cp_nl", "ebcdic_cp_us", "ebcdic_cp_wt",
     "ibm037", "ibm039"], page .cp037⟩,
   ⟨"cp273", ["273", "csibm273", "ibm273"], page .cp273⟩,
   ⟨"cp424", ["424", "csibm424", "ebcdic_cp_he", "ibm424"], page .cp424⟩,
   ⟨"cp500", ["500", "csibm500", "ebcdic_cp_be", "ebcdic_cp_ch", "ibm500"], page .cp500⟩,
   ⟨"cp875", [], page .cp875⟩,
   ⟨"cp1026", ["1026", "csibm1026", "ibm1026"], page .cp1026⟩,
   ⟨"cp1140", ["1140", "ibm1140"], page .cp1140⟩,
   ⟨"cp437", ["437", "cspc8codepage437", "ibm437"], page .cp437⟩,
   ⟨"cp720", [], page .cp720⟩,
   ⟨"cp737", [], page .cp737⟩,
   ⟨"cp775", ["775", "cspc775baltic", "ibm775"], page .cp775⟩,
   ⟨"cp850", ["850", "cspc850multilingual", "ibm850"], page .cp850⟩,
   ⟨"cp852", ["852", "cspcp852", "ibm852"], page .cp852⟩,
   ⟨"cp855", ["855", "csibm855", "ibm855"], page .cp855⟩,
   ⟨"cp856", [], page .cp856⟩,
   ⟨"cp857", ["857", "csibm857", "ibm857"], page .cp857⟩,
   ⟨"cp858", ["858", "csibm858", "ibm858"], page .cp858⟩,
   ⟨"cp860", ["860", "csibm860", "ibm860"], page .cp860⟩,
   ⟨"cp861", ["861", "cp_is", "csibm861", "ibm861"], page .cp861⟩,
   ⟨"cp862", ["862", "cspc862latinhebrew", "ibm862"], page .cp862⟩,
   ⟨"cp863", ["863", "csibm863", "ibm863"], page .cp863⟩,
   ⟨"cp864", ["864", "csibm864", "ibm864"], page .cp864⟩,
   ⟨"cp865", ["865", "csibm865", "ibm865"], page .cp865⟩,
   ⟨"cp866", ["866", "csibm866", "ibm866"], page .cp866⟩,
   ⟨"cp869", ["869", "cp_gr", "csibm869", "ibm869"], page .cp869⟩,
   ⟨"cp874", [], page .cp874⟩,
   ⟨"cp1006", [], page .cp1006⟩,
   ⟨"cp1125", ["1125", "cp866u", "ibm1125", "ruscii"], page .cp1125⟩,
   ⟨"cp1250", ["1250", "windows_1250"], page .cp1250⟩,
   ⟨"cp1251", ["1251", "windows_1251"], page .cp1251⟩,
   ⟨"cp1252", ["1252", "windows_1252"], page .cp1252⟩,
   ⟨"cp1253", ["1253", "windows_1253"], page .cp1253⟩,
   ⟨"cp1254", ["1254", "windows_1254"], page .cp1254⟩,
   ⟨"cp1255", ["1255", "windows_1255"], page .cp1255⟩,
   ⟨"cp1256", ["1256", "windows_1256"], page .cp1256⟩,
   ⟨"cp1257", ["1257", "windows_1257"], page .cp1257⟩,
   ⟨"cp1258", ["1258", "windows_1258"], page .cp1258⟩,
   ⟨"iso8859_2", ["csisolatin2", "iso_8859_2", "iso_8859_2_1987", "iso_ir_101", "l2", "latin2"],
     page .iso8859x2⟩,
   ⟨"iso8859_3", ["csisolatin3", "iso_8859_3", "iso_8859_3_1988", "iso_ir_109", "l3", "latin3"],
     page .iso8859x3⟩,
   ⟨"iso8859_4", ["csisolatin4", "iso_8859_4", "iso_8859_4_1988", "iso_ir_110", "l4", "latin4"],
     page .iso8859x4⟩,
   ⟨"iso8859_5", ["csisolatincyrillic", "cyrillic", "iso_8859_5", "iso_8859_5_1988",
     "iso_ir_144"], page .iso8859x5⟩,
   ⟨"iso8859_6", ["arabic", "asmo_708", "csisolatinarabic", "ecma_114", "iso_8859_6",
     "iso_8859_6_1987", "iso_ir_127"], page .iso8859x6⟩,
   ⟨"iso8859_7", ["csisolatingreek", "ecma_118", "elot_928", "greek", "greek8", "iso_8859_7",
     "iso_8859_7_1987", "iso_ir_126"], page .iso8859x7⟩,
   ⟨"iso8859_8", ["csisolatinhebrew", "hebrew", "iso_8859_8", "iso_8859_8_1988", "iso_ir_138"],
     page .iso8859x8⟩,
   ⟨"iso8859_9", ["csisolatin5", "iso_8859_9", "iso_8859_9_1989", "iso_ir_148", "l5", "latin5"],
     page .iso8859x9⟩,
   ⟨"iso8859_10", ["csisolatin6", "iso_8859_10", "iso_8859_10_1992", "iso_ir_157", "l6",
     "latin6"], page .iso8859x10⟩,
   ⟨"iso8859_11", ["iso_8859_11", "iso_8859_11_2001", "thai"], page .iso8859x11⟩,
   ⟨"iso8859_13", ["iso_8859_13", "l7", "latin7"], page .iso8859x13⟩,
   ⟨"iso8859_14", ["iso_8859_14", "iso_8859_14_1998", "iso_celtic", "iso_ir_199", "l8",
     "latin8"], page .iso8859x14⟩,
   ⟨"iso8859_15", ["iso_8859_15", "l9", "latin9"], page .iso8859x15⟩,
   ⟨"iso8859_16", ["iso_8859_16", "iso_8859_16_2001", "iso_ir_226", "l10", "latin10"],
     page .iso8859x16⟩,
   ⟨"mac_arabic", [], page .macArabic⟩,
   ⟨"mac_croatian", [], page .macCroatian⟩,
   ⟨"mac_cyrillic", ["maccyrillic"], page .macCyrillic⟩,
   ⟨"mac_farsi", [], page .macFarsi⟩,
   ⟨"mac_greek", ["macgreek"], page .macGreek⟩,
   ⟨"mac_iceland", ["maciceland"], page .macIceland⟩,
   ⟨"mac_latin2", ["mac_centeuro", "maccentraleurope", "maclatin2"], page .macLatin2⟩,
   ⟨"mac_roman", ["macintosh", "macroman"], page .macRoman⟩,
   ⟨"mac_romanian", [], page .macRomanian⟩,
   ⟨"mac_turkish", ["macturkish"], page .macTurkish⟩,
   ⟨"hp_roman8", ["cp1051", "ibm1051", "r8", "roman8"], page .hpRoman8⟩,
   ⟨"koi8_r", ["cskoi8r"], page .koi8R⟩,
   ⟨"koi8_t", [], page .koi8T⟩,
   ⟨"koi8_u", [], page .koi8U⟩,
   ⟨"kz1048", ["kz_1048", "rk1048", "strk1048_2002"], page .kz1048⟩,
   ⟨"palmos", [], page .palmos⟩,
   ⟨"ptcp154", ["cp154", "csptcp154", "cyrillic_asian", "pt154"], page .ptcp154⟩,
   ⟨"tis_620", ["iso_ir_166", "tis620", "tis_620_0", "tis_620_2529_0", "tis_620_2529_1"],
     page .tis620⟩]

/-- The names of encodings of bytes as bytes. -/
def byteEncodings : List (String × List String) :=
  [("base64_codec", ["base64", "base_64"]), ("bz2_codec", ["bz2"]), ("hex_codec", ["hex"]),
   ("quopri_codec", ["quopri", "quoted_printable", "quotedprintable"]), ("rot_13", ["rot13"]),
   ("uu_codec", ["uu"]), ("zlib_codec", ["zip", "zlib"])]

/-- The dot, the only mark that counts in names. -/
def dot : CodePoint := .ofChar '.'

/-- A code point that counts in names. -/
def isNamePart (c : CodePoint) : Bool :=
  c = dot || c.inRanges [(0x30, 0x39), (0x41, 0x5a), (0x61, 0x7a)]

/-- The runs of what counts in a name, in lower case, with separators between them. -/
def normalizeName (name : Text) : Text :=
  let blank := CodePoint.ofChar ' '
  let parts := (name.map fun c => if isNamePart c then c.fold else blank).splitOn blank
  Text.join "_" (parts.filter (!·.isEmpty))

/-- The name is one of those of an entry; `others` are the names besides its own. -/
def goesBy (own : String) (others : List String) (name : Text) : Bool :=
  let undotted := name.map fun c => if c = dot then .ofChar '_' else c
  others.any (fun s => (s : Text) == name || (s : Text) == undotted) || (own : Text) == name

/-- The charset that goes by a name.  The name `locale` is that of the platform's charset. -/
def ofName (name : Text) : Except CharsetFault Charset :=
  let normal := normalizeName name
  if name.any (·.val == 0) then .error .holdsNull
  else if name = "locale" then .ok utf8
  else match catalogue.find? fun entry => goesBy entry.own entry.others normal with
    | some entry => .ok entry.charset
    | none =>
      if byteEncodings.any fun entry => goesBy entry.1 entry.2 normal then .error .notText
      else .error .unknown

end Charset

end TagTemplate
