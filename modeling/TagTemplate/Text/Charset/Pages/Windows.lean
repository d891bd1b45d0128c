/-
# Windows — the code pages from 1250 on
-/
import TagTemplate.Text.Charset.Page

namespace TagTemplate.CodePage

/-- Code page 1250: Central Europe. -/
def cp1250 : CodePage := .upper
  ["€\ufffe‚\ufffe„…†‡\ufffe‰Š‹ŚŤŽŹ", "\ufffe‘’“”•–—\ufffe™š›śťžź", "\xa0ˇ˘Ł¤Ą¦§¨©Ş«¬\xad®Ż",
   "°±˛ł´µ¶·¸ąş»Ľ˝ľż", "ŔÁÂĂÄĹĆÇČÉĘËĚÍÎĎ", "ĐŃŇÓÔŐÖ×ŘŮÚŰÜÝŢß", "ŕáâăäĺćçčéęëěíîď",
   "đńňóôőö÷řůúűüýţ˙"]

/-- Code page 1251: Cyrillic. -/
def cp1251 : CodePage := .upper
  ["ЂЃ‚ѓ„…†‡€‰Љ‹ЊЌЋЏ", "ђ‘’“”•–—\ufffe™љ›њќћџ", "\xa0ЎўЈ¤Ґ¦§Ё©Є«¬\xad®Ї", "°±Ііґµ¶·ё№є»јЅѕї",
   "АБВГДЕЖЗИЙКЛМНОП", "РСТУФХЦЧШЩЪЫЬЭЮЯ", "абвгдежзийклмноп", "рстуфхцчшщъыьэюя"]

/-- Code page 1252: Western Europe. -/
def cp1252 : CodePage := .upper
  ["€\ufffe‚ƒ„…†‡ˆ‰Š‹Œ\ufffeŽ\ufffe", "\ufffe‘’“”•–—˜™š›œ\ufffežŸ", "\xa0¡¢£¤¥¦§¨©ª«¬\xad®¯",
   "°±²³´µ¶·¸¹º»¼½¾¿", "ÀÁÂÃÄÅÆÇÈÉÊËÌÍÎÏ", "ÐÑÒÓÔÕÖ×ØÙÚÛÜÝÞß", "àáâãäåæçèéêëìíîï",
   "ðñòóôõö÷øùúûüýþÿ"]

/-- Code page 1253: Greek. -/
def cp1253 : CodePage := .upper
  ["€\ufffe‚ƒ„…†‡\ufffe‰\ufffe‹\ufffe\ufffe\ufffe\ufffe",
   "\ufffe‘’“”•–—\ufffe™\ufffe›\ufffe\ufffe\ufffe\ufffe", "\xa0΅Ά£¤¥¦§¨©\ufffe«¬\xad®―",
   "°±²³΄µ¶·ΈΉΊ»Ό½ΎΏ", "ΐΑΒΓΔΕΖΗΘΙΚΛΜΝΞΟ", "ΠΡ\ufffeΣΤΥΦΧΨΩΪΫάέήί", "ΰαβγδεζηθικλμνξο",
   "πρςστυφχψωϊϋόύώ\ufffe"]

/-- Code page 1254: Turkish. -/
def cp1254 : CodePage := .upper
  ["€\ufffe‚ƒ„…†‡ˆ‰Š‹Œ\ufffe\ufffe\ufffe", "\ufffe‘’“”•–—˜™š›œ\ufffe\ufffeŸ",
   "\xa0¡¢£¤¥¦§¨©ª«¬\xad®¯", "°±²³´µ¶·¸¹º»¼½¾¿", "ÀÁÂÃÄÅÆÇÈÉÊËÌÍÎÏ", "ĞÑÒÓÔÕÖ×ØÙÚÛÜİŞß",
   "àáâãäåæçèéêëìíîï", "ğñòóôõö÷øùúûüışÿ"]

/-- Code page 1255: Hebrew. -/
def cp1255 : CodePage := .upper
  ["€\ufffe‚ƒ„…†‡ˆ‰\ufffe‹\ufffe\ufffe\ufffe\ufffe",
   "\ufffe‘’“”•–—˜™\ufffe›\ufffe\ufffe\ufffe\ufffe", "\xa0¡¢£₪¥¦§¨©×«¬\xad®¯", "°±²³´µ¶·¸¹÷»¼½¾¿",
   "\u05b0\u05b1\u05b2\u05b3\u05b4\u05b5\u05b6\u05b7\u05b8\u05b9\ufffe\u05bb\u05bc\u05bd\u05be\u05bf",
   "\u05c0\u05c1\u05c2\u05c3\u05f0\u05f1\u05f2\u05f3\u05f4\ufffe\ufffe\ufffe\ufffe\ufffe\ufffe\ufffe",
   "\u05d0\u05d1\u05d2\u05d3\u05d4\u05d5\u05d6\u05d7\u05d8\u05d9\u05da\u05db\u05dc\u05dd\u05de\u05df",
   "\u05e0\u05e1\u05e2\u05e3\u05e4\u05e5\u05e6\u05e7\u05e8\u05e9\u05ea\ufffe\ufffe\u200e\u200f\ufffe"]

/-- Code page 1256: Arabic. -/
def cp1256 : CodePage := .upper
  ["€\u067e‚ƒ„…†‡ˆ‰\u0679‹Œ\u0686\u0698\u0688", "\u06af‘’“”•–—\u06a9™\u0691›œ\u200c\u200d\u06ba",
   "\xa0،¢£¤¥¦§¨©\u06be«¬\xad®¯", "°±²³´µ¶·¸¹\u061b»¼½¾\u061f",
   "\u06c1\u0621\u0622\u0623\u0624\u0625\u0626\u0627\u0628\u0629\u062a\u062b\u062c\u062d\u062e\u062f",
   "\u0630\u0631\u0632\u0633\u0634\u0635\u0636×\u0637\u0638\u0639\u063a\u0640\u0641\u0642\u0643",
   "à\u0644â\u0645\u0646\u0647\u0648çèéêë\u0649\u064aîï",
   "\u064b\u064c\u064d\u064eô\u064f\u0650÷\u0651ù\u0652ûü\u200e\u200f\u06d2"]

/-- Code page 1257: Baltic languages. -/
def cp1257 : CodePage := .upper
  ["€\ufffe‚\ufffe„…†‡\ufffe‰\ufffe‹\ufffe¨ˇ¸", "\ufffe‘’“”•–—\ufffe™\ufffe›\ufffe¯˛\ufffe",
   "\xa0\ufffe¢£¤\ufffe¦§Ø©Ŗ«¬\xad®Æ", "°±²³´µ¶·ø¹ŗ»¼½¾æ", "ĄĮĀĆÄÅĘĒČÉŹĖĢĶĪĻ", "ŠŃŅÓŌÕÖ×ŲŁŚŪÜŻŽß",
   "ąįāćäåęēčéźėģķīļ", "šńņóōõö÷ųłśūüżž˙"]

/-- Code page 1258: Vietnamese. -/
def cp1258 : CodePage := .upper
  ["€\ufffe‚ƒ„…†‡ˆ‰\ufffe‹Œ\ufffe\ufffe\ufffe", "\ufffe‘’“”•–—˜™\ufffe›œ\ufffe\ufffeŸ",
   "\xa0¡¢£¤¥¦§¨©ª«¬\xad®¯", "°±²³´µ¶·¸¹º»¼½¾¿", "ÀÁÂĂÄÅÆÇÈÉÊË\u0300ÍÎÏ",
   "ĐÑ\u0309ÓÔƠÖ×ØÙÚÛÜƯ\u0303ß", "àáâăäåæçèéêë\u0301íîï", "đñ\u0323óôơö÷øùúûüư₫ÿ"]

end TagTemplate.CodePage
