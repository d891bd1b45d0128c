/-
# ISO 8859 — the parts of the standard from the second on
-/
import TagTemplate.Text.Charset.Page

namespace TagTemplate.CodePage

/-- ISO 8859-2: Central Europe. -/
def iso8859x2 : CodePage := .upper
  [firstControls, secondControls, "\xa0Ą˘Ł¤ĽŚ§¨ŠŞŤŹ\xadŽŻ", "°ą˛ł´ľśˇ¸šşťź˝žż",
   "ŔÁÂĂÄĹĆÇČÉĘËĚÍÎĎ", "ĐŃŇÓÔŐÖ×ŘŮÚŰÜÝŢß", "ŕáâăäĺćçčéęëěíîď", "đńňóôőö÷řůúűüýţ˙"]

/-- ISO 8859-3: Southern Europe. -/
def iso8859x3 : CodePage := .upper
  [firstControls, secondControls, "\xa0Ħ˘£¤\ufffeĤ§¨İŞĞĴ\xad\ufffeŻ", "°ħ²³´µĥ·¸ışğĵ½\ufffeż",
   "ÀÁÂ\ufffeÄĊĈÇÈÉÊËÌÍÎÏ", "\ufffeÑÒÓÔĠÖ×ĜÙÚÛÜŬŜß", "àáâ\ufffeäċĉçèéêëìíîï",
   "\ufffeñòóôġö÷ĝùúûüŭŝ˙"]

/-- ISO 8859-4: Northern Europe. -/
def iso8859x4 : CodePage := .upper
  [firstControls, secondControls, "\xa0ĄĸŖ¤ĨĻ§¨ŠĒĢŦ\xadŽ¯", "°ą˛ŗ´ĩļˇ¸šēģŧŊžŋ",
   "ĀÁÂÃÄÅÆĮČÉĘËĖÍÎĪ", "ĐŅŌĶÔÕÖ×ØŲÚÛÜŨŪß", "āáâãäåæįčéęëėíîī", "đņōķôõö÷øųúûüũū˙"]

/-- ISO 8859-5: Cyrillic. -/
def iso8859x5 : CodePage := .upper
  [firstControls, secondControls, "\xa0ЁЂЃЄЅІЇЈЉЊЋЌ\xadЎЏ", "АБВГДЕЖЗИЙКЛМНОП",
   "РСТУФХЦЧШЩЪЫЬЭЮЯ", "абвгдежзийклмноп", "рстуфхцчшщъыьэюя", "№ёђѓєѕіїјљњћќ§ўџ"]

/-- ISO 8859-6: Arabic. -/
def iso8859x6 : CodePage := .upper
  [firstControls, secondControls,
   "\xa0\ufffe\ufffe\ufffe¤\ufffe\ufffe\ufffe\ufffe\ufffe\ufffe\ufffe،\xad\ufffe\ufffe",
   "\ufffe\ufffe\ufffe\ufffe\ufffe\ufffe\ufffe\ufffe\ufffe\ufffe\ufffe\u061b\ufffe\ufffe\ufffe\u061f",
   "\ufffe\u0621\u0622\u0623\u0624\u0625\u0626\u0627\u0628\u0629\u062a\u062b\u062c\u062d\u062e\u062f",
   "\u0630\u0631\u0632\u0633\u0634\u0635\u0636\u0637\u0638\u0639\u063a\ufffe\ufffe\ufffe\ufffe\ufffe",
   "\u0640\u0641\u0642\u0643\u0644\u0645\u0646\u0647\u0648\u0649\u064a\u064b\u064c\u064d\u064e\u064f",
   "\u0650\u0651\u0652\ufffe\ufffe\ufffe\ufffe\ufffe\ufffe\ufffe\ufffe\ufffe\ufffe\ufffe\ufffe\ufffe"]

/-- ISO 8859-7: Greek. -/
def iso8859x7 : CodePage := .upper
  [firstControls, secondControls, "\xa0‘’£€₯¦§¨©ͺ«¬\xad\ufffe―", "°±²³΄΅Ά·ΈΉΊ»Ό½ΎΏ",
   "ΐΑΒΓΔΕΖΗΘΙΚΛΜΝΞΟ", "ΠΡ\ufffeΣΤΥΦΧΨΩΪΫάέήί", "ΰαβγδεζηθικλμνξο", "πρςστυφχψωϊϋόύώ\ufffe"]

/-- ISO 8859-8: Hebrew. -/
def iso8859x8 : CodePage := .upper
  [firstControls, secondControls, "\xa0\ufffe¢£¤¥¦§¨©×«¬\xad®¯", "°±²³´µ¶·¸¹÷»¼½¾\ufffe", noRow,
   "\ufffe\ufffe\ufffe\ufffe\ufffe\ufffe\ufffe\ufffe\ufffe\ufffe\ufffe\ufffe\ufffe\ufffe\ufffe‗",
   "\u05d0\u05d1\u05d2\u05d3\u05d4\u05d5\u05d6\u05d7\u05d8\u05d9\u05da\u05db\u05dc\u05dd\u05de\u05df",
   "\u05e0\u05e1\u05e2\u05e3\u05e4\u05e5\u05e6\u05e7\u05e8\u05e9\u05ea\ufffe\ufffe\u200e\u200f\ufffe"]

/-- ISO 8859-9: Turkish. -/
def iso8859x9 : CodePage := .upper
  [firstControls, secondControls, "\xa0¡¢£¤¥¦§¨©ª«¬\xad®¯", "°±²³´µ¶·¸¹º»¼½¾¿",
   "ÀÁÂÃÄÅÆÇÈÉÊËÌÍÎÏ", "ĞÑÒÓÔÕÖ×ØÙÚÛÜİŞß", "àáâãäåæçèéêëìíîï", "ğñòóôõö÷øùúûüışÿ"]

/-- ISO 8859-10: Nordic languages. -/
def iso8859x10 : CodePage := .upper
  [firstControls, secondControls, "\xa0ĄĒĢĪĨĶ§ĻĐŠŦŽ\xadŪŊ", "°ąēģīĩķ·ļđšŧž―ūŋ",
   "ĀÁÂÃÄÅÆĮČÉĘËĖÍÎÏ", "ÐŅŌÓÔÕÖŨØŲÚÛÜÝÞß", "āáâãäåæįčéęëėíîï", "ðņōóôõöũøųúûüýþĸ"]

/-- ISO 8859-11: Thai. -/
def iso8859x11 : CodePage := .upper
  [firstControls, secondControls, "\xa0กขฃคฅฆงจฉชซฌญฎฏ", "ฐฑฒณดตถทธนบปผฝพฟ", "ภมยรฤลฦวศษสหฬอฮฯ",
   "ะ\u0e31าำ\u0e34\u0e35\u0e36\u0e37\u0e38\u0e39\u0e3a\ufffe\ufffe\ufffe\ufffe฿",
   "เแโใไๅๆ\u0e47\u0e48\u0e49\u0e4a\u0e4b\u0e4c\u0e4d\u0e4e๏",
   "๐๑๒๓๔๕๖๗๘๙๚๛\ufffe\ufffe\ufffe\ufffe"]

/-- ISO 8859-13: Baltic languages. -/
def iso8859x13 : CodePage := .upper
  [firstControls, secondControls, "\xa0”¢£¤„¦§Ø©Ŗ«¬\xad®Æ", "°±²³“µ¶·ø¹ŗ»¼½¾æ",
   "ĄĮĀĆÄÅĘĒČÉŹĖĢĶĪĻ", "ŠŃŅÓŌÕÖ×ŲŁŚŪÜŻŽß", "ąįāćäåęēčéźėģķīļ", "šńņóōõö÷ųłśūüżž’"]

/-- ISO 8859-14: Celtic languages. -/
def iso8859x14 : CodePage := .upper
  [firstControls, secondControls, "\xa0Ḃḃ£ĊċḊ§Ẁ©ẂḋỲ\xad®Ÿ", "ḞḟĠġṀṁ¶ṖẁṗẃṠỳẄẅṡ",
   "ÀÁÂÃÄÅÆÇÈÉÊËÌÍÎÏ", "ŴÑÒÓÔÕÖṪØÙÚÛÜÝŶß", "àáâãäåæçèéêëìíîï", "ŵñòóôõöṫøùúûüýŷÿ"]

/-- ISO 8859-15: Western Europe, with the euro sign. -/
def iso8859x15 : CodePage := .upper
  [firstControls, secondControls, "\xa0¡¢£€¥Š§š©ª«¬\xad®¯", "°±²³Žµ¶·ž¹º»ŒœŸ¿",
   "ÀÁÂÃÄÅÆÇÈÉÊËÌÍÎÏ", "ÐÑÒÓÔÕÖ×ØÙÚÛÜÝÞß", "àáâãäåæçèéêëìíîï", "ðñòóôõö÷øùúûüýþÿ"]

/-- ISO 8859-16: South-Eastern Europe. -/
def iso8859x16 : CodePage := .upper
  [firstControls, secondControls, "\xa0ĄąŁ€„Š§š©Ș«Ź\xadźŻ", "°±ČłŽ”¶·žčș»ŒœŸż",
   "ÀÁÂĂÄĆÆÇÈÉÊËÌÍÎÏ", "ĐŃÒÓÔŐÖŚŰÙÚÛÜĘȚß", "àáâăäćæçèéêëìíîï", "đńòóôőöśűùúûüęțÿ"]

end TagTemplate.CodePage
