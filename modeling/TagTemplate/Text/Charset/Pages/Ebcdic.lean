/-
# EBCDIC — the code pages of mainframes, in which letters and digits are not where ASCII has them
-/
import TagTemplate.Text.Charset.Page

namespace TagTemplate.CodePage

/-- Code page 037: EBCDIC for the United States and Canada. -/
def cp037 : CodePage := .mk
  ["\x00\x01\x02\x03\x9c\x09\x86\x7f\x97\x8d\x8e\x0b\x0c\x0d\x0e\x0f",
   "\x10\x11\x12\x13\x9d\x85\x08\x87\x18\x19\x92\x8f\x1c\x1d\x1e\x1f",
   "\x80\x81\x82\x83\x84\x0a\x17\x1b\x88\x89\x8a\x8b\x8c\x05\x06\x07",
   "\x90\x91\x16\x93\x94\x95\x96\x04\x98\x99\x9a\x9b\x14\x15\x9e\x1a", "\x20\xa0âäàáãåçñ¢.<(+|",
   "&éêëèíîïìß!$*);¬", "-/ÂÄÀÁÃÅÇÑ¦,%_>?", "øÉÊËÈÍÎÏÌ\x60:#@\x27=\x22", "Øabcdefghi«»ðýþ±",
   "°jklmnopqrªºæ¸Æ¤", "µ~stuvwxyz¡¿ÐÝÞ®", "^£¥·©§¶¼½¾[]¯¨´×", "\x7bABCDEFGHI\xadôöòóõ",
   "\x7dJKLMNOPQR¹ûüùúÿ", "\x5c÷STUVWXYZ²ÔÖÒÓÕ", "0123456789³ÛÜÙÚ\x9f"]

/-- Code page 273: EBCDIC for Austria and Germany. -/
def cp273 : CodePage := .mk
  ["\x00\x01\x02\x03\x9c\x09\x86\x7f\x97\x8d\x8e\x0b\x0c\x0d\x0e\x0f",
   "\x10\x11\x12\x13\x9d\x85\x08\x87\x18\x19\x92\x8f\x1c\x1d\x1e\x1f",
   "\x80\x81\x82\x83\x84\x0a\x17\x1b\x88\x89\x8a\x8b\x8c\x05\x06\x07",
   "\x90\x91\x16\x93\x94\x95\x96\x04\x98\x99\x9a\x9b\x14\x15\x9e\x1a",
   "\x20\xa0â\x7bàáãåçñÄ.<(+!", "&éêëèíîïì~Ü$*);^", "-/Â[ÀÁÃÅÇÑö,%_>?",
   "øÉÊËÈÍÎÏÌ\x60:#§\x27=\x22", "Øabcdefghi«»ðýþ±", "°jklmnopqrªºæ¸Æ¤", "µßstuvwxyz¡¿ÐÝÞ®",
   "¢£¥·©@¶¼½¾¬|‾¨´×", "äABCDEFGHI\xadô¦òóõ", "üJKLMNOPQR¹û\x7dùúÿ", "Ö÷STUVWXYZ²Ô\x5cÒÓÕ",
   "0123456789³Û]ÙÚ\x9f"]

/-- Code page 424: EBCDIC for Hebrew. -/
def cp424 : CodePage := .mk
  ["\x00\x01\x02\x03\x9c\x09\x86\x7f\x97\x8d\x8e\x0b\x0c\x0d\x0e\x0f",
   "\x10\x11\x12\x13\x9d\x85\x08\x87\x18\x19\x92\x8f\x1c\x1d\x1e\x1f",
   "\x80\x81\x82\x83\x84\x0a\x17\x1b\x88\x89\x8a\x8b\x8c\x05\x06\x07",
   "\x90\x91\x16\x93\x94\x95\x96\x04\x98\x99\x9a\x9b\x14\x15\x9e\x1a",
   "\x20\u05d0\u05d1\u05d2\u05d3\u05d4\u05d5\u05d6\u05d7\u05d8¢.<(+|",
   "&\u05d9\u05da\u05db\u05dc\u05dd\u05de\u05df\u05e0\u05e1!$*);¬",
   "-/\u05e2\u05e3\u05e4\u05e5\u05e6\u05e7\u05e8\u05e9¦,%_>?",
   "\ufffe\u05ea\ufffe\ufffe\xa0\ufffe\ufffe\ufffe‗\x60:#@\x27=\x22",
   "\ufffeabcdefghi«»\ufffe\ufffe\ufffe±", "°jklmnopqr\ufffe\ufffe\ufffe¸\ufffe¤",
   "µ~stuvwxyz\ufffe\ufffe\ufffe\ufffe\ufffe®", "^£¥·©§¶¼½¾[]¯¨´×",
   "\x7bABCDEFGHI\xad\ufffe\ufffe\ufffe\ufffe\ufffe",
   "\x7dJKLMNOPQR¹\ufffe\ufffe\ufffe\ufffe\ufffe", "\x5c÷STUVWXYZ²\ufffe\ufffe\ufffe\ufffe\ufffe",
   "0123456789³\ufffe\ufffe\ufffe\ufffe\x9f"]

/-- Code page 500: EBCDIC for many countries. -/
def cp500 : CodePage := .mk
  ["\x00\x01\x02\x03\x9c\x09\x86\x7f\x97\x8d\x8e\x0b\x0c\x0d\x0e\x0f",
   "\x10\x11\x12\x13\x9d\x85\x08\x87\x18\x19\x92\x8f\x1c\x1d\x1e\x1f",
   "\x80\x81\x82\x83\x84\x0a\x17\x1b\x88\x89\x8a\x8b\x8c\x05\x06\x07",
   "\x90\x91\x16\x93\x94\x95\x96\x04\x98\x99\x9a\x9b\x14\x15\x9e\x1a", "\x20\xa0âäàáãåçñ[.<(+!",
   "&éêëèíîïìß]$*);^", "-/ÂÄÀÁÃÅÇÑ¦,%_>?", "øÉÊËÈÍÎÏÌ\x60:#@\x27=\x22", "Øabcdefghi«»ðýþ±",
   "°jklmnopqrªºæ¸Æ¤", "µ~stuvwxyz¡¿ÐÝÞ®", "¢£¥·©§¶¼½¾¬|¯¨´×", "\x7bABCDEFGHI\xadôöòóõ",
   "\x7dJKLMNOPQR¹ûüùúÿ", "\x5c÷STUVWXYZ²ÔÖÒÓÕ", "0123456789³ÛÜÙÚ\x9f"]

/-- Code page 875: EBCDIC for Greek. -/
def cp875 : CodePage := .mk
  ["\x00\x01\x02\x03\x9c\x09\x86\x7f\x97\x8d\x8e\x0b\x0c\x0d\x0e\x0f",
   "\x10\x11\x12\x13\x9d\x85\x08\x87\x18\x19\x92\x8f\x1c\x1d\x1e\x1f",
   "\x80\x81\x82\x83\x84\x0a\x17\x1b\x88\x89\x8a\x8b\x8c\x05\x06\x07",
   "\x90\x91\x16\x93\x94\x95\x96\x04\x98\x99\x9a\x9b\x14\x15\x9e\x1a", "\x20ΑΒΓΔΕΖΗΘΙ[.<(+!",
   "&ΚΛΜΝΞΟΠΡΣ]$*);^", "-/ΤΥΦΧΨΩΪΫ|,%_>?", "¨ΆΈΉ\xa0ΊΌΎΏ\x60:#@\x27=\x22", "΅abcdefghiαβγδεζ",
   "°jklmnopqrηθικλμ", "´~stuvwxyzνξοπρσ", "£άέήϊίόύϋώςτυφχψ", "\x7bABCDEFGHI\xadωΐΰ‘―",
   "\x7dJKLMNOPQR±½\x1a·’¦", "\x5c\x1aSTUVWXYZ²§\x1a\x1a«¬", "0123456789³©\x1a\x1a»\x9f"]

/-- Code page 1026: EBCDIC for Turkish. -/
def cp1026 : CodePage := .mk
  ["\x00\x01\x02\x03\x9c\x09\x86\x7f\x97\x8d\x8e\x0b\x0c\x0d\x0e\x0f",
   "\x10\x11\x12\x13\x9d\x85\x08\x87\x18\x19\x92\x8f\x1c\x1d\x1e\x1f",
   "\x80\x81\x82\x83\x84\x0a\x17\x1b\x88\x89\x8a\x8b\x8c\x05\x06\x07",
   "\x90\x91\x16\x93\x94\x95\x96\x04\x98\x99\x9a\x9b\x14\x15\x9e\x1a",
   "\x20\xa0âäàáãå\x7bñÇ.<(+!", "&éêëèíîïìßĞİ*);^", "-/ÂÄÀÁÃÅ[Ñş,%_>?", "øÉÊËÈÍÎÏÌı:ÖŞ\x27=Ü",
   "Øabcdefghi«»\x7d\x60¦±", "°jklmnopqrªºæ¸Æ¤", "µöstuvwxyz¡¿]$@®", "¢£¥·©§¶¼½¾¬|¯¨´×",
   "çABCDEFGHI\xadô~òóõ", "ğJKLMNOPQR¹û\x5cùúÿ", "ü÷STUVWXYZ²Ô#ÒÓÕ", "0123456789³Û\x22ÙÚ\x9f"]

/-- Code page 1140: EBCDIC for the United States and Canada, with the euro sign. -/
def cp1140 : CodePage := .mk
  ["\x00\x01\x02\x03\x9c\x09\x86\x7f\x97\x8d\x8e\x0b\x0c\x0d\x0e\x0f",
   "\x10\x11\x12\x13\x9d\x85\x08\x87\x18\x19\x92\x8f\x1c\x1d\x1e\x1f",
   "\x80\x81\x82\x83\x84\x0a\x17\x1b\x88\x89\x8a\x8b\x8c\x05\x06\x07",
   "\x90\x91\x16\x93\x94\x95\x96\x04\x98\x99\x9a\x9b\x14\x15\x9e\x1a", "\x20\xa0âäàáãåçñ¢.<(+|",
   "&éêëèíîïìß!$*);¬", "-/ÂÄÀÁÃÅÇÑ¦,%_>?", "øÉÊËÈÍÎÏÌ\x60:#@\x27=\x22", "Øabcdefghi«»ðýþ±",
   "°jklmnopqrªºæ¸Æ€", "µ~stuvwxyz¡¿ÐÝÞ®", "^£¥·©§¶¼½¾[]¯¨´×", "\x7bABCDEFGHI\xadôöòóõ",
   "\x7dJKLMNOPQR¹ûüùúÿ", "\x5c÷STUVWXYZ²ÔÖÒÓÕ", "0123456789³ÛÜÙÚ\x9f"]

end TagTemplate.CodePage
