import Switchboard.Text.Charset.Index

/-!
# Sets of one octet

The sets in which each octet is a character. The lower half is ASCII in all of them, so a set is its
upper half.
-/

namespace Switchboard.Charset

/-- A set of one octet; a set of ISO 8859 is known by its part. -/
inductive SingleOctet where
  | ibm866 | iso2 | iso3 | iso4 | iso5 | iso6 | iso7 | iso8 | iso10 | iso13 | iso14
  | iso15 | iso16 | koi8R | koi8U | macintosh | windows874 | windows1250 | windows1251
  | windows1252 | windows1253 | windows1254 | windows1255 | windows1256 | windows1257
  | windows1258 | macCyrillic
deriving DecidableEq, Repr

namespace SingleOctet

def upper : SingleOctet → List Segment
  | ibm866 => [
      .run 0x410 48, .text "░▒▓│┤╡╢╖╕╣║╗╝╜╛┐└┴┬├─┼╞╟╚╔╩╦╠═╬╧╨╤╥╙╘╒╓╫╪┘┌█▄▌▐▀", .run 0x440 16,
      .text "ЁёЄєЇїЎў°∙·√№¤■\u00A0" ]
  | iso2 => [
      .run 0x80 33,
      .text "Ą˘Ł¤ĽŚ§¨ŠŞŤŹ\u00ADŽŻ°ą˛ł´ľśˇ¸šşťź˝žżŔÁÂĂÄĹĆÇČÉĘËĚÍÎĎĐŃŇÓÔŐÖ×ŘŮÚŰÜÝŢßŕáâăäĺćç",
      .text "čéęëěíîďđńňóôőö÷řůúűüýţ˙" ]
  | iso3 => [
      .run 0x80 33, .text "Ħ˘£¤", .gap 1, .text "Ĥ§¨İŞĞĴ\u00AD", .gap 1, .text "Ż°ħ²³´µĥ·¸ışğĵ½",
      .gap 1, .text "żÀÁÂ", .gap 1, .text "ÄĊĈ", .run 0xC7 9, .gap 1, .text "ÑÒÓÔĠÖ×ĜÙÚÛÜŬŜßàáâ",
      .gap 1, .text "äċĉ", .run 0xE7 9, .gap 1, .text "ñòóôġö÷ĝùúûüŭŝ˙" ]
  | iso4 => [
      .run 0x80 33,
      .text "ĄĸŖ¤ĨĻ§¨ŠĒĢŦ\u00ADŽ¯°ą˛ŗ´ĩļˇ¸šēģŧŊžŋĀÁÂÃÄÅÆĮČÉĘËĖÍÎĪĐŅŌĶÔÕÖ×ØŲÚÛÜŨŪßāáâãäåæį",
      .text "čéęëėíîīđņōķôõö÷øųúûüũū˙" ]
  | iso5 => [
      .run 0x80 33, .run 0x401 12, .text "\u00AD", .run 0x40E 66, .text "№", .run 0x451 12,
      .text "§ўџ" ]
  | iso6 => [
      .run 0x80 33, .gap 3, .text "¤", .gap 7, .text "،\u00AD", .gap 13, .text "\u061B", .gap 3,
      .text "\u061F", .gap 1, .run 0x621 26, .gap 5, .run 0x640 19 ]
  | iso7 => [
      .run 0x80 33, .text "‘’£€₯¦§¨©ͺ«¬\u00AD", .gap 1, .text "―°±²³΄΅Ά·ΈΉΊ»Ό½", .run 0x38E 20,
      .gap 1, .run 0x3A3 44 ]
  | iso8 => [
      .run 0x80 33, .gap 1, .run 0xA2 8, .text "×", .run 0xAB 15, .text "÷»¼½¾", .gap 32, .text "‗",
      .run 0x5D0 27, .gap 2, .text "\u200E\u200F" ]
  | iso10 => [
      .run 0x80 33,
      .text "ĄĒĢĪĨĶ§ĻĐŠŦŽ\u00ADŪŊ°ąēģīĩķ·ļđšŧž―ūŋĀÁÂÃÄÅÆĮČÉĘËĖÍÎÏÐŅŌÓÔÕÖŨØŲÚÛÜÝÞßāáâãäåæį",
      .text "čéęëėíîïðņōóôõöũøųúûüýþĸ" ]
  | iso13 => [
      .run 0x80 33,
      .text "”¢£¤„¦§Ø©Ŗ«¬\u00AD®Æ°±²³“µ¶·ø¹ŗ»¼½¾æĄĮĀĆÄÅĘĒČÉŹĖĢĶĪĻŠŃŅÓŌÕÖ×ŲŁŚŪÜŻŽßąįāćäåęē",
      .text "čéźėģķīļšńņóōõö÷ųłśūüżž’" ]
  | iso14 => [
      .run 0x80 33, .text "Ḃḃ£ĊċḊ§Ẁ©ẂḋỲ\u00AD®ŸḞḟĠġṀṁ¶ṖẁṗẃṠỳẄẅṡ", .run 0xC0 16,
      .text "ŴÑÒÓÔÕÖṪØÙÚÛÜÝŶ", .run 0xDF 17, .text "ŵñòóôõöṫøùúûüýŷÿ" ]
  | iso15 => [
      .run 0x80 36, .text "€¥Š§š", .run 0xA9 11, .text "Žµ¶·ž¹º»ŒœŸ", .run 0xBF 65 ]
  | iso16 => [
      .run 0x80 33, .text "ĄąŁ€„Š§š©Ș«Ź\u00ADźŻ°±ČłŽ”¶·žčș»ŒœŸżÀÁÂĂÄĆ", .run 0xC6 10,
      .text "ĐŃÒÓÔŐÖŚŰÙÚÛÜĘȚßàáâăäć", .run 0xE6 10, .text "đńòóôőöśűùúûüęțÿ" ]
  | koi8R => [
      .text "─│┌┐└┘├┤┬┴┼▀▄█▌▐░▒▓⌠■∙√≈≤≥\u00A0⌡°²·÷═║╒ё", .run 0x2553 15, .text "Ё", .run 0x2562 11,
      .text "©юабцдефгх", .run 0x438 8, .text "ярстужвьызшэщчъЮАБЦДЕФГХ", .run 0x418 8,
      .text "ЯРСТУЖВЬЫЗШЭЩЧЪ" ]
  | koi8U => [
      .text "─│┌┐└┘├┤┬┴┼▀▄█▌▐░▒▓⌠■∙√≈≤≥\u00A0⌡°²·÷═║╒ёє╔ії╗╘╙╚╛ґў╞╟╠╡ЁЄ╣ІЇ╦╧╨╩╪ҐЎ©юабцдеф",
      .text "гх", .run 0x438 8, .text "ярстужвьызшэщчъЮАБЦДЕФГХ", .run 0x418 8,
      .text "ЯРСТУЖВЬЫЗШЭЩЧЪ" ]
  | macintosh => [
      .text "ÄÅÇÉÑÖÜáàâäãåçéèêëíìîïñóòôöõúùûü†°¢£§•¶ß®©™´¨≠ÆØ∞±≤≥¥µ∂∑∏π∫ªºΩæø¿¡¬√ƒ≈∆«»…",
      .text "\u00A0ÀÃÕŒœ–—“”‘’÷◊ÿŸ⁄€‹›ﬁﬂ‡·‚„‰ÂÊÁËÈÍÎÏÌÓÔ\uF8FFÒÚÛÙıˆ˜¯˘˙˚¸˝˛ˇ" ]
  | windows874 => [
      .text "€\u0081\u0082\u0083\u0084…", .run 0x86 11, .text "‘’“”•–—", .run 0x98 9, .run 0xE01 58,
      .gap 4, .run 0xE3F 29 ]
  | windows1250 => [
      .text "€\u0081‚\u0083„…†‡\u0088‰Š‹ŚŤŽŹ\u0090‘’“”•–—\u0098™š›śťžź\u00A0ˇ˘Ł¤Ą¦§¨©Ş«¬",
      .text "\u00AD®Ż°±˛ł´µ¶·¸ąş»Ľ˝ľżŔÁÂĂÄĹĆÇČÉĘËĚÍÎĎĐŃŇÓÔŐÖ×ŘŮÚŰÜÝŢßŕáâăäĺćçčéęëěíîďđńňó",
      .text "ôőö÷řůúűüýţ˙" ]
  | windows1251 => [
      .text "ЂЃ‚ѓ„…†‡€‰Љ‹ЊЌЋЏђ‘’“”•–—\u0098™љ›њќћџ\u00A0ЎўЈ¤Ґ¦§Ё©Є«¬\u00AD®Ї°±Ііґµ¶·ё№є»ј",
      .text "Ѕѕї", .run 0x410 64 ]
  | windows1252 => [
      .text "€\u0081‚ƒ„…†‡ˆ‰Š‹Œ\u008DŽ\u008F\u0090‘’“”•–—˜™š›œ\u009DžŸ", .run 0xA0 96 ]
  | windows1253 => [
      .text "€\u0081‚ƒ„…†‡\u0088‰\u008A‹\u008C\u008D\u008E\u008F\u0090‘’“”•–—\u0098™",
      .text "\u009A›\u009C\u009D\u009E\u009F\u00A0΅Ά£¤¥¦§¨©", .gap 1,
      .text "«¬\u00AD®―°±²³΄µ¶·ΈΉΊ»Ό½", .run 0x38E 20, .gap 1, .run 0x3A3 44 ]
  | windows1254 => [
      .text "€\u0081‚ƒ„…†‡ˆ‰Š‹Œ\u008D\u008E\u008F\u0090‘’“”•–—˜™š›œ\u009D\u009EŸ", .run 0xA0 48,
      .text "Ğ", .run 0xD1 12, .text "İŞ", .run 0xDF 17, .text "ğ", .run 0xF1 12, .text "ışÿ" ]
  | windows1255 => [
      .text "€\u0081‚ƒ„…†‡ˆ‰\u008A‹\u008C\u008D\u008E\u008F\u0090‘’“”•–—˜™\u009A›", .run 0x9C 8,
      .text "₪¥¦§¨©×", .run 0xAB 15, .text "÷»¼½¾¿", .run 0x5B0 20,
      .text "\u05F0\u05F1\u05F2\u05F3\u05F4", .gap 7, .run 0x5D0 27, .gap 2, .text "\u200E\u200F" ]
  | windows1256 => [
      .text "€\u067E‚ƒ„…†‡ˆ‰\u0679‹Œ\u0686\u0698\u0688\u06AF‘’“”•–—\u06A9™\u0691›œ\u200C",
      .text "\u200D\u06BA\u00A0،", .run 0xA2 8, .text "\u06BE", .run 0xAB 15,
      .text "\u061B»¼½¾\u061F\u06C1", .run 0x621 22,
      .text "×\u0637\u0638\u0639\u063A\u0640\u0641\u0642\u0643à\u0644â\u0645\u0646\u0647",
      .text "\u0648çèéêë\u0649\u064Aîï\u064B\u064C\u064D\u064Eô\u064F\u0650÷\u0651ù\u0652",
      .text "ûü\u200E\u200F\u06D2" ]
  | windows1257 => [
      .text "€\u0081‚\u0083„…†‡\u0088‰\u008A‹\u008C¨ˇ¸\u0090‘’“”•–—\u0098™\u009A›\u009C¯˛",
      .text "\u009F\u00A0", .gap 1, .text "¢£¤", .gap 1, .text "¦§Ø©Ŗ«¬\u00AD®Æ", .run 0xB0 8,
      .text "ø¹ŗ»¼½¾æĄĮĀĆÄÅĘĒČÉŹĖĢĶĪĻŠŃŅÓŌÕÖ×ŲŁŚŪÜŻŽßąįāćäåęēčéźėģķīļšńņóōõö÷ųłśūüżž˙" ]
  | windows1258 => [
      .text "€\u0081‚ƒ„…†‡ˆ‰\u008A‹Œ\u008D\u008E\u008F\u0090‘’“”•–—˜™\u009A›œ\u009D\u009E",
      .text "Ÿ", .run 0xA0 35, .text "Ă", .run 0xC4 8,
      .text "\u0300ÍÎÏĐÑ\u0309ÓÔƠÖ×ØÙÚÛÜƯ\u0303ßàáâă", .run 0xE4 8,
      .text "\u0301íîïđñ\u0323óôơö÷øùúûüư₫ÿ" ]
  | macCyrillic => [
      .run 0x410 32, .text "†°Ґ£§•¶І®©™Ђђ≠Ѓѓ∞±≤≥іµґЈЄєЇїЉљЊњјЅ¬√ƒ≈∆«»…\u00A0ЋћЌќѕ–—“”‘’÷„ЎўЏџ№Ёёя",
      .run 0x430 31, .text "€" ]

end SingleOctet

end Switchboard.Charset
