import Postroom.Text.Charset.Span
import Postroom.Text.Decoding

/-!
The character sets with one byte a character. All agree with ASCII below 128 and differ in the
upper half, which is given here; a byte without a character is replaced.
-/

namespace Postroom.Text.SingleByte

def ibm866 : List Span := [
  .range 0x410 48, .chars "░▒▓│┤╡╢╖╕╣║╗╝╜╛┐└┴┬├─┼╞╟╚╔╩╦╠═╬╧╨╤╥╙╘╒╓╫╪┘┌█▄▌▐▀",
  .range 0x440 16, .chars "ЁёЄєЇїЎў°∙·√№¤■", .range 0xA0 1]

def iso8859Part2 : List Span := [
  .range 0x80 33, .chars "Ą˘Ł¤ĽŚ§¨ŠŞŤŹ", .range 0xAD 1,
  .chars "ŽŻ°ą˛ł´ľśˇ¸šşťź˝žżŔÁÂĂÄĹĆÇČÉĘËĚÍÎĎĐŃŇÓÔŐÖ×ŘŮÚŰÜÝŢßŕáâăäĺćçčé",
  .chars "ęëěíîďđńňóôőö÷řůúűüýţ˙"]

def iso8859Part3 : List Span := [
  .range 0x80 33, .chars "Ħ˘£¤", .gap 1, .chars "Ĥ§¨İŞĞĴ", .range 0xAD 1, .gap 1,
  .chars "Ż°ħ", .range 0xB2 4, .chars "ĥ·¸ışğĵ½", .gap 1, .chars "żÀÁÂ", .gap 1,
  .chars "ÄĊĈ", .range 0xC7 9, .gap 1, .range 0xD1 4, .chars "ĠÖ×Ĝ", .range 0xD9 4,
  .chars "ŬŜ", .range 0xDF 4, .gap 1, .chars "äċĉ", .range 0xE7 9, .gap 1, .range 0xF1 4,
  .chars "ġö÷ĝ", .range 0xF9 4, .chars "ŭŝ˙"]

def iso8859Part4 : List Span := [
  .range 0x80 33, .chars "ĄĸŖ¤ĨĻ§¨ŠĒĢŦ", .range 0xAD 1, .chars "Ž¯°ą˛ŗ´ĩļˇ¸šēģŧŊžŋĀ",
  .range 0xC1 6, .chars "ĮČÉĘËĖÍÎĪĐŅŌĶ", .range 0xD4 5, .chars "ŲÚÛÜŨŪßā", .range 0xE1 6,
  .chars "įčéęëėíîīđņōķ", .range 0xF4 5, .chars "ųúûüũū˙"]

def iso8859Part5 : List Span := [
  .range 0x80 33, .range 0x401 12, .range 0xAD 1, .range 0x40E 66, .chars "№",
  .range 0x451 12, .chars "§ўџ"]

def iso8859Part6 : List Span := [
  .range 0x80 33, .gap 3, .chars "¤", .gap 7, .chars "،", .range 0xAD 1, .gap 13,
  .chars "؛", .gap 3, .chars "؟", .gap 1, .range 0x621 26, .gap 5, .range 0x640 19]

def iso8859Part7 : List Span := [
  .range 0x80 33, .chars "‘’£€₯", .range 0xA6 4, .chars "ͺ«¬", .range 0xAD 1, .gap 1,
  .chars "―", .range 0xB0 4, .chars "΄΅Ά·ΈΉΊ»Ό½", .range 0x38E 20, .gap 1, .range 0x3A3 44]

def iso8859Part8 : List Span := [
  .range 0x80 33, .gap 1, .range 0xA2 8, .chars "×", .range 0xAB 15, .chars "÷",
  .range 0xBB 4, .gap 32, .chars "‗", .range 0x5D0 27, .gap 2, .range 0x200E 2]

def iso8859Part10 : List Span := [
  .range 0x80 33, .chars "ĄĒĢĪĨĶ§ĻĐŠŦŽ", .range 0xAD 1, .chars "ŪŊ°ąēģīĩķ·ļđšŧž―ūŋĀ",
  .range 0xC1 6, .chars "ĮČÉĘËĖ", .range 0xCD 4, .chars "ŅŌ", .range 0xD3 4, .chars "ŨØŲ",
  .range 0xDA 6, .chars "ā", .range 0xE1 6, .chars "įčéęëė", .range 0xED 4, .chars "ņō",
  .range 0xF3 4, .chars "ũøų", .range 0xFA 5, .chars "ĸ"]

def iso8859Part13 : List Span := [
  .range 0x80 33, .chars "”¢£¤„¦§Ø©Ŗ", .range 0xAB 4, .chars "Æ", .range 0xB0 4,
  .chars "“µ¶·ø¹ŗ", .range 0xBB 4,
  .chars "æĄĮĀĆÄÅĘĒČÉŹĖĢĶĪĻŠŃŅÓŌÕÖ×ŲŁŚŪÜŻŽßąįāćäåęēčéźėģķīļšńņóōõö÷ųłś", .chars "ūüżž’"]

def iso8859Part14 : List Span := [
  .range 0x80 33, .chars "Ḃḃ£ĊċḊ§Ẁ©ẂḋỲ", .range 0xAD 1, .chars "®ŸḞḟĠġṀṁ¶ṖẁṗẃṠỳẄẅṡ",
  .range 0xC0 16, .chars "Ŵ", .range 0xD1 6, .chars "Ṫ", .range 0xD8 6, .chars "Ŷ",
  .range 0xDF 17, .chars "ŵ", .range 0xF1 6, .chars "ṫ", .range 0xF8 6, .chars "ŷÿ"]

def iso8859Part15 : List Span := [
  .range 0x80 36, .chars "€¥Š§š", .range 0xA9 11, .chars "Žµ¶·ž¹º»ŒœŸ", .range 0xBF 65]

def iso8859Part16 : List Span := [
  .range 0x80 33, .chars "ĄąŁ€„Š§š©Ș«Ź", .range 0xAD 1, .chars "źŻ°±ČłŽ”¶·žčș»ŒœŸżÀÁÂĂÄĆ",
  .range 0xC6 10, .chars "ĐŃÒÓÔŐÖŚŰ", .range 0xD9 4, .chars "ĘȚ", .range 0xDF 4,
  .chars "ăäć", .range 0xE6 10, .chars "đńòóôőöśű", .range 0xF9 4, .chars "ęțÿ"]

def koi8r : List Span := [
  .chars "─│┌┐└┘├┤┬┴┼▀▄█▌", .range 0x2590 4, .chars "⌠■∙√≈≤≥", .range 0xA0 1,
  .chars "⌡°²·÷═║╒ё", .range 0x2553 15, .chars "Ё", .range 0x2562 11, .chars "©юабцдефгх",
  .range 0x438 8, .chars "я", .range 0x440 4, .chars "жвьызшэщчъЮАБЦДЕФГХ", .range 0x418 8,
  .chars "Я", .range 0x420 4, .chars "ЖВЬЫЗШЭЩЧЪ"]

def koi8u : List Span := [
  .chars "─│┌┐└┘├┤┬┴┼▀▄█▌", .range 0x2590 4, .chars "⌠■∙√≈≤≥", .range 0xA0 1,
  .chars "⌡°²·÷═║╒ёє╔ії", .range 0x2557 5, .chars "ґў", .range 0x255E 4, .chars "ЁЄ╣ІЇ",
  .range 0x2566 5, .chars "ҐЎ©юабцдефгх", .range 0x438 8, .chars "я", .range 0x440 4,
  .chars "жвьызшэщчъЮАБЦДЕФГХ", .range 0x418 8, .chars "Я", .range 0x420 4,
  .chars "ЖВЬЫЗШЭЩЧЪ"]

def macRoman : List Span := [
  .chars "ÄÅÇÉÑÖÜáàâäãåçéèêëíìîïñóòôöõúùûü†°¢£§•¶ß®©™´¨≠ÆØ∞±≤≥¥µ∂∑∏π∫ª",
  .chars "ºΩæø¿¡¬√ƒ≈∆«»…", .range 0xA0 1, .chars "ÀÃÕŒœ–—“”‘’÷◊ÿŸ⁄€‹›ﬁﬂ‡·‚„‰ÂÊÁËÈÍÎÏÌÓÔ",
  .range 0xF8FF 1, .chars "ÒÚÛÙıˆ˜¯˘˙˚¸˝˛ˇ"]

def windows874 : List Span := [
  .chars "€", .range 0x81 4, .chars "…", .range 0x86 11, .chars "‘’“”•–—", .range 0x98 9,
  .range 0xE01 58, .gap 4, .range 0xE3F 29]

def windows1250 : List Span := [
  .chars "€", .range 0x81 1, .chars "‚", .range 0x83 1, .chars "„…†‡", .range 0x88 1,
  .chars "‰Š‹ŚŤŽŹ", .range 0x90 1, .chars "‘’“”•–—", .range 0x98 1, .chars "™š›śťžź",
  .range 0xA0 1, .chars "ˇ˘Ł¤Ą", .range 0xA6 4, .chars "Ş", .range 0xAB 4, .chars "Ż°±˛ł",
  .range 0xB4 5, .chars "ąş»Ľ˝ľżŔÁÂĂÄĹĆÇČÉĘËĚÍÎĎĐŃŇÓÔŐÖ×ŘŮÚŰÜÝŢßŕáâăäĺćçčéęëěíîďđńňóô",
  .chars "őö÷řůúűüýţ˙"]

def windows1251 : List Span := [
  .chars "ЂЃ‚ѓ„…†‡€‰Љ‹ЊЌЋЏђ‘’“”•–—", .range 0x98 1, .chars "™љ›њќћџ", .range 0xA0 1,
  .chars "ЎўЈ¤Ґ¦§Ё©Є", .range 0xAB 4, .chars "Ї°±Ііґµ¶·ё№є»јЅѕї", .range 0x410 64]

def windows1252 : List Span := [
  .chars "€", .range 0x81 1, .chars "‚ƒ„…†‡ˆ‰Š‹Œ", .range 0x8D 1, .chars "Ž",
  .range 0x8F 2, .chars "‘’“”•–—˜™š›œ", .range 0x9D 1, .chars "žŸ", .range 0xA0 96]

def windows1253 : List Span := [
  .chars "€", .range 0x81 1, .chars "‚ƒ„…†‡", .range 0x88 1, .chars "‰", .range 0x8A 1,
  .chars "‹", .range 0x8C 5, .chars "‘’“”•–—", .range 0x98 1, .chars "™", .range 0x9A 1,
  .chars "›", .range 0x9C 5, .chars "΅Ά", .range 0xA3 7, .gap 1, .range 0xAB 4, .chars "―",
  .range 0xB0 4, .chars "΄µ¶·ΈΉΊ»Ό½", .range 0x38E 20, .gap 1, .range 0x3A3 44]

def windows1254 : List Span := [
  .chars "€", .range 0x81 1, .chars "‚ƒ„…†‡ˆ‰Š‹Œ", .range 0x8D 4, .chars "‘’“”•–—˜™š›œ",
  .range 0x9D 2, .chars "Ÿ", .range 0xA0 48, .chars "Ğ", .range 0xD1 12, .chars "İŞ",
  .range 0xDF 17, .chars "ğ", .range 0xF1 12, .chars "ışÿ"]

def windows1255 : List Span := [
  .chars "€", .range 0x81 1, .chars "‚ƒ„…†‡ˆ‰", .range 0x8A 1, .chars "‹", .range 0x8C 5,
  .chars "‘’“”•–—˜™", .range 0x9A 1, .chars "›", .range 0x9C 8, .chars "₪", .range 0xA5 5,
  .chars "×", .range 0xAB 15, .chars "÷", .range 0xBB 5, .range 0x5B0 20, .range 0x5F0 5,
  .gap 7, .range 0x5D0 27, .gap 2, .range 0x200E 2]

def windows1256 : List Span := [
  .chars "€پ‚ƒ„…†‡ˆ‰ٹ‹Œچژڈگ‘’“”•–—ک™ڑ›œ", .range 0x200C 2, .chars "ں", .range 0xA0 1,
  .chars "،", .range 0xA2 8, .chars "ھ", .range 0xAB 15, .chars "؛", .range 0xBB 4,
  .chars "؟ہ", .range 0x621 22, .chars "×", .range 0x637 4, .range 0x640 4, .chars "àلâ",
  .range 0x645 4, .range 0xE7 5, .chars "ىيîï", .range 0x64B 4, .chars "ô", .range 0x64F 2,
  .chars "÷", .range 0x651 1, .chars "ù", .range 0x652 1, .chars "ûü", .range 0x200E 2,
  .chars "ے"]

def windows1257 : List Span := [
  .chars "€", .range 0x81 1, .chars "‚", .range 0x83 1, .chars "„…†‡", .range 0x88 1,
  .chars "‰", .range 0x8A 1, .chars "‹", .range 0x8C 1, .chars "¨ˇ¸", .range 0x90 1,
  .chars "‘’“”•–—", .range 0x98 1, .chars "™", .range 0x9A 1, .chars "›", .range 0x9C 1,
  .chars "¯˛", .range 0x9F 2, .gap 1, .chars "¢£¤", .gap 1, .chars "¦§Ø©Ŗ", .range 0xAB 4,
  .chars "Æ", .range 0xB0 8, .chars "ø¹ŗ", .range 0xBB 4,
  .chars "æĄĮĀĆÄÅĘĒČÉŹĖĢĶĪĻŠŃŅÓŌÕÖ×ŲŁŚŪÜŻŽßąįāćäåęēčéźėģķīļšńņóōõö÷ųłś", .chars "ūüżž˙"]

def windows1258 : List Span := [
  .chars "€", .range 0x81 1, .chars "‚ƒ„…†‡ˆ‰", .range 0x8A 1, .chars "‹Œ", .range 0x8D 4,
  .chars "‘’“”•–—˜™", .range 0x9A 1, .chars "›œ", .range 0x9D 2, .chars "Ÿ",
  .range 0xA0 35, .chars "Ă", .range 0xC4 8, .range 0x300 1, .chars "ÍÎÏĐÑ",
  .range 0x309 1, .chars "ÓÔƠ", .range 0xD6 7, .chars "Ư", .range 0x303 1, .range 0xDF 4,
  .chars "ă", .range 0xE4 8, .range 0x301 1, .chars "íîïđñ", .range 0x323 1, .chars "óôơ",
  .range 0xF6 7, .chars "ư₫ÿ"]

def macCyrillic : List Span := [
  .range 0x410 32, .chars "†°Ґ£§•¶І®©™Ђђ≠Ѓѓ∞±≤≥іµґЈЄєЇїЉљЊњјЅ¬√ƒ≈∆«»…", .range 0xA0 1,
  .chars "ЋћЌќѕ–—“”‘’÷„ЎўЏџ№Ёёя", .range 0x430 31, .chars "€"]

/-- The part of the private use area that stands for bytes of the user's own. -/
def userDefined : List Span := [.range 0xF780 128]

/-- Decode by the upper half of a set. -/
def decode (upper : List Span) (bytes : List UInt8) : List Char :=
  let table := CodeTable.ofSpans upper
  bytes.map fun b =>
    if b < 0x80 then Char.ofNat b.toNat
    else (table.at? (b.toNat - 0x80)).getD replacement

end Postroom.Text.SingleByte
