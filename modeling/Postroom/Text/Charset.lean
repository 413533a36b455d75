import Postroom.Text.Charset.Big5
import Postroom.Text.Charset.Gb18030
import Postroom.Text.Charset.Japanese
import Postroom.Text.Charset.Korean
import Postroom.Text.Charset.SingleByte
import Postroom.Text.Charset.Utf7
import Postroom.Text.Utf8

/-!
Character sets of encoded words, by the labels of the encoding standard of the web and UTF-7
besides. Every set is decoded with replacement and without regard to a byte order mark. The
labels that the standard keeps for sets nobody should decode any more are unknown here.
-/

namespace Postroom.Text

inductive Charset where
  | utf8
  | utf16 (order : ByteOrder)
  | utf7
  /-- The characters of the bytes from 128 on. -/
  | singleByte (upper : List Span)
  | gb18030
  | big5
  | eucJp
  | shiftJis
  | iso2022Jp
  | eucKr

/-- Every known set with its labels, all in lower case. -/
def Charset.table : List (List String × Charset) := [
  (["unicode-1-1-utf-8", "unicode11utf8", "unicode20utf8", "utf-8", "utf8",
    "x-unicode20utf8"], .utf8),
  (["866", "cp866", "csibm866", "ibm866"], .singleByte SingleByte.ibm866),
  (["csisolatin2", "iso-8859-2", "iso-ir-101", "iso8859-2", "iso88592", "iso_8859-2",
    "iso_8859-2:1987", "l2", "latin2"], .singleByte SingleByte.iso8859Part2),
  (["csisolatin3", "iso-8859-3", "iso-ir-109", "iso8859-3", "iso88593", "iso_8859-3",
    "iso_8859-3:1988", "l3", "latin3"], .singleByte SingleByte.iso8859Part3),
  (["csisolatin4", "iso-8859-4", "iso-ir-110", "iso8859-4", "iso88594", "iso_8859-4",
    "iso_8859-4:1988", "l4", "latin4"], .singleByte SingleByte.iso8859Part4),
  (["csisolatincyrillic", "cyrillic", "iso-8859-5", "iso-ir-144", "iso8859-5", "iso88595",
    "iso_8859-5", "iso_8859-5:1988"], .singleByte SingleByte.iso8859Part5),
  (["arabic", "asmo-708", "csiso88596e", "csiso88596i", "csisolatinarabic", "ecma-114",
    "iso-8859-6", "iso-8859-6-e", "iso-8859-6-i", "iso-ir-127", "iso8859-6", "iso88596",
    "iso_8859-6", "iso_8859-6:1987"], .singleByte SingleByte.iso8859Part6),
  (["csisolatingreek", "ecma-118", "elot_928", "greek", "greek8", "iso-8859-7", "iso-ir-126",
    "iso8859-7", "iso88597", "iso_8859-7", "iso_8859-7:1987", "sun_eu_greek"],
    .singleByte SingleByte.iso8859Part7),
  (["csiso88598e", "csiso88598i", "csisolatinhebrew", "hebrew", "iso-8859-8", "iso-8859-8-e",
    "iso-8859-8-i", "iso-ir-138", "iso8859-8", "iso88598", "iso_8859-8", "iso_8859-8:1988",
    "logical", "visual"], .singleByte SingleByte.iso8859Part8),
  (["csisolatin6", "iso-8859-10", "iso-ir-157", "iso8859-10", "iso885910", "l6", "latin6"],
    .singleByte SingleByte.iso8859Part10),
  (["iso-8859-13", "iso8859-13", "iso885913"], .singleByte SingleByte.iso8859Part13),
  (["iso-8859-14", "iso8859-14", "iso885914"], .singleByte SingleByte.iso8859Part14),
  (["csisolatin9", "iso-8859-15", "iso8859-15", "iso885915", "iso_8859-15", "l9"],
    .singleByte SingleByte.iso8859Part15),
  (["iso-8859-16"], .singleByte SingleByte.iso8859Part16),
  (["cskoi8r", "koi", "koi8", "koi8-r", "koi8_r"], .singleByte SingleByte.koi8r),
  (["koi8-ru", "koi8-u"], .singleByte SingleByte.koi8u),
  (["csmacintosh", "mac", "macintosh", "x-mac-roman"], .singleByte SingleByte.macRoman),
  (["dos-874", "iso-8859-11", "iso8859-11", "iso885911", "tis-620", "windows-874"],
    .singleByte SingleByte.windows874),
  (["cp1250", "windows-1250", "x-cp1250"], .singleByte SingleByte.windows1250),
  (["cp1251", "windows-1251", "x-cp1251"], .singleByte SingleByte.windows1251),
  (["ansi_x3.4-1968", "ascii", "cp1252", "cp819", "csisolatin1", "ibm819", "iso-8859-1",
    "iso-ir-100", "iso8859-1", "iso88591", "iso_8859-1", "iso_8859-1:1987", "l1", "latin1",
    "us-ascii", "windows-1252", "x-cp1252"], .singleByte SingleByte.windows1252),
  (["cp1253", "windows-1253", "x-cp1253"], .singleByte SingleByte.windows1253),
  (["cp1254", "csisolatin5", "iso-8859-9", "iso-ir-148", "iso8859-9", "iso88599",
    "iso_8859-9", "iso_8859-9:1989", "l5", "latin5", "windows-1254", "x-cp1254"],
    .singleByte SingleByte.windows1254),
  (["cp1255", "windows-1255", "x-cp1255"], .singleByte SingleByte.windows1255),
  (["cp1256", "windows-1256", "x-cp1256"], .singleByte SingleByte.windows1256),
  (["cp1257", "windows-1257", "x-cp1257"], .singleByte SingleByte.windows1257),
  (["cp1258", "windows-1258", "x-cp1258"], .singleByte SingleByte.windows1258),
  (["x-mac-cyrillic", "x-mac-ukrainian"], .singleByte SingleByte.macCyrillic),
  (["chinese", "csgb2312", "csiso58gb231280", "gb18030", "gb2312", "gb_2312", "gb_2312-80",
    "gbk", "iso-ir-58", "x-gbk"], .gb18030),
  (["big5", "big5-hkscs", "cn-big5", "csbig5", "x-x-big5"], .big5),
  (["cseucpkdfmtjapanese", "euc-jp", "x-euc-jp"], .eucJp),
  (["csiso2022jp", "iso-2022-jp"], .iso2022Jp),
  (["csshiftjis", "ms932", "ms_kanji", "shift-jis", "shift_jis", "sjis", "windows-31j",
    "x-sjis"], .shiftJis),
  (["cseuckr", "csksc56011987", "euc-kr", "iso-ir-149", "korean", "ks_c_5601-1987",
    "ks_c_5601-1989", "ksc5601", "ksc_5601", "windows-949"], .eucKr),
  (["unicodefffe", "utf-16be"], .utf16 .bigEndian),
  (["csunicode", "iso-10646-ucs-2", "ucs-2", "unicode", "unicodefeff", "utf-16", "utf-16le"],
    .utf16 .littleEndian),
  (["x-user-defined"], .singleByte SingleByte.userDefined),
  (["utf-7"], .utf7)]

/-- The set with the given label, in any letter case and with ASCII blanks around it. -/
def Charset.ofLabel? (label : String) : Option Charset :=
  let isSpace := fun c : Char => c = ' ' || c = '\t' || c = '\n' || c = '\r' || c.toNat = 12
  let bare := ((label.toList.dropWhile isSpace).reverse.dropWhile isSpace).reverse
  let name := (String.ofList bare).toLower
  (Charset.table.find? fun (labels, _) => labels.contains name).map Prod.snd

def Charset.decode (set : Charset) (bytes : List UInt8) : List Char :=
  match set with
  | .utf8 => decodeLossy bytes
  | .utf16 order => decodeUtf16 order bytes
  | .utf7 => decodeUtf7 bytes
  | .singleByte upper => SingleByte.decode upper bytes
  | .gb18030 => decodeGb18030 bytes
  | .big5 => decodeBig5 bytes
  | .eucJp => decodeEucJp bytes
  | .shiftJis => decodeShiftJis bytes
  | .iso2022Jp => decodeIso2022Jp bytes
  | .eucKr => decodeEucKr bytes

end Postroom.Text
