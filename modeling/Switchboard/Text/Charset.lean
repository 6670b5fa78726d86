import Switchboard.Text.Pieces
import Switchboard.Text.Charset.Iso2022Jp
import Switchboard.Text.Charset.MultiOctet
import Switchboard.Text.Charset.SingleOctet

/-!
# Character sets

Octets as text in the sets that forms name. Nothing is refused: what is ill-formed becomes a
replacement character. A byte order mark outweighs the name of a set and is no part of the text.
-/

namespace Switchboard

inductive Charset where
  | utf8
  | utf16 (bigEndian : Bool)
  | single (set : Charset.SingleOctet)
  | gb18030 | big5 | eucJp | iso2022Jp | shiftJis | eucKr
  /-- The octets beyond ASCII are for private use. -/
  | userDefined
  /-- A set that is known and not read. -/
  | unread
deriving DecidableEq, Repr

namespace Charset

/-! ## Names -/

def names : List (Charset × List String) :=
  [
    (.single .ibm866, ["866", "cp866", "csibm866", "ibm866"]),
    (.single .iso2, [
      "csisolatin2", "iso-8859-2", "iso-ir-101", "iso8859-2", "iso88592", "iso_8859-2",
      "iso_8859-2:1987", "l2", "latin2"]),
    (.single .iso3, [
      "csisolatin3", "iso-8859-3", "iso-ir-109", "iso8859-3", "iso88593", "iso_8859-3",
      "iso_8859-3:1988", "l3", "latin3"]),
    (.single .iso4, [
      "csisolatin4", "iso-8859-4", "iso-ir-110", "iso8859-4", "iso88594", "iso_8859-4",
      "iso_8859-4:1988", "l4", "latin4"]),
    (.single .iso5, [
      "csisolatincyrillic", "cyrillic", "iso-8859-5", "iso-ir-144", "iso8859-5", "iso88595",
      "iso_8859-5", "iso_8859-5:1988"]),
    (.single .iso6, [
      "arabic", "asmo-708", "csiso88596e", "csiso88596i", "csisolatinarabic", "ecma-114",
      "iso-8859-6", "iso-8859-6-e", "iso-8859-6-i", "iso-ir-127", "iso8859-6", "iso88596",
      "iso_8859-6", "iso_8859-6:1987"]),
    (.single .iso7, [
      "csisolatingreek", "ecma-118", "elot_928", "greek", "greek8", "iso-8859-7", "iso-ir-126",
      "iso8859-7", "iso88597", "iso_8859-7", "iso_8859-7:1987", "sun_eu_greek"]),
    (.single .iso8, [
      "csiso88598e", "csisolatinhebrew", "hebrew", "iso-8859-8", "iso-8859-8-e", "iso-ir-138",
      "iso8859-8", "iso88598", "iso_8859-8", "iso_8859-8:1988", "visual", "csiso88598i",
      "iso-8859-8-i", "logical"]),
    (.single .iso10, [
      "csisolatin6", "iso-8859-10", "iso-ir-157", "iso8859-10", "iso885910", "l6", "latin6"]),
    (.single .iso13, ["iso-8859-13", "iso8859-13", "iso885913"]),
    (.single .iso14, ["iso-8859-14", "iso8859-14", "iso885914"]),
    (.single .iso15, [
      "csisolatin9", "iso-8859-15", "iso8859-15", "iso885915", "iso_8859-15", "l9"]),
    (.single .iso16, ["iso-8859-16"]),
    (.single .koi8R, ["cskoi8r", "koi", "koi8", "koi8-r", "koi8_r"]),
    (.single .koi8U, ["koi8-ru", "koi8-u"]),
    (.single .macintosh, ["csmacintosh", "mac", "macintosh", "x-mac-roman"]),
    (.single .windows874, [
      "dos-874", "iso-8859-11", "iso8859-11", "iso885911", "tis-620", "windows-874"]),
    (.single .windows1250, ["cp1250", "windows-1250", "x-cp1250"]),
    (.single .windows1251, ["cp1251", "windows-1251", "x-cp1251"]),
    (.single .windows1252, [
      "ansi_x3.4-1968", "ascii", "cp1252", "cp819", "csisolatin1", "ibm819", "iso-8859-1",
      "iso-ir-100", "iso8859-1", "iso88591", "iso_8859-1", "iso_8859-1:1987", "l1", "latin1",
      "us-ascii", "windows-1252", "x-cp1252"]),
    (.single .windows1253, ["cp1253", "windows-1253", "x-cp1253"]),
    (.single .windows1254, [
      "cp1254", "csisolatin5", "iso-8859-9", "iso-ir-148", "iso8859-9", "iso88599", "iso_8859-9",
      "iso_8859-9:1989", "l5", "latin5", "windows-1254", "x-cp1254"]),
    (.single .windows1255, ["cp1255", "windows-1255", "x-cp1255"]),
    (.single .windows1256, ["cp1256", "windows-1256", "x-cp1256"]),
    (.single .windows1257, ["cp1257", "windows-1257", "x-cp1257"]),
    (.single .windows1258, ["cp1258", "windows-1258", "x-cp1258"]),
    (.single .macCyrillic, ["x-mac-cyrillic", "x-mac-ukrainian"]),
    (.gb18030, [
      "chinese", "csgb2312", "csiso58gb231280", "gb2312", "gb_2312", "gb_2312-80", "gbk",
      "iso-ir-58", "x-gbk", "gb18030"]),
    (.big5, ["big5", "big5-hkscs", "cn-big5", "csbig5", "x-x-big5"]),
    (.eucJp, ["cseucpkdfmtjapanese", "euc-jp", "x-euc-jp"]),
    (.iso2022Jp, ["csiso2022jp", "iso-2022-jp"]),
    (.shiftJis, [
      "csshiftjis", "ms932", "ms_kanji", "shift-jis", "shift_jis", "sjis", "windows-31j",
      "x-sjis"]),
    (.eucKr, [
      "cseuckr", "csksc56011987", "euc-kr", "iso-ir-149", "korean", "ks_c_5601-1987",
      "ks_c_5601-1989", "ksc5601", "ksc_5601", "windows-949"]),
    (.unread, [
      "csiso2022kr", "hz-gb-2312", "iso-2022-cn", "iso-2022-cn-ext", "iso-2022-kr", "replacement"]),
    (.utf16 true, ["unicodefffe", "utf-16be"]),
    (.utf16 false, [
      "csunicode", "iso-10646-ucs-2", "ucs-2", "unicode", "unicodefeff", "utf-16le", "utf-16"]),
    (.userDefined, ["x-user-defined"]) ]

def isLabelBlank (c : Char) : Bool :=
  c == '\t' || c == '\n' || c == '\x0c' || c == '\r' || c == ' '

/-- The set of a name, in which case and the blanks around it do not matter; every name that is not
listed stands for UTF-8. -/
def ofName (name : List Char) : Charset :=
  let inner := (name.dropWhile isLabelBlank).reverse.dropWhile isLabelBlank
  let n := String.ofList (Text.lowerAscii inner.reverse)
  ((names.find? fun entry => entry.2.contains n).map (·.1)).getD utf8

def ofMark? : Bytes → Option (Charset × Bytes)
  | 0xEF :: 0xBB :: 0xBF :: r => some (utf8, r)
  | 0xFE :: 0xFF :: r => some (utf16 true, r)
  | 0xFF :: 0xFE :: r => some (utf16 false, r)
  | _ => none

/-! ## Decoding -/

def singleChar (upper : Index) (b : UInt8) : Char :=
  if isAscii b then Char.ofNat b.toNat
  else (upper.char? (b.toNat - 0x80)).getD Utf8.replacement

def userDefinedChar (b : UInt8) : Char :=
  if isAscii b then Char.ofNat b.toNat else shifted 0xF780 0x80 b

/-- The characters of octets in a set. A text in a set that is not read is one ill-formed sequence. -/
def chars (b : Bytes) : Charset → List Char
  | utf8 => Utf8.decodeLossy b
  | utf16 bigEndian => readAll (Charset.utf16Step bigEndian) b
  | single set => b.map (singleChar (.ofSegments set.upper))
  | gb18030 => readAll gb18030Step b
  | big5 => readAll big5Step b
  | eucJp => readAll eucJpStep b
  | iso2022Jp => Iso2022Jp.read .ascii false b
  | shiftJis => readAll shiftJisStep b
  | eucKr => readAll eucKrStep b
  | userDefined => b.map userDefinedChar
  | unread => if b.isEmpty then [] else illFormed

/-- The text of octets in a set, unless a mark announces another one. -/
def decode (c : Charset) (b : Bytes) : String :=
  match ofMark? b with
  | some (marked, rest) => String.ofList (chars rest marked)
  | none => String.ofList (chars b c)

end Charset

end Switchboard
