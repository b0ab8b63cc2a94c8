import MapServices.Encoding.Iso2022Jp
import MapServices.Encoding.MultiByte
import MapServices.Encoding.SingleByte
import MapServices.Encoding.Utf16
import MapServices.Encoding.Utf8
import MapServices.Text.Ascii
import MapServices.Text.Blank

/-!
# Encodings

The encodings in which a document may be written, each with its labels and the way its bytes are
decoded. A label may be written in any letter case and with white space around it.

The encodings of Chinese, Japanese and Korean are decoded with index tables that are brought along.
Without tables, their sequences of bytes are faults but for the few that need no table.
-/

namespace MapServices

/-- The way in which the bytes of an encoding are decoded. -/
inductive EncodingScheme where
  | utf8
  | utf16 (order : Utf16.ByteOrder)
  /-- One byte per character, with a table for the bytes from 80 on. -/
  | singleByte (upper : List Nat)
  /-- One byte per character, with the bytes from 80 on in the private use area. -/
  | privateUse
  /-- A sequence of bytes from 80 on, or of such bytes and ASCII, is a character. -/
  | multiByte (form : MultiByte)
  /-- Escape sequences tell how the bytes after them are read. -/
  | iso2022Jp
  /-- A text is never shown: if there is one at all, it is a single fault. -/
  | unreadable
deriving DecidableEq, Repr

/-- An encoding. -/
structure Encoding where
  name : String
  scheme : EncodingScheme
  /-- The labels in lower case. -/
  labels : List String
deriving DecidableEq, Repr

namespace Encoding

/-- All encodings. -/
def all : List Encoding := [
  ⟨"UTF-8", .utf8, ["unicode-1-1-utf-8", "unicode11utf8", "unicode20utf8", "utf-8", "utf8",
    "x-unicode20utf8"]⟩,
  ⟨"IBM866", .singleByte SingleByte.russianDos, ["866", "cp866", "csibm866", "ibm866"]⟩,
  ⟨"ISO-8859-2", .singleByte SingleByte.centralEuropean, ["csisolatin2", "iso-8859-2", "iso-ir-101",
    "iso8859-2", "iso88592", "iso_8859-2", "iso_8859-2:1987", "l2", "latin2"]⟩,
  ⟨"ISO-8859-3", .singleByte SingleByte.southEuropean, ["csisolatin3", "iso-8859-3", "iso-ir-109",
    "iso8859-3", "iso88593", "iso_8859-3", "iso_8859-3:1988", "l3", "latin3"]⟩,
  ⟨"ISO-8859-4", .singleByte SingleByte.northEuropean, ["csisolatin4", "iso-8859-4", "iso-ir-110",
    "iso8859-4", "iso88594", "iso_8859-4", "iso_8859-4:1988", "l4", "latin4"]⟩,
  ⟨"ISO-8859-5", .singleByte SingleByte.cyrillic, ["csisolatincyrillic", "cyrillic", "iso-8859-5",
    "iso-ir-144", "iso8859-5", "iso88595", "iso_8859-5", "iso_8859-5:1988"]⟩,
  ⟨"ISO-8859-6", .singleByte SingleByte.arabic, ["arabic", "asmo-708", "csiso88596e", "csiso88596i",
    "csisolatinarabic", "ecma-114", "iso-8859-6", "iso-8859-6-e", "iso-8859-6-i", "iso-ir-127",
    "iso8859-6", "iso88596", "iso_8859-6", "iso_8859-6:1987"]⟩,
  ⟨"ISO-8859-7", .singleByte SingleByte.greek, ["csisolatingreek", "ecma-118", "elot_928", "greek",
    "greek8", "iso-8859-7", "iso-ir-126", "iso8859-7", "iso88597", "iso_8859-7", "iso_8859-7:1987",
    "sun_eu_greek"]⟩,
  ⟨"ISO-8859-8", .singleByte SingleByte.hebrew, ["csiso88598e", "csisolatinhebrew", "hebrew",
    "iso-8859-8", "iso-8859-8-e", "iso-ir-138", "iso8859-8", "iso88598", "iso_8859-8",
    "iso_8859-8:1988", "visual"]⟩,
  ⟨"ISO-8859-8-I", .singleByte SingleByte.hebrew, ["csiso88598i", "iso-8859-8-i", "logical"]⟩,
  ⟨"ISO-8859-10", .singleByte SingleByte.nordic, ["csisolatin6", "iso-8859-10", "iso-ir-157",
    "iso8859-10", "iso885910", "l6", "latin6"]⟩,
  ⟨"ISO-8859-13", .singleByte SingleByte.baltic, ["iso-8859-13", "iso8859-13", "iso885913"]⟩,
  ⟨"ISO-8859-14", .singleByte SingleByte.celtic, ["iso-8859-14", "iso8859-14", "iso885914"]⟩,
  ⟨"ISO-8859-15", .singleByte SingleByte.westernWithEuro, ["csisolatin9", "iso-8859-15",
    "iso8859-15", "iso885915", "iso_8859-15", "l9"]⟩,
  ⟨"ISO-8859-16", .singleByte SingleByte.southEasternEuropean, ["iso-8859-16"]⟩,
  ⟨"KOI8-R", .singleByte SingleByte.russianKoi, ["cskoi8r", "koi", "koi8", "koi8-r", "koi8_r"]⟩,
  ⟨"KOI8-U", .singleByte SingleByte.ukrainianKoi, ["koi8-ru", "koi8-u"]⟩,
  ⟨"macintosh", .singleByte SingleByte.westernMac, ["csmacintosh", "mac", "macintosh",
    "x-mac-roman"]⟩,
  ⟨"windows-874", .singleByte SingleByte.thaiWindows, ["dos-874", "iso-8859-11", "iso8859-11",
    "iso885911", "tis-620", "windows-874"]⟩,
  ⟨"windows-1250", .singleByte SingleByte.centralEuropeanWindows, ["cp1250", "windows-1250",
    "x-cp1250"]⟩,
  ⟨"windows-1251", .singleByte SingleByte.cyrillicWindows, ["cp1251", "windows-1251", "x-cp1251"]⟩,
  ⟨"windows-1252", .singleByte SingleByte.westernWindows, ["ansi_x3.4-1968", "ascii", "cp1252",
    "cp819", "csisolatin1", "ibm819", "iso-8859-1", "iso-ir-100", "iso8859-1", "iso88591",
    "iso_8859-1", "iso_8859-1:1987", "l1", "latin1", "us-ascii", "windows-1252", "x-cp1252"]⟩,
  ⟨"windows-1253", .singleByte SingleByte.greekWindows, ["cp1253", "windows-1253", "x-cp1253"]⟩,
  ⟨"windows-1254", .singleByte SingleByte.turkishWindows, ["cp1254", "csisolatin5", "iso-8859-9",
    "iso-ir-148", "iso8859-9", "iso88599", "iso_8859-9", "iso_8859-9:1989", "l5", "latin5",
    "windows-1254", "x-cp1254"]⟩,
  ⟨"windows-1255", .singleByte SingleByte.hebrewWindows, ["cp1255", "windows-1255", "x-cp1255"]⟩,
  ⟨"windows-1256", .singleByte SingleByte.arabicWindows, ["cp1256", "windows-1256", "x-cp1256"]⟩,
  ⟨"windows-1257", .singleByte SingleByte.balticWindows, ["cp1257", "windows-1257", "x-cp1257"]⟩,
  ⟨"windows-1258", .singleByte SingleByte.vietnameseWindows, ["cp1258", "windows-1258",
    "x-cp1258"]⟩,
  ⟨"x-mac-cyrillic", .singleByte SingleByte.cyrillicMac, ["x-mac-cyrillic", "x-mac-ukrainian"]⟩,
  ⟨"GBK", .multiByte .gb18030, ["chinese", "csgb2312", "csiso58gb231280", "gb2312", "gb_2312",
    "gb_2312-80", "gbk", "iso-ir-58", "x-gbk"]⟩,
  ⟨"gb18030", .multiByte .gb18030, ["gb18030"]⟩,
  ⟨"Big5", .multiByte .big5, ["big5", "big5-hkscs", "cn-big5", "csbig5", "x-x-big5"]⟩,
  ⟨"EUC-JP", .multiByte .eucJp, ["cseucpkdfmtjapanese", "euc-jp", "x-euc-jp"]⟩,
  ⟨"ISO-2022-JP", .iso2022Jp, ["csiso2022jp", "iso-2022-jp"]⟩,
  ⟨"Shift_JIS", .multiByte .shiftJis, ["csshiftjis", "ms932", "ms_kanji", "shift-jis", "shift_jis",
    "sjis", "windows-31j", "x-sjis"]⟩,
  ⟨"EUC-KR", .multiByte .eucKr, ["cseuckr", "csksc56011987", "euc-kr", "iso-ir-149", "korean",
    "ks_c_5601-1987", "ks_c_5601-1989", "ksc5601", "ksc_5601", "windows-949"]⟩,
  ⟨"replacement", .unreadable, ["csiso2022kr", "hz-gb-2312", "iso-2022-cn", "iso-2022-cn-ext",
    "iso-2022-kr", "replacement"]⟩,
  ⟨"UTF-16BE", .utf16 .big, ["unicodefffe", "utf-16be"]⟩,
  ⟨"UTF-16LE", .utf16 .little, ["csunicode", "iso-10646-ucs-2", "ucs-2", "unicode", "unicodefeff",
    "utf-16", "utf-16le"]⟩,
  ⟨"x-user-defined", .privateUse, ["x-user-defined"]⟩]

/-- The encoding with the given label. -/
def ofLabel? (label : String) : Option Encoding :=
  all.find? (·.labels.contains (Text.lowered (Text.trimmed label)))

/-- The byte order mark that belongs to the encoding. -/
def byteOrderMark (e : Encoding) : List UInt8 :=
  match e.scheme with
  | .utf8 => [0xEF, 0xBB, 0xBF]
  | .utf16 .little => [0xFF, 0xFE]
  | .utf16 .big => [0xFE, 0xFF]
  | _ => []

/-- The bytes without the byte order mark that belongs to the encoding. -/
def dropMark (e : Encoding) (bytes : List UInt8) : List UInt8 :=
  if e.byteOrderMark.isPrefixOf bytes then bytes.drop e.byteOrderMark.length else bytes

/-- The character of a byte where the bytes from 80 on are in the private use area. -/
def privateUseChar (b : UInt8) : Char :=
  if b.toNat < 0x80 then Char.ofNat b.toNat else Char.ofNat (0xF700 + b.toNat)

/-- The characters of the bytes, with nothing in the place of each fault. -/
def characters (e : Encoding) (indexes : Indexes) (bytes : List UInt8) : List (Option Char) :=
  match e.scheme with
  | .utf8 => Utf8.decode bytes
  | .utf16 order => Utf16.decode order bytes
  | .singleByte upper => SingleByte.decode upper bytes
  | .privateUse => bytes.map fun b => some (privateUseChar b)
  | .multiByte form => form.decode indexes bytes
  | .iso2022Jp => Iso2022Jp.decode indexes bytes
  | .unreadable => if bytes.isEmpty then [] else [none]

/-- A decoded text. -/
structure Decoded where
  text : List Char
  /-- Whether the text holds replacement characters for malformed bytes. -/
  malformed : Bool
deriving DecidableEq, Repr

/-- Decodes bytes after a byte order mark, if there is one. -/
def decode (e : Encoding) (indexes : Indexes) (bytes : List UInt8) : Decoded :=
  let characters := e.characters indexes (e.dropMark bytes)
  { text := characters.map (·.getD Utf8.replacement)
    malformed := characters.any Option.isNone }

end Encoding

end MapServices
