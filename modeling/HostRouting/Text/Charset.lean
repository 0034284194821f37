import HostRouting.Text.CodePage
import HostRouting.Text.Utf16

/-!
# Character encodings by name

The encodings that a text may be declared to be in. Names compare without regard to case
and to blanks around them. A byte order mark wins over what was declared and is not part
of the text. The encodings of several bytes a character for East Asian scripts are not
known here.
-/
namespace HostRouting.Text

inductive Charset where
  | utf8
  | utf16 (order : ByteOrder)
  | page (page : CodePage)
  deriving DecidableEq, Repr

namespace Charset

def utf8Labels : List String :=
  ["unicode-1-1-utf-8", "unicode11utf8", "unicode20utf8", "utf-8", "utf8", "x-unicode20utf8"]

def utf16Labels : ByteOrder → List String
  | .littleEndian =>
    ["csunicode", "iso-10646-ucs-2", "ucs-2", "unicode", "unicodefeff", "utf-16", "utf-16le"]
  | .bigEndian => ["unicodefffe", "utf-16be"]

def labels : Charset → List String
  | utf8 => utf8Labels
  | utf16 order => utf16Labels order
  | page p => p.labels

def all : List Charset :=
  [utf8, utf16 .littleEndian, utf16 .bigEndian] ++ CodePage.all.map page

def isLabelSpace (c : Char) : Bool := c = ' ' || c = '\t' || c = '\n' || c = '\x0c' || c = '\r'

def ofLabel? (label : Text) : Option Charset :=
  let name := (dropEndWhile isLabelSpace (label.dropWhile isLabelSpace)).map Char.toLower
  all.find? fun c => (c.labels.map String.toList).contains name

def decode : Charset → List UInt8 → Text
  | utf8, bytes => ofUtf8 bytes
  | utf16 order, bytes => ofUtf16 order bytes
  | page p, bytes => p.decode bytes

/-- The encoding that a byte order mark announces, and the bytes after it. -/
def ofMark? : List UInt8 → Option (Charset × List UInt8)
  | 0xEF :: 0xBB :: 0xBF :: rest => some (utf8, rest)
  | 0xFF :: 0xFE :: rest => some (utf16 .littleEndian, rest)
  | 0xFE :: 0xFF :: rest => some (utf16 .bigEndian, rest)
  | _ => none

/-- The text of bytes that were declared to be in an encoding. -/
def decodeMarked (declared : Charset) (bytes : List UInt8) : Text :=
  match ofMark? bytes with
  | some (charset, rest) => charset.decode rest
  | none => declared.decode bytes

end Charset
end HostRouting.Text
