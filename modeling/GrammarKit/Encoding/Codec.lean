import GrammarKit.Encoding.SingleByte
import GrammarKit.Encoding.Utf8
import GrammarKit.Encoding.Utf16
import GrammarKit.Text.LineBreak
import GrammarKit.Text.Quoted

/-!
# Bytes and text

From bytes to text and back in every encoding. A text file is read with every line end as a newline
and written as it is.
-/

namespace GrammarKit.Encoding

open Text

def decode : Encoding → Bytes → Except DecodeError Text
  | .utf8, bs => Utf8.decode bs
  | .utf8Marked, bs => Utf8.decodeMarked bs
  | .ascii, bs => SingleByte.decodeFrom [] .beyondAscii 0 bs
  | .latin1, bs => SingleByte.decodeFrom SingleByte.latin1 .undefined 0 bs
  | .cp1251, bs => SingleByte.decodeFrom windowsCyrillic .undefined 0 bs
  | .cp1252, bs => SingleByte.decodeFrom windowsWestern .undefined 0 bs
  | .koi8r, bs => SingleByte.decodeFrom koi8Russian .undefined 0 bs
  | .utf16, bs => Utf16.decodeMarked bs
  | .utf16le, bs => Utf16.decode bs

def lackingChar : Text := DecodeReason.undefined.message

def encode : Encoding → Text → Except EncodeError Bytes
  | .utf8, t => .ok (Utf8.encode t)
  | .utf8Marked, t => .ok (Utf8.encodeMarked t)
  | .ascii, t => SingleByte.encodeFrom [] "ascii".toList "ordinal not in range(128)".toList 0 t
  | .latin1, t =>
    SingleByte.encodeFrom SingleByte.latin1 "latin-1".toList "ordinal not in range(256)".toList 0 t
  | .cp1251, t => SingleByte.encodeFrom windowsCyrillic "charmap".toList lackingChar 0 t
  | .cp1252, t => SingleByte.encodeFrom windowsWestern "charmap".toList lackingChar 0 t
  | .koi8r, t => SingleByte.encodeFrom koi8Russian "charmap".toList lackingChar 0 t
  | .utf16, t => .ok (Utf16.encodeMarked t)
  | .utf16le, t => .ok (Utf16.encode t)

def readText (e : Encoding) (bs : Bytes) : Except DecodeError Text :=
  (e.decode bs).map unifyNewlines

/-- Bad bytes as they are reported, with the name of the codec. -/
def DecodeError.message (codec : Text) : DecodeError → Text
  | .noMark => "UTF-16 stream does not start with BOM".toList
  | .badBytes reason start bytes =>
    let what := match bytes with
      | [b] => "byte 0x".toList ++ hexDigits 2 b.toNat ++ " in position ".toList ++ Text.ofNat start
      | bs => "bytes in position ".toList ++ Text.ofNat start ++ ['-'] ++
          Text.ofNat (start + bs.length - 1)
    ['\''] ++ codec ++ "' codec can't decode ".toList ++ what ++ ": ".toList ++ reason.message

def EncodeError.message (e : EncodeError) : Text :=
  let what := match e.characters with
    | [c] => "character '".toList ++ spelledOut c.toNat ++ "' in position ".toList ++ Text.ofNat e.start
    | cs => "characters in position ".toList ++ Text.ofNat e.start ++ ['-'] ++
        Text.ofNat (e.start + cs.length - 1)
  ['\''] ++ e.codec ++ "' codec can't encode ".toList ++ what ++ ": ".toList ++ e.reason

end GrammarKit.Encoding
