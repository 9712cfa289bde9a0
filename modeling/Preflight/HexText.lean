import Preflight.Fault
import Preflight.Text.Hex

/-!
Texts as contracts hand them over: the UTF-8 bytes of a text, as a list of bytes or written in
hexadecimal.
-/

namespace Preflight.HexText

-- the bytes that a hexadecimal text denotes, with or without `0x`
def parseBytes (s : String) : Except Fault (List UInt8) :=
  match Text.Hex.read s.toList with
  | .ok bs => .ok bs
  | .error e => .error (.hex e.message)

def ofBytes (bs : List UInt8) : Except Fault String :=
  match Text.Utf8.decode bs with
  | .ok cs => .ok (String.ofList cs)
  | .error e => .error (.text e.message)

def decode (s : String) : Except Fault String :=
  match parseBytes s with
  | .ok bs => ofBytes bs
  | .error e => .error e

-- a text in hexadecimal, with `0x` and lower-case digits
def encode (s : String) : String :=
  String.ofList (Text.Hex.write (Text.Utf8.bytes s))

end Preflight.HexText
