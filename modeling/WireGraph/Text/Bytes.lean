/-!
# Bytes

Texts as bytes in UTF-8.
-/

namespace WireGraph.Text

def ofBytes? (bytes : List UInt8) : Option String := String.fromUTF8? (ByteArray.mk bytes.toArray)

def byteLength (s : String) : Nat := s.utf8ByteSize

end WireGraph.Text
