import FailOpenCache.Bytes.Zlib
import FailOpenCache.Pattern.Glob

/-!
# What libraries decide

Two things are left to libraries that do them in their own way: to which stream bytes are
compressed, and how large the expression of a pattern gets when it is compiled. The program relies
on no more than that a compressed stream is read back as the bytes. So both are parameters, and
whatever is said of the program is said for all libraries.
-/

namespace FailOpenCache

/-- A way to compress bytes that reading a framed stream undoes. -/
structure Compressor where
  /-- The framed stream of bytes. -/
  compress : List UInt8 → List UInt8
  /-- The stream is read as the bytes. -/
  undone : ∀ bytes, Zlib.decompress? (compress bytes) = some bytes

/-- The libraries that the program is built with. -/
class Libraries where
  /-- How bytes are compressed. -/
  compressor : Compressor
  /-- How many bytes the expression of a pattern with these parts takes up when it is compiled. -/
  expressionSize : List Glob.Part → Nat

end FailOpenCache
