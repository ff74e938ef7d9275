import FailOpenCache.Libraries
import FailOpenCache.Proofs.Bytes.Stored

/-!
# Plain libraries

The simplest libraries that there are: bytes are kept in the stream as they are, and the expression
of a pattern is as large as its parts are together. They are here to run the program and to show
what it does with a given input; nothing that is said of all inputs is said for them alone.
-/

namespace FailOpenCache

/-- Bytes are kept as they are. -/
def Compressor.stored : Compressor := ⟨Zlib.compress, Zlib.decompress?_compress⟩

namespace Libraries.Plain

/-- Roughly how many bytes a part of a pattern takes up. A part for any character, or for those of a
class, tells apart how characters are written in bytes. -/
def partSize : Glob.Part → Nat
  | .anyRun => 1004
  | .anyOne => 964
  | .literal character => 32 * character.utf8Size
  | .bracket body => 964 * body.length

/-- The plain libraries. -/
scoped instance plain : Libraries where
  compressor := .stored
  expressionSize parts := parts.foldr (fun part size => partSize part + size) 0

end Libraries.Plain

end FailOpenCache
