/-!
# Instances of the core library

Powers, sums, hashes of characters and comparisons of bytes go by the instances of the
core library.  Where these are opened, what a definition means does not depend on which
other library is imported beside it.
-/

namespace DocsConsole.CoreInstances

scoped instance natPow : Pow Nat Nat := instPowNat

scoped instance intPow : Pow Int Nat := instPowNat

scoped instance natZero : Zero Nat := Zero.ofOfNat0

scoped instance bytesDecidableEq : DecidableEq ByteArray := ByteArray.instDecidableEq

scoped instance charHashable : Hashable Char := instHashableChar

end DocsConsole.CoreInstances
