/-!
# Bytes

What peers say to each other is bytes, of which the engine reads none. Two strings of bytes are
compared as arrays.
-/

namespace NanHost

instance decEqBytes : DecidableEq ByteArray := fun a b =>
  decidable_of_iff (a.data = b.data) ByteArray.ext_iff.symm

end NanHost
