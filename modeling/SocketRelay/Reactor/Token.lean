import SocketRelay.Socket.Kind

/-!
# Registration tokens

The identity of one registration: the descriptor in the low half of a 64-bit word, the generation
in the high half. Descriptor numbers are reused by the system, generations only after all have been
used, so a token tells apart what a descriptor number alone does not.
-/
namespace SocketRelay

abbrev Descriptor := Int32

structure Token where
  word : UInt64
  deriving DecidableEq, Repr, Inhabited

namespace Token

/-- The token of a descriptor and a generation. -/
def pack (descriptor : Descriptor) (generation : UInt32) : Token :=
  ⟨generation.toUInt64 <<< 32 ||| descriptor.toUInt32.toUInt64⟩

def descriptor (t : Token) : Descriptor := t.word.toUInt32.toInt32

def generation (t : Token) : UInt32 := (t.word >>> 32).toUInt32

end Token

end SocketRelay
