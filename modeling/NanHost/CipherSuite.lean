/-!
# Cipher suites

The four ways in which a data path can be secured, and sets of them. The firmware reports the set
it supports as a word with one bit per suite.
-/

namespace NanHost

/-- A way to secure a data path. -/
inductive CipherSuite where
  | sharedKey128
  | sharedKey256
  | publicKey2Way128
  | publicKey2Way256
  deriving DecidableEq

namespace CipherSuite

/-- The suite's bit in a word of suites. -/
def bit : CipherSuite → UInt32
  | sharedKey128 => 1
  | sharedKey256 => 2
  | publicKey2Way128 => 4
  | publicKey2Way256 => 8

/-- The suite's name. -/
def name : CipherSuite → String
  | sharedKey128 => "SharedKey128"
  | sharedKey256 => "SharedKey256"
  | publicKey2Way128 => "PublicKey2Way128"
  | publicKey2Way256 => "PublicKey2Way256"

/-- Every suite, in the order of the bits. -/
def all : List CipherSuite := [sharedKey128, sharedKey256, publicKey2Way128, publicKey2Way256]

end CipherSuite

/-- A set of cipher suites, one bit for each. -/
structure CipherSuites where
  bits : UInt32
  deriving DecidableEq

namespace CipherSuites

/-- The set without members. -/
def empty : CipherSuites := ⟨0⟩

/-- The set with the members listed, in whatever order and however often. -/
def ofList (suites : List CipherSuite) : CipherSuites :=
  ⟨suites.foldl (fun word suite => word ||| suite.bit) 0⟩

/-- Whether the suite is in the set. -/
def contains (set : CipherSuites) (suite : CipherSuite) : Bool :=
  set.bits &&& suite.bit != 0

/-- The members in the order of their bits. -/
def toList (set : CipherSuites) : List CipherSuite :=
  CipherSuite.all.filter set.contains

end CipherSuites

end NanHost
