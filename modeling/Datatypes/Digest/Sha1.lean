/-! # The SHA-1 digest

A message is padded to whole blocks of sixteen 32-bit words. Each block is
expanded to eighty words, which stir a state of five words one after the other;
the state after the last block is the digest.
-/

namespace Datatypes.Sha1

/-- The five words that the digest is computed in. -/
structure State where
  a : UInt32
  b : UInt32
  c : UInt32
  d : UInt32
  e : UInt32
deriving DecidableEq

namespace State

def initial : State :=
  ⟨0x67452301, 0xefcdab89, 0x98badcfe, 0x10325476, 0xc3d2e1f0⟩

instance : Add State where
  add s t := ⟨s.a + t.a, s.b + t.b, s.c + t.c, s.d + t.d, s.e + t.e⟩

def toList (s : State) : List UInt32 :=
  [s.a, s.b, s.c, s.d, s.e]

end State

/-- Rotation of a word to the left, for amounts between 1 and 31. -/
def rotateLeft (word amount : UInt32) : UInt32 :=
  (word <<< amount) ||| (word >>> (32 - amount))

/-- The mixing function and the constant of a round: there are four stages of
twenty rounds each. -/
def mix (round : Nat) (s : State) : UInt32 :=
  if round < 20 then ((s.b &&& s.c) ||| (~~~s.b &&& s.d)) + 0x5a827999
  else if round < 40 then (s.b ^^^ s.c ^^^ s.d) + 0x6ed9eba1
  else if round < 60 then ((s.b &&& s.c) ||| (s.b &&& s.d) ||| (s.c &&& s.d)) + 0x8f1bbcdc
  else (s.b ^^^ s.c ^^^ s.d) + 0xca62c1d6

/-- One round: the new first word takes in one word of the expanded block. -/
def State.round (s : State) (index : Nat) (word : UInt32) : State :=
  ⟨rotateLeft s.a 5 + mix index s + s.e + word, s.a, rotateLeft s.b 30, s.c, s.d⟩

/-- The eighty words that sixteen are expanded to. From the seventeenth on, each
is made from the words 3, 8, 14 and 16 places before it. -/
def expand (block : List UInt32) : List UInt32 :=
  let words := (List.range 64).foldl (fun words i =>
    words.push (rotateLeft (words.getD (i + 13) 0 ^^^ words.getD (i + 8) 0 ^^^
      words.getD (i + 2) 0 ^^^ words.getD i 0) 1)) block.toArray
  words.toList

/-- The state after one more block. -/
def State.absorb (s : State) (block : List UInt32) : State :=
  s + (expand block).zipIdx.foldl (fun t wordAt => t.round wordAt.2 wordAt.1) s

/-- The state after all blocks of a list of words. -/
def State.absorbAll (s : State) (words : List UInt32) : State :=
  if words.isEmpty then s
  else (s.absorb (words.take 16)).absorbAll (words.drop 16)
termination_by words.length
decreasing_by
  cases words with
  | nil => contradiction
  | cons word rest => simp only [List.length_drop, List.length_cons]; omega

/-- The `count` low bytes of a number, the most significant first. -/
def bigEndian (count value : Nat) : List UInt8 :=
  (List.range count).reverse.map fun i => (value >>> (8 * i)).toUInt8

/-- The words of a byte string, the most significant byte first; bytes that do
not fill a word are left out. -/
def words : List UInt8 → List UInt32
  | p :: q :: r :: s :: rest =>
      ((p.toUInt32 <<< 24) ||| (q.toUInt32 <<< 16) ||| (r.toUInt32 <<< 8) ||| s.toUInt32)
        :: words rest
  | _ => []

/-- A message with a one bit, the fewest zeros, and its length in bits as eight
bytes behind it, so that it fills whole blocks of 64 bytes. -/
def pad (message : List UInt8) : List UInt8 :=
  message ++ 0x80 :: (List.replicate ((119 - message.length % 64) % 64) 0 ++
    bigEndian 8 (8 * message.length))

/-- The digest of a message: twenty bytes. -/
def digest (message : List UInt8) : List UInt8 :=
  (State.initial.absorbAll (words (pad message))).toList.flatMap fun word =>
    bigEndian 4 word.toNat

theorem length_digest (message : List UInt8) : (digest message).length = 20 := by
  simp [digest, State.toList, bigEndian]

end Datatypes.Sha1
