import Inspection.Text.Quoted

/-!
# SHA-1

The SHA-1 digest of bytes, and the identifiers that are derived from names by it.
-/

namespace Inspection.Digest

/-- A byte string. -/
abbrev Bytes := List UInt8

/-- The big-endian bytes of a number, so many of them. -/
def bigEndian : (count : Nat) → Nat → Bytes
  | 0, _ => []
  | count + 1, n => bigEndian count (n / 256) ++ [UInt8.ofNat n]

/-- A message filled up to whole blocks of 64 bytes, its length in bits at the end. -/
def padMessage (message : Bytes) : Bytes :=
  message ++ 0x80 :: List.replicate ((119 - message.length % 64) % 64) 0 ++
    bigEndian 8 (8 * message.length)

/-- The 32-bit words of bytes; bytes that fill no word are left out. -/
def words : Bytes → List UInt32
  | a :: b :: c :: d :: rest =>
    UInt32.ofNat (((a.toNat * 256 + b.toNat) * 256 + c.toNat) * 256 + d.toNat) :: words rest
  | _ => []

/-- A word rotated to the left by so many bits. -/
def rotate (bits : Nat) (w : UInt32) : UInt32 :=
  w <<< UInt32.ofNat bits ||| w >>> UInt32.ofNat (32 - bits)

/-- The state between blocks. -/
structure State where
  a : UInt32
  b : UInt32
  c : UInt32
  d : UInt32
  e : UInt32
deriving Repr, DecidableEq

/-- The state before the first block. -/
def State.start : State :=
  ⟨0x67452301, 0xefcdab89, 0x98badcfe, 0x10325476, 0xc3d2e1f0⟩

/-- The words of a block with so many further ones, each made of four before it; the words are kept
latest first. -/
def extend : (count : Nat) → List UInt32 → List UInt32
  | 0, ws => ws
  | count + 1, ws =>
    let w := rotate 1 (ws.getD 2 0 ^^^ ws.getD 7 0 ^^^ ws.getD 13 0 ^^^ ws.getD 15 0)
    extend count (w :: ws)

/-- What the words of a round are mixed with: a function of three words, and a constant. -/
def mixing (round : Nat) (b c d : UInt32) : UInt32 :=
  if round < 20 then ((b &&& c) ||| (~~~b &&& d)) + 0x5a827999
  else if round < 40 then (b ^^^ c ^^^ d) + 0x6ed9eba1
  else if round < 60 then ((b &&& c) ||| (b &&& d) ||| (c &&& d)) + 0x8f1bbcdc
  else (b ^^^ c ^^^ d) + 0xca62c1d6

/-- One round after another, from a first one on. -/
def rounds : (round : Nat) → List UInt32 → State → State
  | _, [], s => s
  | round, w :: rest, s =>
    let t := rotate 5 s.a + mixing round s.b s.c s.d + s.e + w
    rounds (round + 1) rest ⟨t, s.a, rotate 30 s.b, s.c, s.d⟩

/-- Takes in the words of one block. -/
def block (s : State) (ws : List UInt32) : State :=
  let r := rounds 0 (extend 64 ws.reverse).reverse s
  ⟨s.a + r.a, s.b + r.b, s.c + r.c, s.d + r.d, s.e + r.e⟩

/-- Takes in so many blocks. -/
def blocks : (count : Nat) → State → List UInt32 → State
  | 0, s, _ => s
  | count + 1, s, ws => blocks count (block s (ws.take 16)) (ws.drop 16)

/-- The digest of a message, as hexadecimal digits. -/
def sha1 (message : Bytes) : List Char :=
  let ws := words (padMessage message)
  let s := blocks (ws.length / 16) .start ws
  [s.a, s.b, s.c, s.d, s.e].flatMap fun w => Text.hexDigits 8 w.toNat

/-- The name space of domain names, as bytes. -/
def domainNames : Bytes :=
  bigEndian 16 0x6ba7b8109dad11d180b400c04fd430c8

/-- The leading digits, in upper case, of the identifier of a name in the name space of domain
names. At most the first eight are the digest's own. -/
def nameCode (name : String) (length : Nat) : String :=
  String.ofList (((sha1 (domainNames ++ name.toUTF8.toList)).take length).map Char.toUpper)

end Inspection.Digest
