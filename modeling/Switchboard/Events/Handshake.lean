import Switchboard.Text.Base64
import Switchboard.Text.Utf8

/-!
# The opening handshake

The key by which a client of a persistent connection sees that its request has been understood: the
digest of its own key and a fixed text. The digest is SHA-1, over blocks of sixteen words of 32 bits.
-/

namespace Switchboard.Handshake

/-! ## The digest -/

structure Chaining where
  a : UInt32 := 0x67452301
  b : UInt32 := 0xEFCDAB89
  c : UInt32 := 0x98BADCFE
  d : UInt32 := 0x10325476
  e : UInt32 := 0xC3D2E1F0

def rotate (x : UInt32) (n : UInt32) : UInt32 := (x <<< n) ||| (x >>> (32 - n))

def octetsOf : Nat → Nat → Bytes
  | 0, _ => []
  | count + 1, n => octetsOf count (n / 256) ++ [UInt8.ofNat n]

/-- The message with a mark, zeros and its length in bits, a multiple of 64 octets long. -/
def pad (m : Bytes) : Bytes :=
  m ++ 0x80 :: List.replicate ((119 - m.length % 64) % 64) 0 ++ octetsOf 8 (8 * m.length)

def wordsOf : Bytes → List UInt32
  | p :: q :: r :: s :: rest =>
    (p.toUInt32 <<< 24 ||| q.toUInt32 <<< 16 ||| r.toUInt32 <<< 8 ||| s.toUInt32) :: wordsOf rest
  | _ => []

/-- Extends the words of a block, kept in reverse order, by `count` more. -/
def extend : Nat → List UInt32 → List UInt32
  | 0, ws => ws
  | count + 1, ws =>
    let word (i : Nat) : UInt32 := ws.getD i 0
    extend count (rotate (word 2 ^^^ word 7 ^^^ word 13 ^^^ word 15) 1 :: ws)

def mix (h : Chaining) (round : Nat) : UInt32 × UInt32 :=
  if round < 20 then ((h.b &&& h.c) ||| (~~~h.b &&& h.d), 0x5A827999)
  else if round < 40 then (h.b ^^^ h.c ^^^ h.d, 0x6ED9EBA1)
  else if round < 60 then ((h.b &&& h.c) ||| (h.b &&& h.d) ||| (h.c &&& h.d), 0x8F1BBCDC)
  else (h.b ^^^ h.c ^^^ h.d, 0xCA62C1D6)

def turn (h : Chaining) (step : UInt32 × Nat) : Chaining :=
  let (f, k) := mix h step.2
  ⟨rotate h.a 5 + f + h.e + k + step.1, h.a, rotate h.b 30, h.c, h.d⟩

def digestBlock (h : Chaining) (block : Bytes) : Chaining :=
  let g := ((extend 64 (wordsOf block).reverse).reverse.zipIdx).foldl turn h
  ⟨h.a + g.a, h.b + g.b, h.c + g.c, h.d + g.d, h.e + g.e⟩

/-- Digests a padded message block by block; the first argument is the number of blocks. -/
def digestBlocks : Nat → Chaining → Bytes → Chaining
  | 0, h, _ => h
  | count + 1, h, m => digestBlocks count (digestBlock h (m.take 64)) (m.drop 64)

def digest (m : Bytes) : Bytes :=
  let m := pad m
  let h := digestBlocks (m.length / 64) {} m
  [h.a, h.b, h.c, h.d, h.e].flatMap fun w => octetsOf 4 w.toNat

/-! ## Keys -/

def fixedText : String := "258EAFA5-E914-47DA-95CA-C5AB0DC85B11"

def acceptKey (key : String) : String :=
  String.ofList (Base64.encode (digest (Utf8.ofText (key ++ fixedText))))

end Switchboard.Handshake
