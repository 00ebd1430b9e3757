/-!
The sponge hash of addresses: 1088-bit blocks over a state of 25 lanes, 24 rounds, the padding
that starts with a single bit, 256 bits of output.
-/

namespace ChainRisk.Keccak

abbrev Lanes := Array UInt64

def lane (s : Lanes) (i : Nat) : UInt64 := s.getD i 0

def rotated (w : UInt64) (n : Nat) : UInt64 :=
  if n = 0 then w else (w <<< UInt64.ofNat n) ||| (w >>> UInt64.ofNat (64 - n))

def parity (s : Lanes) (x : Nat) : UInt64 :=
  lane s x ^^^ lane s (x + 5) ^^^ lane s (x + 10) ^^^ lane s (x + 15) ^^^ lane s (x + 20)

def theta (s : Lanes) : Lanes :=
  let c := Array.ofFn (n := 5) fun x => parity s x
  Array.ofFn (n := 25) fun i =>
    lane s i ^^^ lane c ((i + 4) % 5) ^^^ rotated (lane c ((i + 1) % 5)) 1

def offsets : Array Nat := #[
  0, 1, 62, 28, 27, 36, 44, 6, 55, 20, 3, 10, 43, 25, 39, 41, 45, 15, 21, 8, 18, 2, 61, 56, 14]

def rhoPi (s : Lanes) : Lanes :=
  Array.ofFn (n := 25) fun i =>
    let j := 5 * (i % 5) + (i % 5 + 3 * (i / 5)) % 5
    rotated (lane s j) (offsets.getD j 0)

def chi (s : Lanes) : Lanes :=
  Array.ofFn (n := 25) fun i =>
    let row := 5 * (i / 5)
    lane s i ^^^ (~~~(lane s (row + (i + 1) % 5)) &&& lane s (row + (i + 2) % 5))

def roundConstants : List UInt64 := [
  0x0000000000000001, 0x0000000000008082, 0x800000000000808a, 0x8000000080008000,
  0x000000000000808b, 0x0000000080000001, 0x8000000080008081, 0x8000000000008009,
  0x000000000000008a, 0x0000000000000088, 0x0000000080008009, 0x000000008000000a,
  0x000000008000808b, 0x800000000000008b, 0x8000000000008089, 0x8000000000008003,
  0x8000000000008002, 0x8000000000000080, 0x000000000000800a, 0x800000008000000a,
  0x8000000080008081, 0x8000000000008080, 0x0000000080000001, 0x8000000080008008]

def round (s : Lanes) (constant : UInt64) : Lanes :=
  let t := chi (rhoPi (theta s))
  t.setIfInBounds 0 (lane t 0 ^^^ constant)

def permuted (s : Lanes) : Lanes := roundConstants.foldl round s

def rate : Nat := 136

def padded (bs : List UInt8) : List UInt8 :=
  let free := rate - bs.length % rate
  if free = 1 then bs ++ [0x81] else bs ++ 0x01 :: (List.replicate (free - 2) 0 ++ [0x80])

def word (bs : List UInt8) : UInt64 :=
  bs.foldr (fun b w => (w <<< 8) ||| b.toUInt64) 0

def absorbed (s : Lanes) (block : List UInt8) : Lanes :=
  permuted (Array.ofFn (n := 25) fun i =>
    lane s i ^^^ (if i.val < rate / 8 then word ((block.drop (8 * i.val)).take 8) else 0))

def blocks : Nat → List UInt8 → List (List UInt8)
  | 0, _ => []
  | n + 1, bs => bs.take rate :: blocks n (bs.drop rate)

def wordBytes (w : UInt64) : List UInt8 :=
  (List.range 8).map fun k => (w >>> UInt64.ofNat (8 * k)).toUInt8

def digest (bs : List UInt8) : List UInt8 :=
  let message := padded bs
  let final := (blocks (message.length / rate) message).foldl absorbed (Array.replicate 25 0)
  (List.range 4).flatMap fun i => wordBytes (lane final i)

end ChainRisk.Keccak
