/-!
# The XXH64 hash

The 64-bit hash of a sequence of bytes. Bytes are taken as little-endian lanes: stripes of four lanes
go through four accumulators, what is left goes in by lane, by half lane and by byte, and a final mix
spreads every bit.
-/

namespace Scoreboard.XXH64

/-- The first of the five primes that go into the hash. -/
def prime1 : UInt64 := 0x9E3779B185EBCA87
def prime2 : UInt64 := 0xC2B2AE3D27D4EB4F
def prime3 : UInt64 := 0x165667B19E3779F9
def prime4 : UInt64 := 0x85EBCA77C2B2AE63
def prime5 : UInt64 := 0x27D4EB2F165667C5

/-- Turns a word left by `r` bits. -/
def rotateLeft (x : UInt64) (r : UInt64) : UInt64 := (x <<< r) ||| (x >>> (64 - r))

/-- The number that bytes spell, the lowest first. -/
def littleEndian (bytes : List UInt8) : UInt64 :=
  bytes.foldr (fun b acc => (acc <<< 8) ||| b.toUInt64) 0

/-- The full lanes of eight bytes, and the bytes left over. -/
def lanes : List UInt8 → List UInt64 × List UInt8
  | a :: b :: c :: d :: e :: f :: g :: h :: rest =>
    let (ls, tail) := lanes rest
    (littleEndian [a, b, c, d, e, f, g, h] :: ls, tail)
  | tail => ([], tail)

/-- Takes a lane into an accumulator. -/
def mixLane (acc lane : UInt64) : UInt64 := rotateLeft (acc + lane * prime2) 31 * prime1

/-- The four accumulators of the stripes. -/
structure Accumulators where
  first : UInt64
  second : UInt64
  third : UInt64
  fourth : UInt64

namespace Accumulators

/-- The accumulators before the first stripe, each with another offset from the seed. -/
def start (seed : UInt64) : Accumulators :=
  ⟨seed + prime1 + prime2, seed + prime2, seed, seed - prime1⟩

/-- Takes in stripes of four lanes and hands on the lanes left over. -/
def absorb : Accumulators → List UInt64 → Accumulators × List UInt64
  | v, a :: b :: c :: d :: rest =>
    absorb ⟨mixLane v.first a, mixLane v.second b, mixLane v.third c, mixLane v.fourth d⟩ rest
  | v, left => (v, left)

/-- Mixes an accumulator into the hash. -/
def fold (h v : UInt64) : UInt64 := (h ^^^ mixLane 0 v) * prime1 + prime4

/-- The hash that the four accumulators come to. -/
def merge (v : Accumulators) : UInt64 :=
  let h := rotateLeft v.first 1 + rotateLeft v.second 7 + rotateLeft v.third 12 +
    rotateLeft v.fourth 18
  fold (fold (fold (fold h v.first) v.second) v.third) v.fourth

end Accumulators

/-- Takes in a lane that is left over. -/
def absorbLane (h lane : UInt64) : UInt64 :=
  rotateLeft (h ^^^ mixLane 0 lane) 27 * prime1 + prime4

/-- Takes in a byte that is left over. -/
def absorbByte (h : UInt64) (b : UInt8) : UInt64 :=
  rotateLeft (h ^^^ (b.toUInt64 * prime5)) 11 * prime1

/-- The bytes after the last lane: half a lane if there is one, then byte by byte. -/
def absorbTail (h : UInt64) : List UInt8 → UInt64
  | a :: b :: c :: d :: rest =>
    rest.foldl absorbByte
      (rotateLeft (h ^^^ (littleEndian [a, b, c, d] * prime1)) 23 * prime2 + prime3)
  | tail => tail.foldl absorbByte h

/-- Spreads every bit over the whole word. -/
def avalanche (h : UInt64) : UInt64 :=
  let h := (h ^^^ (h >>> 33)) * prime2
  let h := (h ^^^ (h >>> 29)) * prime3
  h ^^^ (h >>> 32)

/-- The hash of a sequence of bytes. -/
def hash (seed : UInt64) (bytes : List UInt8) : UInt64 :=
  let (ls, tail) := lanes bytes
  let (v, left) := (Accumulators.start seed).absorb ls
  let h := if bytes.length < 32 then seed + prime5 else v.merge
  let h := left.foldl absorbLane (h + bytes.length.toUInt64)
  avalanche (absorbTail h tail)

end Scoreboard.XXH64
