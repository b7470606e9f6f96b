/-!
# Token digests

The eight-byte BLAKE2b digest of a list of bytes, without a key.
-/

namespace PullReview.Embedding.Digest

def initialWords : List UInt64 :=
  [0x6A09E667F3BCC908, 0xBB67AE8584CAA73B, 0x3C6EF372FE94F82B, 0xA54FF53A5F1D36F1,
    0x510E527FADE682D1, 0x9B05688C2B3E6C1F, 0x1F83D9ABFB41BD6B, 0x5BE0CD19137E2179]

/-- The order in which each round takes the words of a block. -/
def schedule : List (List Nat) :=
  [[0, 1, 2, 3, 4, 5, 6, 7, 8, 9, 10, 11, 12, 13, 14, 15],
    [14, 10, 4, 8, 9, 15, 13, 6, 1, 12, 0, 2, 11, 7, 5, 3],
    [11, 8, 12, 0, 5, 2, 15, 13, 10, 14, 3, 6, 7, 1, 9, 4],
    [7, 9, 3, 1, 13, 12, 11, 14, 2, 6, 5, 10, 4, 0, 15, 8],
    [9, 0, 5, 7, 2, 4, 10, 15, 14, 1, 11, 12, 6, 8, 3, 13],
    [2, 12, 6, 10, 0, 11, 8, 3, 4, 13, 7, 5, 15, 14, 1, 9],
    [12, 5, 1, 15, 14, 13, 4, 10, 0, 7, 6, 3, 9, 2, 8, 11],
    [13, 11, 7, 14, 12, 1, 3, 9, 5, 0, 15, 4, 8, 6, 2, 10],
    [6, 15, 14, 9, 11, 3, 0, 8, 12, 2, 13, 7, 1, 4, 10, 5],
    [10, 2, 8, 4, 7, 6, 1, 5, 15, 11, 9, 14, 3, 12, 13, 0],
    [0, 1, 2, 3, 4, 5, 6, 7, 8, 9, 10, 11, 12, 13, 14, 15],
    [14, 10, 4, 8, 9, 15, 13, 6, 1, 12, 0, 2, 11, 7, 5, 3]]

/-- The four columns of the state and its four diagonals, by position. -/
def lanes : List (Nat × Nat × Nat × Nat) :=
  [(0, 4, 8, 12), (1, 5, 9, 13), (2, 6, 10, 14), (3, 7, 11, 15), (0, 5, 10, 15), (1, 6, 11, 12),
    (2, 7, 8, 13), (3, 4, 9, 14)]

private def rotate (x : UInt64) (n : UInt64) : UInt64 := (x >>> n) ||| (x <<< (64 - n))

/-- Mixes two words of a block into one lane of the state. -/
private def mix (v : Array UInt64) (lane : Nat × Nat × Nat × Nat) (x y : UInt64) : Array UInt64 :=
  let (a, b, c, d) := lane
  let va := v.getD a 0 + v.getD b 0 + x
  let vd := rotate (v.getD d 0 ^^^ va) 32
  let vc := v.getD c 0 + vd
  let vb := rotate (v.getD b 0 ^^^ vc) 24
  let va := va + vb + y
  let vd := rotate (vd ^^^ va) 16
  let vc := vc + vd
  let vb := rotate (vb ^^^ vc) 63
  (((v.setIfInBounds a va).setIfInBounds b vb).setIfInBounds c vc).setIfInBounds d vd

private def round (block : Array UInt64) (v : Array UInt64) (order : List Nat) : Array UInt64 :=
  let words := order.map fun i => block.getD i 0
  lanes.zipIdx.foldl
    (fun v p => mix v p.1 (words.getD (2 * p.2) 0) (words.getD (2 * p.2 + 1) 0)) v

/-- Takes one block into the state; `count` is the number of bytes read with it. -/
private def compress (h : List UInt64) (block : Array UInt64) (count : Nat) (last : Bool) :
    List UInt64 :=
  let v := (h ++ initialWords).toArray
  let v := v.modify 12 (· ^^^ count.toUInt64)
  let v := if last then v.modify 14 (~~~ ·) else v
  let v := schedule.foldl (round block) v
  (List.range 8).map fun i => h.getD i 0 ^^^ v.getD i 0 ^^^ v.getD (i + 8) 0

private def littleEndian (bytes : List UInt8) : UInt64 :=
  bytes.foldr (fun b w => (w <<< 8) ||| b.toUInt64) 0

/-- The words of a block, filled up with zeros. -/
private def blockWords (bytes : List UInt8) : Array UInt64 :=
  ((List.range 16).map fun i => littleEndian ((bytes.drop (8 * i)).take 8)).toArray

/-- Takes all blocks in; `done` counts the bytes of the blocks before. -/
private def absorb (h : List UInt64) (done : Nat) : Nat → List UInt8 → List UInt64
  | 0, _ => h
  | fuel + 1, bytes =>
      if bytes.length ≤ 128 then compress h (blockWords bytes) (done + bytes.length) true
      else
        absorb (compress h (blockWords (bytes.take 128)) (done + 128) false) (done + 128) fuel
          (bytes.drop 128)

/-- The digest, its first byte lowest. -/
def digest (bytes : List UInt8) : UInt64 :=
  let h := initialWords.modify 0 (· ^^^ 0x01010008)
  (absorb h 0 (bytes.length / 128 + 1) bytes).getD 0 0

/-- The byte of a digest at a position. -/
def byteAt (d : UInt64) (i : Nat) : Nat := (d.toNat >>> (8 * i)) % 256

end PullReview.Embedding.Digest
