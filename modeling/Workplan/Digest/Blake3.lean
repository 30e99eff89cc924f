/-
# `Workplan.Digest.Blake3` — the BLAKE3 hash function

The input is cut into chunks of 1024 bytes and each chunk into blocks of 64.  The blocks of a
chunk are compressed in a chain, and the results of the chunks are combined in a binary tree whose
left half is always the largest power of two below the size.  The last compression of all, that of
the root, gives the digest.
-/

namespace Workplan.Digest.Blake3

/-- Eight words: the state between two compressions. -/
abbrev Chain := Vector UInt32 8

/-- Sixteen words: a message block, or the state inside a compression. -/
abbrev Words := Vector UInt32 16

def startChain : Chain :=
  #v[0x6A09E667, 0xBB67AE85, 0x3C6EF372, 0xA54FF53A, 0x510E527F, 0x9B05688C, 0x1F83D9AB, 0x5BE0CD19]

/-- The marks that tell the uses of a compression apart. -/
def chunkStart : UInt32 := 1
def chunkEnd : UInt32 := 2
def parent : UInt32 := 4
def root : UInt32 := 8

def rotateRight (w : UInt32) (n : UInt32) : UInt32 := (w >>> n) ||| (w <<< (32 - n))

/-- Mixes two message words into four words of the state. -/
def mix (v : Words) (a b c d : Fin 16) (x y : UInt32) : Words :=
  let v := v.set a (v[a] + v[b] + x)
  let v := v.set d (rotateRight (v[d] ^^^ v[a]) 16)
  let v := v.set c (v[c] + v[d])
  let v := v.set b (rotateRight (v[b] ^^^ v[c]) 12)
  let v := v.set a (v[a] + v[b] + y)
  let v := v.set d (rotateRight (v[d] ^^^ v[a]) 8)
  let v := v.set c (v[c] + v[d])
  v.set b (rotateRight (v[b] ^^^ v[c]) 7)

/-- One round: the columns of the state, then its diagonals. -/
def mixRound (v m : Words) : Words :=
  let v := mix v 0 4 8 12 m[0] m[1]
  let v := mix v 1 5 9 13 m[2] m[3]
  let v := mix v 2 6 10 14 m[4] m[5]
  let v := mix v 3 7 11 15 m[6] m[7]
  let v := mix v 0 5 10 15 m[8] m[9]
  let v := mix v 1 6 11 12 m[10] m[11]
  let v := mix v 2 7 8 13 m[12] m[13]
  mix v 3 4 9 14 m[14] m[15]

/-- The order of the message words in the next round. -/
def permute (m : Words) : Words :=
  #v[m[2], m[6], m[3], m[10], m[7], m[0], m[4], m[13],
    m[1], m[11], m[12], m[5], m[9], m[14], m[15], m[8]]

/-- Seven rounds with the message permuted between them. -/
def rounds : Nat → Words → Words → Words
  | 0, v, _ => v
  | n + 1, v, m => rounds n (mixRound v m) (permute m)

/-- What enters a compression. -/
structure Input where
  chain : Chain
  block : Words
  counter : Nat
  length : Nat
  flags : UInt32

/-- The first half of a compression's result. -/
def compress (i : Input) : Chain :=
  let h := i.chain
  let v : Words := #v[h[0], h[1], h[2], h[3], h[4], h[5], h[6], h[7],
    startChain[0], startChain[1], startChain[2], startChain[3],
    i.counter.toUInt32, (i.counter / 0x100000000).toUInt32, i.length.toUInt32, i.flags]
  let v := rounds 7 v i.block
  #v[v[0] ^^^ v[8], v[1] ^^^ v[9], v[2] ^^^ v[10], v[3] ^^^ v[11],
    v[4] ^^^ v[12], v[5] ^^^ v[13], v[6] ^^^ v[14], v[7] ^^^ v[15]]

/-- The word of up to four bytes, the first one lowest. -/
def word (bytes : List UInt8) : UInt32 :=
  (bytes.take 4).foldr (fun b w => w * 256 + b.toUInt32) 0

/-- The words of a block, padded with zeros. -/
def blockWords (bytes : List UInt8) : Words :=
  Vector.ofFn fun i : Fin 16 => word (bytes.drop (4 * i.val))

/-- The last compression of a chunk, before it is carried out. -/
def chunkInput (counter : Nat) : Nat → Chain → Bool → List UInt8 → Input
  | 0, chain, _, bytes => ⟨chain, blockWords bytes, counter, bytes.length, chunkEnd⟩
  | blocks + 1, chain, first, bytes =>
    let start := if first then chunkStart else 0
    if bytes.length ≤ 64 then
      ⟨chain, blockWords bytes, counter, bytes.length, start ||| chunkEnd⟩
    else
      let next := compress ⟨chain, blockWords (bytes.take 64), counter, 64, start⟩
      chunkInput counter blocks next false (bytes.drop 64)

/-- The compression that combines two halves, before it is carried out. -/
def parentInput (left right : Chain) : Input where
  chain := startChain
  block := Vector.ofFn fun i : Fin 16 =>
    if h : i.val < 8 then left[i.val] else right[i.val - 8]
  counter := 0
  length := 64
  flags := parent

/-- The last compression of a tree of chunks, the first of which has this number. -/
def treeInput : Nat → Nat → List UInt8 → Input
  | 0, counter, bytes => chunkInput counter 16 startChain true bytes
  | depth + 1, counter, bytes =>
    let chunks := (bytes.length + 1023) / 1024
    if chunks ≤ 1 then chunkInput counter 16 startChain true bytes
    else
      let half := 1 <<< (chunks - 1).log2
      let (left, right) := bytes.splitAt (1024 * half)
      parentInput (compress (treeInput depth counter left))
        (compress (treeInput depth (counter + half) right))

/-- The digest of a list of bytes. -/
def digest (bytes : List UInt8) : Chain :=
  let last := treeInput (bytes.length.log2 + 1) 0 bytes
  compress { last with counter := 0, flags := last.flags ||| root }

/-- A byte as two hexadecimal digits. -/
def hexByte (b : UInt8) : List Char :=
  [Nat.digitChar (b.toNat / 16), Nat.digitChar (b.toNat % 16)]

/-- The digest as hexadecimal text, each word from its lowest byte. -/
def hex (bytes : List UInt8) : String :=
  String.ofList ((digest bytes).toList.flatMap fun (w : UInt32) =>
    [w, w >>> 8, w >>> 16, w >>> 24].flatMap fun (x : UInt32) => hexByte x.toUInt8)

end Workplan.Digest.Blake3
