import LabelStream.ImageFile.Layout

/-! Grey images as baseline JPEG files of middling quality. The picture is cut into blocks of eight by
eight, each block becomes frequencies, and these are rounded and written in a prefix code. -/
namespace LabelStream.ImageFile.Jpeg

/-- The order in which the frequencies of a block are written, lowest first. -/
def zigzag : Array Nat := #[
  0, 1, 8, 16, 9, 2, 3, 10, 17, 24, 32, 25, 18, 11, 4, 5, 12, 19, 26, 33, 40, 48, 41, 34, 27, 20, 13,
  6, 7, 14, 21, 28, 35, 42, 49, 56, 57, 50, 43, 36, 29, 22, 15, 23, 30, 37, 44, 51, 58, 59, 52, 45, 38,
  31, 39, 46, 53, 60, 61, 54, 47, 55, 62, 63]

/-- How coarsely each frequency is rounded, row by row: half of what the standard recommends. -/
def steps : Array Nat := #[
  8, 6, 5, 8, 12, 20, 26, 31, 6, 6, 7, 10, 13, 29, 30, 28, 7, 7, 8, 12, 20, 29, 35, 28, 7, 9, 11, 15,
  26, 44, 40, 31, 9, 11, 19, 28, 34, 55, 52, 39, 12, 18, 28, 32, 41, 52, 57, 46, 25, 32, 39, 44, 52,
  61, 60, 51, 36, 46, 48, 49, 56, 50, 52, 50]

/-- A prefix code: how many code words there are of each length, and their symbols in order. -/
structure PrefixCode where
  counts : List Nat
  symbols : List Nat

/-- The code for the lowest frequency of a block. -/
def lowestCode : PrefixCode where
  counts := [0, 1, 5, 1, 1, 1, 1, 1, 1, 0, 0, 0, 0, 0, 0, 0]
  symbols := List.range 12

/-- The code for all other frequencies. -/
def otherCode : PrefixCode where
  counts := [0, 2, 1, 3, 3, 2, 4, 3, 5, 5, 4, 4, 0, 0, 1, 125]
  symbols := [
    0x01, 0x02, 0x03, 0x00, 0x04, 0x11, 0x05, 0x12, 0x21, 0x31, 0x41, 0x06, 0x13, 0x51, 0x61, 0x07,
    0x22, 0x71, 0x14, 0x32, 0x81, 0x91, 0xA1, 0x08, 0x23, 0x42, 0xB1, 0xC1, 0x15, 0x52, 0xD1, 0xF0,
    0x24, 0x33, 0x62, 0x72, 0x82, 0x09, 0x0A, 0x16, 0x17, 0x18, 0x19, 0x1A, 0x25, 0x26, 0x27, 0x28,
    0x29, 0x2A, 0x34, 0x35, 0x36, 0x37, 0x38, 0x39, 0x3A, 0x43, 0x44, 0x45, 0x46, 0x47, 0x48, 0x49,
    0x4A, 0x53, 0x54, 0x55, 0x56, 0x57, 0x58, 0x59, 0x5A, 0x63, 0x64, 0x65, 0x66, 0x67, 0x68, 0x69,
    0x6A, 0x73, 0x74, 0x75, 0x76, 0x77, 0x78, 0x79, 0x7A, 0x83, 0x84, 0x85, 0x86, 0x87, 0x88, 0x89,
    0x8A, 0x92, 0x93, 0x94, 0x95, 0x96, 0x97, 0x98, 0x99, 0x9A, 0xA2, 0xA3, 0xA4, 0xA5, 0xA6, 0xA7,
    0xA8, 0xA9, 0xAA, 0xB2, 0xB3, 0xB4, 0xB5, 0xB6, 0xB7, 0xB8, 0xB9, 0xBA, 0xC2, 0xC3, 0xC4, 0xC5,
    0xC6, 0xC7, 0xC8, 0xC9, 0xCA, 0xD2, 0xD3, 0xD4, 0xD5, 0xD6, 0xD7, 0xD8, 0xD9, 0xDA, 0xE1, 0xE2,
    0xE3, 0xE4, 0xE5, 0xE6, 0xE7, 0xE8, 0xE9, 0xEA, 0xF1, 0xF2, 0xF3, 0xF4, 0xF5, 0xF6, 0xF7, 0xF8,
    0xF9, 0xFA]

namespace PrefixCode

def lengths (code : PrefixCode) : List Nat :=
  code.counts.zipIdx.flatMap fun (count, i) => List.replicate count (i + 1)

/-- Gives each symbol its word, as length and number; each word is the next free one of its length. -/
def assign (table : Array (Nat × Nat)) (length word : Nat) : List (Nat × Nat) → Array (Nat × Nat)
  | [] => table
  | (symbol, longer) :: rest =>
    let word := word * Nat.pow 2 (longer - length)
    assign (table.setIfInBounds symbol (longer, word)) longer (word + 1) rest

def words (code : PrefixCode) : Array (Nat × Nat) :=
  assign (Array.replicate 256 (0, 0)) 0 0 (code.symbols.zip code.lengths)

end PrefixCode

/-- Bits that fill octets from the high end; an octet of ones is followed by a zero. -/
structure Bits where
  held : Nat
  count : Nat
  out : ByteArray

namespace Bits

def push : Bits → Bool → Bits
  | ⟨held, count, out⟩, bit =>
    let held := 2 * held + bit.toNat
    if count < 7 then ⟨held, count + 1, out⟩
    else if held = 255 then ⟨0, 0, (out.push 255).push 0⟩
    else ⟨0, 0, out.push (UInt8.ofNat held)⟩

/-- Adds the low bits of a number, the highest first. -/
def number (n : Nat) : Nat → Bits → Bits
  | 0, bits => bits
  | width + 1, bits => number n width (bits.push (n.testBit width))

/-- Fills the last octet with ones. -/
def finish (bits : Bits) : ByteArray :=
  if bits.count = 0 then bits.out else (number 127 (8 - bits.count) bits).out

end Bits

/-- Half the cosine of `m` sixteenths of a half turn, in units of 1/8192. -/
def halfCosine (m : Nat) : Int :=
  let table : Array Int := #[4096, 4017, 3784, 3406, 2896, 2276, 1567, 799, 0]
  if m ≤ 8 then table.getD m 0
  else if m ≤ 16 then -table.getD (16 - m) 0
  else if m ≤ 24 then -table.getD (m - 16) 0
  else table.getD (32 - m) 0

/-- The weight of the sample `x` in the frequency `u`. -/
def weight (u x : Nat) : Int := if u = 0 then 2896 else halfCosine ((2 * x + 1) * u % 32)

def weights : Array Int := Array.ofFn fun i : Fin 64 => weight (i.val / 8) (i.val % 8)

/-- The frequencies along one line of eight samples. -/
def frequencies (sample : Nat → Int) : Array Int :=
  Array.ofFn fun u : Fin 8 =>
    (List.range 8).foldl (fun sum x => sum + sample x * weights.getD (8 * u.val + x) 0) 0

/-- The frequencies of a block, row by row, in units of 2 ^ -26. -/
def blockFrequencies (sample : Nat → Nat → Int) : Array Int :=
  let rows : Array (Array Int) := Array.ofFn fun y : Fin 8 => frequencies fun x => sample x y.val
  let columns : Array (Array Int) := Array.ofFn fun u : Fin 8 =>
    frequencies fun y => (rows.getD y #[]).getD u.val 0
  Array.ofFn fun i : Fin 64 => (columns.getD (i.val % 8) #[]).getD (i.val / 8) 0

/-- Rounds to the nearest multiple of a step, as a count of steps. -/
def rounded (value : Int) (step : Nat) : Int :=
  let unit := step * Nat.pow 2 26
  let count := (value.natAbs + unit / 2) / unit
  if value < 0 then -count else count

def quantized (sample : Nat → Nat → Int) : List Int :=
  let block := blockFrequencies sample
  zigzag.toList.map fun i => rounded (block.getD i 0) (steps.getD i 1)

/-- How many bits a number takes, its sign aside. -/
def bitCount (value : Int) : Nat := if value = 0 then 0 else value.natAbs.log2 + 1

/-- Writes a symbol and the bits of the number that it announces. Negative numbers are one's
complements. -/
def writeNumber (words : Array (Nat × Nat)) (symbol : Nat) (value : Int) (bits : Bits) : Bits :=
  let (length, word) := words.getD symbol (0, 0)
  let size := bitCount value
  let digits := if value < 0 then Nat.pow 2 size - 1 - value.natAbs else value.natAbs
  (bits.number word length).number digits size

/-- Writes the higher frequencies of a block; `zeros` of them have been passed. -/
def writeOthers (words : Array (Nat × Nat)) : Nat → List Int → Bits → Bits
  | zeros, [], bits => if zeros = 0 then bits else writeNumber words 0 0 bits
  | zeros, value :: rest, bits =>
    if value = 0 then writeOthers words (zeros + 1) rest bits
    else
      let bits := (List.range (zeros / 16)).foldl (fun bits _ => writeNumber words 0xF0 0 bits) bits
      writeOthers words 0 rest (writeNumber words (zeros % 16 * 16 + bitCount value) value bits)

/-- Writes a block after one whose lowest frequency is `last`. -/
def writeBlock (lowest others : Array (Nat × Nat)) (last : Int) (block : List Int) (bits : Bits) :
    Int × Bits :=
  let value := block.headD 0
  let bits := writeNumber lowest (bitCount (value - last)) (value - last) bits
  (value, writeOthers others 0 (block.drop 1) bits)

/-- A grey value around zero. Outside the picture the nearest pixel counts. -/
def sampleAt (image : GrayImage) (x y : Nat) : Int :=
  (image.luma (min x (image.width - 1)) (min y (image.height - 1))).toNat - 128

/-- All blocks, row by row. -/
def scan (image : GrayImage) : ByteArray :=
  let lowest := lowestCode.words
  let others := otherCode.words
  let across := (image.width + 7) / 8
  let down := (image.height + 7) / 8
  let state := (across * down).fold (fun i _ (state : Int × Bits) =>
    let block := quantized fun x y =>
      sampleAt image (i % across * 8 + x) (i / across * 8 + y)
    writeBlock lowest others state.1 block state.2) (0, ⟨0, 0, .empty⟩)
  state.2.finish

def segment (marker : UInt8) (content : Octets) : Octets :=
  [0xFF, marker] ++ bigEndian16 (content.length + 2) ++ content

def codeSegment (index : UInt8) (code : PrefixCode) : Octets :=
  segment 0xC4 (index :: (code.counts ++ code.symbols).map UInt8.ofNat)

def encode (image : GrayImage) : ByteArray :=
  let stepsInOrder := zigzag.toList.map fun i => UInt8.ofNat (steps.getD i 1)
  let opening : Octets := [0xFF, 0xD8] ++
    segment 0xE0 ("JFIF".toUTF8.toList ++ [0, 1, 2, 0, 0, 1, 0, 1, 0, 0]) ++
    segment 0xDB (0 :: stepsInOrder) ++
    segment 0xC0 ([8] ++ bigEndian16 image.height ++ bigEndian16 image.width ++ [1, 1, 0x11, 0]) ++
    codeSegment 0 lowestCode ++ codeSegment 0x10 otherCode ++ segment 0xDA [1, 1, 0, 0, 63, 0]
  append (append .empty opening ++ scan image) [0xFF, 0xD9]

end LabelStream.ImageFile.Jpeg
