import Sha1dc.Bits

/-!
# The vector wrappers of `x86.h`

Registers are vectors of lanes, lane 0 in the lowest bits; each wrapper does what the instruction set
manual says of the instruction behind its intrinsic.
-/

namespace Sha1dc
open Checked

abbrev V16u8 := Vector Byte 16

abbrev V4u32 := Vector Word 4

abbrev V64u8 := Vector Byte 64

abbrev V16u32 := Vector Word 16

/-! ### 128-bit registers -/

/-- `_mm_loadu_si128` of the 16 bytes at `p` -/
def loaduV16u8 (m : Block) (p : Nat) : Chk V16u8 :=
  if h : p + 16 ≤ 64 then pure (.ofFn fun l => m[p + l.val]) else .error .outOfBounds

/-- `(v4u32)x`, on a little-endian machine -/
def castV4u32 (x : V16u8) : V4u32 :=
  .ofFn fun l => x[4 * l.val + 3] ++ x[4 * l.val + 2] ++ x[4 * l.val + 1] ++ x[4 * l.val]

/-- `_mm_shuffle_epi8`: an index with its top bit set clears the lane. -/
def indexV16u8 (x i : V16u8) : V16u8 :=
  .ofFn fun l => if i[l].getLsbD 7 then 0 else x[i[l].toNat % 16]

/-- `_mm_shuffle_epi32`: two bits of the immediate for each lane. -/
def indexV4u32 (x : V4u32) (i : Byte) : V4u32 :=
  .ofFn fun l => x[(i >>> (2 * l.val)).toNat % 4]

def orV4u32 (x y : V4u32) : V4u32 := .zipWith (· ||| ·) x y

def xorV4u32 (x y : V4u32) : V4u32 := .zipWith (· ^^^ ·) x y

/-- `_mm_ternarylogic_epi32`: bit `4x + 2y + z` of the immediate, bit by bit. -/
def ternarylogicV4u32 (x y z : V4u32) (imm : Byte) : V4u32 :=
  .ofFn fun l => (List.range 8).foldl (fun (acc : Word) k =>
    if imm.getLsbD k then
      acc ||| ((if k.testBit 2 then x[l] else ~~~x[l]) &&& (if k.testBit 1 then y[l] else ~~~y[l]) &&&
        (if k.testBit 0 then z[l] else ~~~z[l]))
    else acc) 0

/-- The first operand is undefined; `_MM_TERNLOG_B` is `0xCC` and `_MM_TERNLOG_C` is `0xAA`. -/
def norV4u32 (undefined x y : V4u32) : V4u32 := ternarylogicV4u32 undefined x y (~~~(0xCC ||| 0xAA))

/-! ### 512-bit registers -/

/-- `_mm512_loadu_epi8` of the 64 bytes at `&W[p]`, on a little-endian machine -/
def loaduV64u8 (W : ExpandedBlock) (p : Nat) : Chk V64u8 :=
  if h : p + 16 ≤ 80 then
    pure (.ofFn fun l => W[p + l.val / 4].extractLsb' (8 * (l.val % 4)) 8)
  else .error .outOfBounds

/-- `_mm512_permutex2var_epi8`: bit 6 of an index chooses the register. -/
def index2V64u8 (lo hi i : V64u8) : V64u8 :=
  .ofFn fun l =>
    if i[l].getLsbD 6 then hi[i[l].toNat % 64]
    else lo[i[l].toNat % 64]

/-- `_mm512_test_epi8_mask` -/
def testV64u8 (x y : V64u8) : BitVec 64 :=
  (BitVec.ofBoolListLE (Vector.zipWith (fun a b => (a &&& b) != 0) x y).toList).setWidth 64

/-- `_mm512_maskz_load_epi32`, whose mask keeps the low 16 bits of `k` -/
def loadZv16u32 (k : BitVec 64) (p : V16u32) : V16u32 :=
  .ofFn fun l => if k.getLsbD l then p[l] else 0

/-- `_mm512_mask_or_epi32`, whose mask keeps the low 16 bits of `k` -/
def orMv16u32 (dst : V16u32) (k : BitVec 64) (src1 src2 : V16u32) : V16u32 :=
  .ofFn fun l => if k.getLsbD l then src1[l] ||| src2[l] else dst[l]

/-- The upper and lower halves, `or`ed. -/
def orHalvesV16u32 (x : V16u32) : Vector Word 8 :=
  .ofFn fun l => x[l.val] ||| x[l.val + 8]

def orHalvesV8u32 (x : Vector Word 8) : V4u32 :=
  .ofFn fun l => x[l.val] ||| x[l.val + 4]

/-- `nor_rv16u32_vl`, as it is with optimization and without; `undefined` is the operand of the
ternary instruction that is left undefined. -/
def norRv16u32Vl (optimize : Bool) (undefined : V4u32) (x : V16u32) : Word :=
  if optimize then
    let half := orHalvesV16u32 x
    let qrter := orHalvesV8u32 half
    let eiths := orV4u32 qrter (indexV4u32 qrter 0b01001110)
    let stnths := norV4u32 undefined eiths (indexV4u32 eiths 0b10110001)
    stnths.getD 0 0
  else ~~~x.foldl (· ||| ·) 0

end Sha1dc
