import Sha1dc.X86

/-!
# The AVX-512 tables of `parse_bitrel.inc`

The unavoidable bit conditions once more, as `sha1dc_ubc_check_avx512` wants them: 64 conditions to a
row, with the bytes that the two bits are in, the bits within the bytes, the signs packed into a word
and the masks in chunks of 16. The last row is not full.
-/

namespace Sha1dc

/-- An initializer; what it leaves out is zero. -/
def initOf {α : Type} [OfNat α 0] {n : Nat} (l : List α) : Vector α n := .ofFn fun i => l.getD i 0

abbrev avx512Bias : Nat := 35

def avx512V64ubcAs : Vector V64u8 3 := #v[
  initOf [
    39, 32, 36, 55, 48, 4, 47, 16, 20, 24, 23, 51, 59, 40, 36, 43,
    40, 44, 24, 28, 0, 16, 20, 20, 8, 24, 12, 28, 32, 36, 52, 44,
    48, 71, 28, 35, 8, 52, 48, 63, 12, 31, 8, 40, 79, 44, 104, 67,
    16, 60, 12, 40, 8, 44, 56, 60, 75, 20, 39, 83, 28, 24, 4, 16],
  initOf [
    52, 12, 4, 4, 8, 27, 20, 16, 0, 48, 60, 64, 64, 68, 76, 108,
    112, 12, 16, 43, 32, 56, 8, 64, 68, 68, 72, 72, 100, 80, 87, 55,
    67, 56, 51, 72, 76, 80, 84, 91, 92, 112, 47, 63, 75, 0, 87, 64,
    96, 96, 104, 12, 95, 24, 8, 32, 100, 104, 108, 59, 20, 28, 80, 83],
  initOf [
    88, 0, 100, 108, 112, 12, 7, 88, 92, 99, 96, 15, 36, 71, 12, 19,
    32, 8, 28, 3, 36, 24, 11, 16, 4, 4, 20, 8]]

def avx512V64ubcBs : Vector V64u8 3 := #v[
  initOf [
    43, 47, 51, 59, 63, 8, 51, 20, 24, 28, 27, 55, 63, 48, 44, 47,
    55, 59, 28, 32, 4, 31, 24, 35, 23, 39, 27, 36, 40, 40, 67, 48,
    52, 75, 43, 39, 12, 60, 56, 67, 16, 35, 27, 48, 83, 52, 108, 71,
    24, 75, 20, 44, 12, 52, 71, 64, 79, 28, 47, 87, 60, 32, 8, 35],
  initOf [
    56, 31, 23, 12, 16, 31, 28, 20, 19, 64, 76, 79, 80, 84, 91, 112,
    116, 20, 35, 51, 64, 60, 8, 72, 76, 83, 80, 87, 104, 95, 91, 63,
    75, 64, 59, 76, 80, 84, 99, 95, 96, 116, 55, 71, 87, 19, 99, 68,
    100, 115, 108, 31, 99, 43, 27, 51, 119, 108, 112, 67, 39, 47, 88, 91],
  initOf [
    99, 19, 119, 112, 116, 31, 8, 107, 111, 103, 115, 16, 55, 79, 16, 20,
    51, 27, 47, 4, 55, 43, 12, 35, 8, 23, 39, 12]]

def avx512V64ubcMs : Vector V64u8 3 := #v[
  initOf ([
    5, 4, 4, 5, 4, 1, 5, 1, 1, 1, 5, 5, 5, 6, 6, 5,
    4, 4, 6, 6, 1, 4, 6, 4, 4, 4, 4, 6, 6, 1, 4, 6,
    6, 5, 4, 5, 1, 6, 6, 5, 0, 5, 5, 1, 5, 6, 2, 5,
    4, 4, 1, 6, 0, 1, 4, 6, 5, 4, 5, 5, 1, 6, 0, 5].map (1 <<< ·)),
  initOf ([
    6, 5, 4, 4, 4, 5, 6, 6, 5, 1, 1, 4, 1, 1, 4, 2,
    2, 4, 4, 5, 1, 6, 1, 6, 6, 4, 6, 4, 0, 4, 5, 5,
    5, 6, 5, 6, 6, 6, 4, 5, 0, 1, 5, 5, 5, 4, 5, 6,
    0, 5, 0, 4, 5, 3, 4, 4, 5, 1, 0, 5, 3, 4, 4, 5].map (1 <<< ·)),
  initOf ([
    4, 3, 4, 1, 0, 3, 6, 4, 4, 5, 4, 6, 3, 5, 4, 6,
    3, 3, 3, 6, 4, 4, 6, 3, 4, 3, 4, 4].map (1 <<< ·))]

def avx512V64ubcNs : Vector V64u8 3 := #v[
  initOf ([
    5, 5, 5, 5, 5, 6, 5, 6, 6, 6, 5, 5, 5, 6, 6, 5,
    5, 5, 1, 1, 6, 5, 1, 5, 5, 5, 5, 6, 6, 6, 5, 1,
    1, 5, 5, 5, 6, 6, 6, 5, 5, 5, 6, 1, 5, 6, 7, 5,
    4, 5, 1, 1, 5, 1, 5, 1, 5, 4, 5, 5, 1, 6, 5, 6].map (1 <<< ·)),
  initOf ([
    1, 6, 5, 4, 4, 5, 6, 1, 6, 1, 1, 5, 1, 1, 5, 7,
    7, 4, 5, 5, 1, 1, 6, 6, 6, 5, 6, 5, 5, 5, 5, 5,
    5, 6, 5, 1, 1, 1, 5, 5, 5, 6, 5, 5, 5, 5, 5, 1,
    5, 6, 5, 5, 5, 4, 5, 5, 6, 6, 5, 5, 4, 5, 4, 5].map (1 <<< ·)),
  initOf ([
    5, 4, 5, 6, 5, 4, 3, 5, 5, 5, 5, 3, 4, 5, 4, 3,
    4, 4, 4, 3, 5, 5, 3, 4, 4, 4, 5, 4].map (1 <<< ·))]

def avx512V64ubcCs : Vector (BitVec 64) 3 := #v[
  0b0101011000110101010010010001000000100000000100000000001110100000,
  0b1100111000000101010111110000010110010000000110111011011000011000,
  0b1001010010001110100001011000]

def avx512V64ubcDvmasks : Vector (Vector V16u32 4) 3 := #v[
  #v[
    initOf [
      0x0283a080, 0x08080225, 0x1010088a, 0x60a08004, 0x82012220, 0x00041040, 0x18180801, 0x00401010,
      0x01004040, 0x04040100, 0x800a00a2, 0x30302002, 0xc2810008, 0x00004440, 0x00001110, 0x0a0a8200],
    initOf [
      0x20202224, 0x40808888, 0x01004000, 0x04040000, 0x00000410, 0x40100205, 0x00401000, 0x8020080a,
      0x50020021, 0x00812025, 0xa0080082, 0x00000110, 0x00000440, 0x00404000, 0x08028880, 0x01000010],
    initOf [
      0x04000040, 0x30110200, 0x0202808a, 0x00a12820, 0x00004100, 0x00041000, 0x00004400, 0x8a020020,
      0x04000000, 0x00300a08, 0x00400000, 0x01000000, 0xc0882000, 0x00001100, 0x00040010, 0x18080080],
    initOf [
      0x40000005, 0x20128800, 0x00000400, 0x00400000, 0x01000000, 0x04000000, 0x10092200, 0x00041000,
      0x60220800, 0x8000000a, 0x00000025, 0x82108000, 0x00000400, 0x00000040, 0x00400000, 0x04000000]],
  #v[
    initOf [
      0x00000100, 0x01000000, 0x00110208, 0x28000000, 0x50000001, 0x00180284, 0x00000010, 0x00000400,
      0x00004000, 0x00040000, 0x00400000, 0x40282000, 0x01000000, 0x04000000, 0x08800000, 0x00000040],
    initOf [
      0x00000100, 0xa0000002, 0x02008000, 0x0000008a, 0x00001000, 0x00000400, 0x00004000, 0x00400000,
      0x01000000, 0x80908000, 0x04000000, 0x02200000, 0x00010004, 0x12000000, 0x08200000, 0x00002220],
    initOf [
      0x00028800, 0x00004000, 0x00000888, 0x00400000, 0x01000000, 0x04000000, 0x28000000, 0x10800000,
      0x00000001, 0x00010004, 0x00000224, 0x00012200, 0x00308000, 0x00080084, 0x0a000000, 0x00004000],
    initOf [
      0x00000002, 0x00000001, 0x00020008, 0x00802000, 0x22000000, 0x10000000, 0x00200800, 0x40000000,
      0x00000002, 0x00000001, 0x00080020, 0x00008880, 0x08000000, 0x20000000, 0x10000000, 0x00800000]],
  #v[
    initOf [
      0x40000000, 0x00082000, 0x80000000, 0x00000002, 0x00100080, 0x00800000, 0x00200000, 0x10000000,
      0x20000000, 0x08000000, 0x40000000, 0x02000000, 0x80000000, 0x00082000, 0x00008000, 0x08000000],
    initOf [
      0x40000000, 0x00200000, 0x20000000, 0x00100000, 0x80000000, 0x10000000, 0x00800000, 0x02000000,
      0x00000800, 0x00100000, 0x08000000, 0x00002000],
    initOf [],
    initOf []]]

end Sha1dc
