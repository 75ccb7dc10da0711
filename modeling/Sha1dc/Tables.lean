import Sha1dc.Fips

/-!
# The tables of `parse_bitrel.inc`

The disturbance vectors, the states they are tested at and the unavoidable bit conditions, row by row
as the generated file has them. The `class`, `k` and `b` of a vector only name it and are its row's
comment here.
-/

namespace Sha1dc
open Fips

structure DisturbanceVector where
  testState : Nat
  messageMask : ExpandedBlock

/-- `struct sha1dc_ubc`, for masks of `nb` bytes; `c` is the one-bit signed field. -/
structure Ubc (nb : Nat) where
  a : Nat
  b : Nat
  i : Nat
  j : Nat
  c : BitVec 1
  dvmask : Vector Byte nb
deriving DecidableEq

def disturbanceVectors : Vector DisturbanceVector 32 := #v[
  -- I(43,0)
  ⟨58, #v[
    0x08000000, 0x9800000c, 0xd8000010, 0x08000010, 0xb8000010, 0x98000000, 0x60000000, 0x00000008,
    0xc0000000, 0x90000014, 0x10000010, 0xb8000014, 0x28000000, 0x20000010, 0x48000000, 0x08000018,
    0x60000000, 0x90000010, 0xf0000010, 0x90000008, 0xc0000000, 0x90000010, 0xf0000010, 0xb0000008,
    0x40000000, 0x90000000, 0xf0000010, 0x90000018, 0x60000000, 0x90000010, 0x90000010, 0x90000000,
    0x80000000, 0x00000010, 0xa0000000, 0x20000000, 0xa0000000, 0x20000010, 0x00000000, 0x20000010,
    0x20000000, 0x00000010, 0x20000000, 0x00000010, 0xa0000000, 0x00000000, 0x20000000, 0x20000000,
    0x00000000, 0x00000000, 0x00000000, 0x00000000, 0x00000000, 0x00000000, 0x00000000, 0x00000000,
    0x00000000, 0x00000000, 0x00000001, 0x00000020, 0x00000001, 0x40000002, 0x40000040, 0x40000002,
    0x80000004, 0x80000080, 0x80000006, 0x00000049, 0x00000103, 0x80000009, 0x80000012, 0x80000202,
    0x00000018, 0x00000164, 0x00000408, 0x800000e6, 0x8000004c, 0x00000803, 0x80000161, 0x80000599]⟩,
  -- I(44,0)
  ⟨58, #v[
    0xb4000008, 0x08000000, 0x9800000c, 0xd8000010, 0x08000010, 0xb8000010, 0x98000000, 0x60000000,
    0x00000008, 0xc0000000, 0x90000014, 0x10000010, 0xb8000014, 0x28000000, 0x20000010, 0x48000000,
    0x08000018, 0x60000000, 0x90000010, 0xf0000010, 0x90000008, 0xc0000000, 0x90000010, 0xf0000010,
    0xb0000008, 0x40000000, 0x90000000, 0xf0000010, 0x90000018, 0x60000000, 0x90000010, 0x90000010,
    0x90000000, 0x80000000, 0x00000010, 0xa0000000, 0x20000000, 0xa0000000, 0x20000010, 0x00000000,
    0x20000010, 0x20000000, 0x00000010, 0x20000000, 0x00000010, 0xa0000000, 0x00000000, 0x20000000,
    0x20000000, 0x00000000, 0x00000000, 0x00000000, 0x00000000, 0x00000000, 0x00000000, 0x00000000,
    0x00000000, 0x00000000, 0x00000000, 0x00000001, 0x00000020, 0x00000001, 0x40000002, 0x40000040,
    0x40000002, 0x80000004, 0x80000080, 0x80000006, 0x00000049, 0x00000103, 0x80000009, 0x80000012,
    0x80000202, 0x00000018, 0x00000164, 0x00000408, 0x800000e6, 0x8000004c, 0x00000803, 0x80000161]⟩,
  -- I(45,0)
  ⟨58, #v[
    0xf4000014, 0xb4000008, 0x08000000, 0x9800000c, 0xd8000010, 0x08000010, 0xb8000010, 0x98000000,
    0x60000000, 0x00000008, 0xc0000000, 0x90000014, 0x10000010, 0xb8000014, 0x28000000, 0x20000010,
    0x48000000, 0x08000018, 0x60000000, 0x90000010, 0xf0000010, 0x90000008, 0xc0000000, 0x90000010,
    0xf0000010, 0xb0000008, 0x40000000, 0x90000000, 0xf0000010, 0x90000018, 0x60000000, 0x90000010,
    0x90000010, 0x90000000, 0x80000000, 0x00000010, 0xa0000000, 0x20000000, 0xa0000000, 0x20000010,
    0x00000000, 0x20000010, 0x20000000, 0x00000010, 0x20000000, 0x00000010, 0xa0000000, 0x00000000,
    0x20000000, 0x20000000, 0x00000000, 0x00000000, 0x00000000, 0x00000000, 0x00000000, 0x00000000,
    0x00000000, 0x00000000, 0x00000000, 0x00000000, 0x00000001, 0x00000020, 0x00000001, 0x40000002,
    0x40000040, 0x40000002, 0x80000004, 0x80000080, 0x80000006, 0x00000049, 0x00000103, 0x80000009,
    0x80000012, 0x80000202, 0x00000018, 0x00000164, 0x00000408, 0x800000e6, 0x8000004c, 0x00000803]⟩,
  -- I(46,0)
  ⟨58, #v[
    0x2c000010, 0xf4000014, 0xb4000008, 0x08000000, 0x9800000c, 0xd8000010, 0x08000010, 0xb8000010,
    0x98000000, 0x60000000, 0x00000008, 0xc0000000, 0x90000014, 0x10000010, 0xb8000014, 0x28000000,
    0x20000010, 0x48000000, 0x08000018, 0x60000000, 0x90000010, 0xf0000010, 0x90000008, 0xc0000000,
    0x90000010, 0xf0000010, 0xb0000008, 0x40000000, 0x90000000, 0xf0000010, 0x90000018, 0x60000000,
    0x90000010, 0x90000010, 0x90000000, 0x80000000, 0x00000010, 0xa0000000, 0x20000000, 0xa0000000,
    0x20000010, 0x00000000, 0x20000010, 0x20000000, 0x00000010, 0x20000000, 0x00000010, 0xa0000000,
    0x00000000, 0x20000000, 0x20000000, 0x00000000, 0x00000000, 0x00000000, 0x00000000, 0x00000000,
    0x00000000, 0x00000000, 0x00000000, 0x00000000, 0x00000000, 0x00000001, 0x00000020, 0x00000001,
    0x40000002, 0x40000040, 0x40000002, 0x80000004, 0x80000080, 0x80000006, 0x00000049, 0x00000103,
    0x80000009, 0x80000012, 0x80000202, 0x00000018, 0x00000164, 0x00000408, 0x800000e6, 0x8000004c]⟩,
  -- I(46,2)
  ⟨58, #v[
    0xb0000040, 0xd0000053, 0xd0000022, 0x20000000, 0x60000032, 0x60000043, 0x20000040, 0xe0000042,
    0x60000002, 0x80000001, 0x00000020, 0x00000003, 0x40000052, 0x40000040, 0xe0000052, 0xa0000000,
    0x80000040, 0x20000001, 0x20000060, 0x80000001, 0x40000042, 0xc0000043, 0x40000022, 0x00000003,
    0x40000042, 0xc0000043, 0xc0000022, 0x00000001, 0x40000002, 0xc0000043, 0x40000062, 0x80000001,
    0x40000042, 0x40000042, 0x40000002, 0x00000002, 0x00000040, 0x80000002, 0x80000000, 0x80000002,
    0x80000040, 0x00000000, 0x80000040, 0x80000000, 0x00000040, 0x80000000, 0x00000040, 0x80000002,
    0x00000000, 0x80000000, 0x80000000, 0x00000000, 0x00000000, 0x00000000, 0x00000000, 0x00000000,
    0x00000000, 0x00000000, 0x00000000, 0x00000000, 0x00000000, 0x00000004, 0x00000080, 0x00000004,
    0x00000009, 0x00000101, 0x00000009, 0x00000012, 0x00000202, 0x0000001a, 0x00000124, 0x0000040c,
    0x00000026, 0x0000004a, 0x0000080a, 0x00000060, 0x00000590, 0x00001020, 0x0000039a, 0x00000132]⟩,
  -- I(47,0)
  ⟨58, #v[
    0xc8000010, 0x2c000010, 0xf4000014, 0xb4000008, 0x08000000, 0x9800000c, 0xd8000010, 0x08000010,
    0xb8000010, 0x98000000, 0x60000000, 0x00000008, 0xc0000000, 0x90000014, 0x10000010, 0xb8000014,
    0x28000000, 0x20000010, 0x48000000, 0x08000018, 0x60000000, 0x90000010, 0xf0000010, 0x90000008,
    0xc0000000, 0x90000010, 0xf0000010, 0xb0000008, 0x40000000, 0x90000000, 0xf0000010, 0x90000018,
    0x60000000, 0x90000010, 0x90000010, 0x90000000, 0x80000000, 0x00000010, 0xa0000000, 0x20000000,
    0xa0000000, 0x20000010, 0x00000000, 0x20000010, 0x20000000, 0x00000010, 0x20000000, 0x00000010,
    0xa0000000, 0x00000000, 0x20000000, 0x20000000, 0x00000000, 0x00000000, 0x00000000, 0x00000000,
    0x00000000, 0x00000000, 0x00000000, 0x00000000, 0x00000000, 0x00000000, 0x00000001, 0x00000020,
    0x00000001, 0x40000002, 0x40000040, 0x40000002, 0x80000004, 0x80000080, 0x80000006, 0x00000049,
    0x00000103, 0x80000009, 0x80000012, 0x80000202, 0x00000018, 0x00000164, 0x00000408, 0x800000e6]⟩,
  -- I(47,2)
  ⟨58, #v[
    0x20000043, 0xb0000040, 0xd0000053, 0xd0000022, 0x20000000, 0x60000032, 0x60000043, 0x20000040,
    0xe0000042, 0x60000002, 0x80000001, 0x00000020, 0x00000003, 0x40000052, 0x40000040, 0xe0000052,
    0xa0000000, 0x80000040, 0x20000001, 0x20000060, 0x80000001, 0x40000042, 0xc0000043, 0x40000022,
    0x00000003, 0x40000042, 0xc0000043, 0xc0000022, 0x00000001, 0x40000002, 0xc0000043, 0x40000062,
    0x80000001, 0x40000042, 0x40000042, 0x40000002, 0x00000002, 0x00000040, 0x80000002, 0x80000000,
    0x80000002, 0x80000040, 0x00000000, 0x80000040, 0x80000000, 0x00000040, 0x80000000, 0x00000040,
    0x80000002, 0x00000000, 0x80000000, 0x80000000, 0x00000000, 0x00000000, 0x00000000, 0x00000000,
    0x00000000, 0x00000000, 0x00000000, 0x00000000, 0x00000000, 0x00000000, 0x00000004, 0x00000080,
    0x00000004, 0x00000009, 0x00000101, 0x00000009, 0x00000012, 0x00000202, 0x0000001a, 0x00000124,
    0x0000040c, 0x00000026, 0x0000004a, 0x0000080a, 0x00000060, 0x00000590, 0x00001020, 0x0000039a]⟩,
  -- I(48,0)
  ⟨58, #v[
    0xb800000a, 0xc8000010, 0x2c000010, 0xf4000014, 0xb4000008, 0x08000000, 0x9800000c, 0xd8000010,
    0x08000010, 0xb8000010, 0x98000000, 0x60000000, 0x00000008, 0xc0000000, 0x90000014, 0x10000010,
    0xb8000014, 0x28000000, 0x20000010, 0x48000000, 0x08000018, 0x60000000, 0x90000010, 0xf0000010,
    0x90000008, 0xc0000000, 0x90000010, 0xf0000010, 0xb0000008, 0x40000000, 0x90000000, 0xf0000010,
    0x90000018, 0x60000000, 0x90000010, 0x90000010, 0x90000000, 0x80000000, 0x00000010, 0xa0000000,
    0x20000000, 0xa0000000, 0x20000010, 0x00000000, 0x20000010, 0x20000000, 0x00000010, 0x20000000,
    0x00000010, 0xa0000000, 0x00000000, 0x20000000, 0x20000000, 0x00000000, 0x00000000, 0x00000000,
    0x00000000, 0x00000000, 0x00000000, 0x00000000, 0x00000000, 0x00000000, 0x00000000, 0x00000001,
    0x00000020, 0x00000001, 0x40000002, 0x40000040, 0x40000002, 0x80000004, 0x80000080, 0x80000006,
    0x00000049, 0x00000103, 0x80000009, 0x80000012, 0x80000202, 0x00000018, 0x00000164, 0x00000408]⟩,
  -- I(48,2)
  ⟨58, #v[
    0xe000002a, 0x20000043, 0xb0000040, 0xd0000053, 0xd0000022, 0x20000000, 0x60000032, 0x60000043,
    0x20000040, 0xe0000042, 0x60000002, 0x80000001, 0x00000020, 0x00000003, 0x40000052, 0x40000040,
    0xe0000052, 0xa0000000, 0x80000040, 0x20000001, 0x20000060, 0x80000001, 0x40000042, 0xc0000043,
    0x40000022, 0x00000003, 0x40000042, 0xc0000043, 0xc0000022, 0x00000001, 0x40000002, 0xc0000043,
    0x40000062, 0x80000001, 0x40000042, 0x40000042, 0x40000002, 0x00000002, 0x00000040, 0x80000002,
    0x80000000, 0x80000002, 0x80000040, 0x00000000, 0x80000040, 0x80000000, 0x00000040, 0x80000000,
    0x00000040, 0x80000002, 0x00000000, 0x80000000, 0x80000000, 0x00000000, 0x00000000, 0x00000000,
    0x00000000, 0x00000000, 0x00000000, 0x00000000, 0x00000000, 0x00000000, 0x00000000, 0x00000004,
    0x00000080, 0x00000004, 0x00000009, 0x00000101, 0x00000009, 0x00000012, 0x00000202, 0x0000001a,
    0x00000124, 0x0000040c, 0x00000026, 0x0000004a, 0x0000080a, 0x00000060, 0x00000590, 0x00001020]⟩,
  -- I(49,0)
  ⟨58, #v[
    0x18000000, 0xb800000a, 0xc8000010, 0x2c000010, 0xf4000014, 0xb4000008, 0x08000000, 0x9800000c,
    0xd8000010, 0x08000010, 0xb8000010, 0x98000000, 0x60000000, 0x00000008, 0xc0000000, 0x90000014,
    0x10000010, 0xb8000014, 0x28000000, 0x20000010, 0x48000000, 0x08000018, 0x60000000, 0x90000010,
    0xf0000010, 0x90000008, 0xc0000000, 0x90000010, 0xf0000010, 0xb0000008, 0x40000000, 0x90000000,
    0xf0000010, 0x90000018, 0x60000000, 0x90000010, 0x90000010, 0x90000000, 0x80000000, 0x00000010,
    0xa0000000, 0x20000000, 0xa0000000, 0x20000010, 0x00000000, 0x20000010, 0x20000000, 0x00000010,
    0x20000000, 0x00000010, 0xa0000000, 0x00000000, 0x20000000, 0x20000000, 0x00000000, 0x00000000,
    0x00000000, 0x00000000, 0x00000000, 0x00000000, 0x00000000, 0x00000000, 0x00000000, 0x00000000,
    0x00000001, 0x00000020, 0x00000001, 0x40000002, 0x40000040, 0x40000002, 0x80000004, 0x80000080,
    0x80000006, 0x00000049, 0x00000103, 0x80000009, 0x80000012, 0x80000202, 0x00000018, 0x00000164]⟩,
  -- I(49,2)
  ⟨58, #v[
    0x60000000, 0xe000002a, 0x20000043, 0xb0000040, 0xd0000053, 0xd0000022, 0x20000000, 0x60000032,
    0x60000043, 0x20000040, 0xe0000042, 0x60000002, 0x80000001, 0x00000020, 0x00000003, 0x40000052,
    0x40000040, 0xe0000052, 0xa0000000, 0x80000040, 0x20000001, 0x20000060, 0x80000001, 0x40000042,
    0xc0000043, 0x40000022, 0x00000003, 0x40000042, 0xc0000043, 0xc0000022, 0x00000001, 0x40000002,
    0xc0000043, 0x40000062, 0x80000001, 0x40000042, 0x40000042, 0x40000002, 0x00000002, 0x00000040,
    0x80000002, 0x80000000, 0x80000002, 0x80000040, 0x00000000, 0x80000040, 0x80000000, 0x00000040,
    0x80000000, 0x00000040, 0x80000002, 0x00000000, 0x80000000, 0x80000000, 0x00000000, 0x00000000,
    0x00000000, 0x00000000, 0x00000000, 0x00000000, 0x00000000, 0x00000000, 0x00000000, 0x00000000,
    0x00000004, 0x00000080, 0x00000004, 0x00000009, 0x00000101, 0x00000009, 0x00000012, 0x00000202,
    0x0000001a, 0x00000124, 0x0000040c, 0x00000026, 0x0000004a, 0x0000080a, 0x00000060, 0x00000590]⟩,
  -- I(50,0)
  ⟨58, #v[
    0x0800000c, 0x18000000, 0xb800000a, 0xc8000010, 0x2c000010, 0xf4000014, 0xb4000008, 0x08000000,
    0x9800000c, 0xd8000010, 0x08000010, 0xb8000010, 0x98000000, 0x60000000, 0x00000008, 0xc0000000,
    0x90000014, 0x10000010, 0xb8000014, 0x28000000, 0x20000010, 0x48000000, 0x08000018, 0x60000000,
    0x90000010, 0xf0000010, 0x90000008, 0xc0000000, 0x90000010, 0xf0000010, 0xb0000008, 0x40000000,
    0x90000000, 0xf0000010, 0x90000018, 0x60000000, 0x90000010, 0x90000010, 0x90000000, 0x80000000,
    0x00000010, 0xa0000000, 0x20000000, 0xa0000000, 0x20000010, 0x00000000, 0x20000010, 0x20000000,
    0x00000010, 0x20000000, 0x00000010, 0xa0000000, 0x00000000, 0x20000000, 0x20000000, 0x00000000,
    0x00000000, 0x00000000, 0x00000000, 0x00000000, 0x00000000, 0x00000000, 0x00000000, 0x00000000,
    0x00000000, 0x00000001, 0x00000020, 0x00000001, 0x40000002, 0x40000040, 0x40000002, 0x80000004,
    0x80000080, 0x80000006, 0x00000049, 0x00000103, 0x80000009, 0x80000012, 0x80000202, 0x00000018]⟩,
  -- I(50,2)
  ⟨58, #v[
    0x20000030, 0x60000000, 0xe000002a, 0x20000043, 0xb0000040, 0xd0000053, 0xd0000022, 0x20000000,
    0x60000032, 0x60000043, 0x20000040, 0xe0000042, 0x60000002, 0x80000001, 0x00000020, 0x00000003,
    0x40000052, 0x40000040, 0xe0000052, 0xa0000000, 0x80000040, 0x20000001, 0x20000060, 0x80000001,
    0x40000042, 0xc0000043, 0x40000022, 0x00000003, 0x40000042, 0xc0000043, 0xc0000022, 0x00000001,
    0x40000002, 0xc0000043, 0x40000062, 0x80000001, 0x40000042, 0x40000042, 0x40000002, 0x00000002,
    0x00000040, 0x80000002, 0x80000000, 0x80000002, 0x80000040, 0x00000000, 0x80000040, 0x80000000,
    0x00000040, 0x80000000, 0x00000040, 0x80000002, 0x00000000, 0x80000000, 0x80000000, 0x00000000,
    0x00000000, 0x00000000, 0x00000000, 0x00000000, 0x00000000, 0x00000000, 0x00000000, 0x00000000,
    0x00000000, 0x00000004, 0x00000080, 0x00000004, 0x00000009, 0x00000101, 0x00000009, 0x00000012,
    0x00000202, 0x0000001a, 0x00000124, 0x0000040c, 0x00000026, 0x0000004a, 0x0000080a, 0x00000060]⟩,
  -- I(51,0)
  ⟨65, #v[
    0xe8000000, 0x0800000c, 0x18000000, 0xb800000a, 0xc8000010, 0x2c000010, 0xf4000014, 0xb4000008,
    0x08000000, 0x9800000c, 0xd8000010, 0x08000010, 0xb8000010, 0x98000000, 0x60000000, 0x00000008,
    0xc0000000, 0x90000014, 0x10000010, 0xb8000014, 0x28000000, 0x20000010, 0x48000000, 0x08000018,
    0x60000000, 0x90000010, 0xf0000010, 0x90000008, 0xc0000000, 0x90000010, 0xf0000010, 0xb0000008,
    0x40000000, 0x90000000, 0xf0000010, 0x90000018, 0x60000000, 0x90000010, 0x90000010, 0x90000000,
    0x80000000, 0x00000010, 0xa0000000, 0x20000000, 0xa0000000, 0x20000010, 0x00000000, 0x20000010,
    0x20000000, 0x00000010, 0x20000000, 0x00000010, 0xa0000000, 0x00000000, 0x20000000, 0x20000000,
    0x00000000, 0x00000000, 0x00000000, 0x00000000, 0x00000000, 0x00000000, 0x00000000, 0x00000000,
    0x00000000, 0x00000000, 0x00000001, 0x00000020, 0x00000001, 0x40000002, 0x40000040, 0x40000002,
    0x80000004, 0x80000080, 0x80000006, 0x00000049, 0x00000103, 0x80000009, 0x80000012, 0x80000202]⟩,
  -- I(51,2)
  ⟨65, #v[
    0xa0000003, 0x20000030, 0x60000000, 0xe000002a, 0x20000043, 0xb0000040, 0xd0000053, 0xd0000022,
    0x20000000, 0x60000032, 0x60000043, 0x20000040, 0xe0000042, 0x60000002, 0x80000001, 0x00000020,
    0x00000003, 0x40000052, 0x40000040, 0xe0000052, 0xa0000000, 0x80000040, 0x20000001, 0x20000060,
    0x80000001, 0x40000042, 0xc0000043, 0x40000022, 0x00000003, 0x40000042, 0xc0000043, 0xc0000022,
    0x00000001, 0x40000002, 0xc0000043, 0x40000062, 0x80000001, 0x40000042, 0x40000042, 0x40000002,
    0x00000002, 0x00000040, 0x80000002, 0x80000000, 0x80000002, 0x80000040, 0x00000000, 0x80000040,
    0x80000000, 0x00000040, 0x80000000, 0x00000040, 0x80000002, 0x00000000, 0x80000000, 0x80000000,
    0x00000000, 0x00000000, 0x00000000, 0x00000000, 0x00000000, 0x00000000, 0x00000000, 0x00000000,
    0x00000000, 0x00000000, 0x00000004, 0x00000080, 0x00000004, 0x00000009, 0x00000101, 0x00000009,
    0x00000012, 0x00000202, 0x0000001a, 0x00000124, 0x0000040c, 0x00000026, 0x0000004a, 0x0000080a]⟩,
  -- I(52,0)
  ⟨65, #v[
    0x04000010, 0xe8000000, 0x0800000c, 0x18000000, 0xb800000a, 0xc8000010, 0x2c000010, 0xf4000014,
    0xb4000008, 0x08000000, 0x9800000c, 0xd8000010, 0x08000010, 0xb8000010, 0x98000000, 0x60000000,
    0x00000008, 0xc0000000, 0x90000014, 0x10000010, 0xb8000014, 0x28000000, 0x20000010, 0x48000000,
    0x08000018, 0x60000000, 0x90000010, 0xf0000010, 0x90000008, 0xc0000000, 0x90000010, 0xf0000010,
    0xb0000008, 0x40000000, 0x90000000, 0xf0000010, 0x90000018, 0x60000000, 0x90000010, 0x90000010,
    0x90000000, 0x80000000, 0x00000010, 0xa0000000, 0x20000000, 0xa0000000, 0x20000010, 0x00000000,
    0x20000010, 0x20000000, 0x00000010, 0x20000000, 0x00000010, 0xa0000000, 0x00000000, 0x20000000,
    0x20000000, 0x00000000, 0x00000000, 0x00000000, 0x00000000, 0x00000000, 0x00000000, 0x00000000,
    0x00000000, 0x00000000, 0x00000000, 0x00000001, 0x00000020, 0x00000001, 0x40000002, 0x40000040,
    0x40000002, 0x80000004, 0x80000080, 0x80000006, 0x00000049, 0x00000103, 0x80000009, 0x80000012]⟩,
  -- II(45,0)
  ⟨58, #v[
    0xec000014, 0x0c000002, 0xc0000010, 0xb400001c, 0x2c000004, 0xbc000018, 0xb0000010, 0x0000000c,
    0xb8000010, 0x08000018, 0x78000010, 0x08000014, 0x70000010, 0xb800001c, 0xe8000000, 0xb0000004,
    0x58000010, 0xb000000c, 0x48000000, 0xb0000000, 0xb8000010, 0x98000010, 0xa0000000, 0x00000000,
    0x00000000, 0x20000000, 0x80000000, 0x00000010, 0x00000000, 0x20000010, 0x20000000, 0x00000010,
    0x60000000, 0x00000018, 0xe0000000, 0x90000000, 0x30000010, 0xb0000000, 0x20000000, 0x20000000,
    0xa0000000, 0x00000010, 0x80000000, 0x20000000, 0x20000000, 0x20000000, 0x80000000, 0x00000010,
    0x00000000, 0x20000010, 0xa0000000, 0x00000000, 0x20000000, 0x20000000, 0x00000000, 0x00000000,
    0x00000000, 0x00000000, 0x00000000, 0x00000000, 0x00000001, 0x00000020, 0x00000001, 0x40000002,
    0x40000041, 0x40000022, 0x80000005, 0xc0000082, 0xc0000046, 0x4000004b, 0x80000107, 0x00000089,
    0x00000014, 0x8000024b, 0x0000011b, 0x8000016d, 0x8000041a, 0x000002e4, 0x80000054, 0x00000967]⟩,
  -- II(46,0)
  ⟨58, #v[
    0x2400001c, 0xec000014, 0x0c000002, 0xc0000010, 0xb400001c, 0x2c000004, 0xbc000018, 0xb0000010,
    0x0000000c, 0xb8000010, 0x08000018, 0x78000010, 0x08000014, 0x70000010, 0xb800001c, 0xe8000000,
    0xb0000004, 0x58000010, 0xb000000c, 0x48000000, 0xb0000000, 0xb8000010, 0x98000010, 0xa0000000,
    0x00000000, 0x00000000, 0x20000000, 0x80000000, 0x00000010, 0x00000000, 0x20000010, 0x20000000,
    0x00000010, 0x60000000, 0x00000018, 0xe0000000, 0x90000000, 0x30000010, 0xb0000000, 0x20000000,
    0x20000000, 0xa0000000, 0x00000010, 0x80000000, 0x20000000, 0x20000000, 0x20000000, 0x80000000,
    0x00000010, 0x00000000, 0x20000010, 0xa0000000, 0x00000000, 0x20000000, 0x20000000, 0x00000000,
    0x00000000, 0x00000000, 0x00000000, 0x00000000, 0x00000000, 0x00000001, 0x00000020, 0x00000001,
    0x40000002, 0x40000041, 0x40000022, 0x80000005, 0xc0000082, 0xc0000046, 0x4000004b, 0x80000107,
    0x00000089, 0x00000014, 0x8000024b, 0x0000011b, 0x8000016d, 0x8000041a, 0x000002e4, 0x80000054]⟩,
  -- II(46,2)
  ⟨58, #v[
    0x90000070, 0xb0000053, 0x30000008, 0x00000043, 0xd0000072, 0xb0000010, 0xf0000062, 0xc0000042,
    0x00000030, 0xe0000042, 0x20000060, 0xe0000041, 0x20000050, 0xc0000041, 0xe0000072, 0xa0000003,
    0xc0000012, 0x60000041, 0xc0000032, 0x20000001, 0xc0000002, 0xe0000042, 0x60000042, 0x80000002,
    0x00000000, 0x00000000, 0x80000000, 0x00000002, 0x00000040, 0x00000000, 0x80000040, 0x80000000,
    0x00000040, 0x80000001, 0x00000060, 0x80000003, 0x40000002, 0xc0000040, 0xc0000002, 0x80000000,
    0x80000000, 0x80000002, 0x00000040, 0x00000002, 0x80000000, 0x80000000, 0x80000000, 0x00000002,
    0x00000040, 0x00000000, 0x80000040, 0x80000002, 0x00000000, 0x80000000, 0x80000000, 0x00000000,
    0x00000000, 0x00000000, 0x00000000, 0x00000000, 0x00000000, 0x00000004, 0x00000080, 0x00000004,
    0x00000009, 0x00000105, 0x00000089, 0x00000016, 0x0000020b, 0x0000011b, 0x0000012d, 0x0000041e,
    0x00000224, 0x00000050, 0x0000092e, 0x0000046c, 0x000005b6, 0x0000106a, 0x00000b90, 0x00000152]⟩,
  -- II(47,0)
  ⟨58, #v[
    0x20000010, 0x2400001c, 0xec000014, 0x0c000002, 0xc0000010, 0xb400001c, 0x2c000004, 0xbc000018,
    0xb0000010, 0x0000000c, 0xb8000010, 0x08000018, 0x78000010, 0x08000014, 0x70000010, 0xb800001c,
    0xe8000000, 0xb0000004, 0x58000010, 0xb000000c, 0x48000000, 0xb0000000, 0xb8000010, 0x98000010,
    0xa0000000, 0x00000000, 0x00000000, 0x20000000, 0x80000000, 0x00000010, 0x00000000, 0x20000010,
    0x20000000, 0x00000010, 0x60000000, 0x00000018, 0xe0000000, 0x90000000, 0x30000010, 0xb0000000,
    0x20000000, 0x20000000, 0xa0000000, 0x00000010, 0x80000000, 0x20000000, 0x20000000, 0x20000000,
    0x80000000, 0x00000010, 0x00000000, 0x20000010, 0xa0000000, 0x00000000, 0x20000000, 0x20000000,
    0x00000000, 0x00000000, 0x00000000, 0x00000000, 0x00000000, 0x00000000, 0x00000001, 0x00000020,
    0x00000001, 0x40000002, 0x40000041, 0x40000022, 0x80000005, 0xc0000082, 0xc0000046, 0x4000004b,
    0x80000107, 0x00000089, 0x00000014, 0x8000024b, 0x0000011b, 0x8000016d, 0x8000041a, 0x000002e4]⟩,
  -- II(48,0)
  ⟨58, #v[
    0xbc00001a, 0x20000010, 0x2400001c, 0xec000014, 0x0c000002, 0xc0000010, 0xb400001c, 0x2c000004,
    0xbc000018, 0xb0000010, 0x0000000c, 0xb8000010, 0x08000018, 0x78000010, 0x08000014, 0x70000010,
    0xb800001c, 0xe8000000, 0xb0000004, 0x58000010, 0xb000000c, 0x48000000, 0xb0000000, 0xb8000010,
    0x98000010, 0xa0000000, 0x00000000, 0x00000000, 0x20000000, 0x80000000, 0x00000010, 0x00000000,
    0x20000010, 0x20000000, 0x00000010, 0x60000000, 0x00000018, 0xe0000000, 0x90000000, 0x30000010,
    0xb0000000, 0x20000000, 0x20000000, 0xa0000000, 0x00000010, 0x80000000, 0x20000000, 0x20000000,
    0x20000000, 0x80000000, 0x00000010, 0x00000000, 0x20000010, 0xa0000000, 0x00000000, 0x20000000,
    0x20000000, 0x00000000, 0x00000000, 0x00000000, 0x00000000, 0x00000000, 0x00000000, 0x00000001,
    0x00000020, 0x00000001, 0x40000002, 0x40000041, 0x40000022, 0x80000005, 0xc0000082, 0xc0000046,
    0x4000004b, 0x80000107, 0x00000089, 0x00000014, 0x8000024b, 0x0000011b, 0x8000016d, 0x8000041a]⟩,
  -- II(49,0)
  ⟨58, #v[
    0x3c000004, 0xbc00001a, 0x20000010, 0x2400001c, 0xec000014, 0x0c000002, 0xc0000010, 0xb400001c,
    0x2c000004, 0xbc000018, 0xb0000010, 0x0000000c, 0xb8000010, 0x08000018, 0x78000010, 0x08000014,
    0x70000010, 0xb800001c, 0xe8000000, 0xb0000004, 0x58000010, 0xb000000c, 0x48000000, 0xb0000000,
    0xb8000010, 0x98000010, 0xa0000000, 0x00000000, 0x00000000, 0x20000000, 0x80000000, 0x00000010,
    0x00000000, 0x20000010, 0x20000000, 0x00000010, 0x60000000, 0x00000018, 0xe0000000, 0x90000000,
    0x30000010, 0xb0000000, 0x20000000, 0x20000000, 0xa0000000, 0x00000010, 0x80000000, 0x20000000,
    0x20000000, 0x20000000, 0x80000000, 0x00000010, 0x00000000, 0x20000010, 0xa0000000, 0x00000000,
    0x20000000, 0x20000000, 0x00000000, 0x00000000, 0x00000000, 0x00000000, 0x00000000, 0x00000000,
    0x00000001, 0x00000020, 0x00000001, 0x40000002, 0x40000041, 0x40000022, 0x80000005, 0xc0000082,
    0xc0000046, 0x4000004b, 0x80000107, 0x00000089, 0x00000014, 0x8000024b, 0x0000011b, 0x8000016d]⟩,
  -- II(49,2)
  ⟨58, #v[
    0xf0000010, 0xf000006a, 0x80000040, 0x90000070, 0xb0000053, 0x30000008, 0x00000043, 0xd0000072,
    0xb0000010, 0xf0000062, 0xc0000042, 0x00000030, 0xe0000042, 0x20000060, 0xe0000041, 0x20000050,
    0xc0000041, 0xe0000072, 0xa0000003, 0xc0000012, 0x60000041, 0xc0000032, 0x20000001, 0xc0000002,
    0xe0000042, 0x60000042, 0x80000002, 0x00000000, 0x00000000, 0x80000000, 0x00000002, 0x00000040,
    0x00000000, 0x80000040, 0x80000000, 0x00000040, 0x80000001, 0x00000060, 0x80000003, 0x40000002,
    0xc0000040, 0xc0000002, 0x80000000, 0x80000000, 0x80000002, 0x00000040, 0x00000002, 0x80000000,
    0x80000000, 0x80000000, 0x00000002, 0x00000040, 0x00000000, 0x80000040, 0x80000002, 0x00000000,
    0x80000000, 0x80000000, 0x00000000, 0x00000000, 0x00000000, 0x00000000, 0x00000000, 0x00000000,
    0x00000004, 0x00000080, 0x00000004, 0x00000009, 0x00000105, 0x00000089, 0x00000016, 0x0000020b,
    0x0000011b, 0x0000012d, 0x0000041e, 0x00000224, 0x00000050, 0x0000092e, 0x0000046c, 0x000005b6]⟩,
  -- II(50,0)
  ⟨65, #v[
    0xb400001c, 0x3c000004, 0xbc00001a, 0x20000010, 0x2400001c, 0xec000014, 0x0c000002, 0xc0000010,
    0xb400001c, 0x2c000004, 0xbc000018, 0xb0000010, 0x0000000c, 0xb8000010, 0x08000018, 0x78000010,
    0x08000014, 0x70000010, 0xb800001c, 0xe8000000, 0xb0000004, 0x58000010, 0xb000000c, 0x48000000,
    0xb0000000, 0xb8000010, 0x98000010, 0xa0000000, 0x00000000, 0x00000000, 0x20000000, 0x80000000,
    0x00000010, 0x00000000, 0x20000010, 0x20000000, 0x00000010, 0x60000000, 0x00000018, 0xe0000000,
    0x90000000, 0x30000010, 0xb0000000, 0x20000000, 0x20000000, 0xa0000000, 0x00000010, 0x80000000,
    0x20000000, 0x20000000, 0x20000000, 0x80000000, 0x00000010, 0x00000000, 0x20000010, 0xa0000000,
    0x00000000, 0x20000000, 0x20000000, 0x00000000, 0x00000000, 0x00000000, 0x00000000, 0x00000000,
    0x00000000, 0x00000001, 0x00000020, 0x00000001, 0x40000002, 0x40000041, 0x40000022, 0x80000005,
    0xc0000082, 0xc0000046, 0x4000004b, 0x80000107, 0x00000089, 0x00000014, 0x8000024b, 0x0000011b]⟩,
  -- II(50,2)
  ⟨65, #v[
    0xd0000072, 0xf0000010, 0xf000006a, 0x80000040, 0x90000070, 0xb0000053, 0x30000008, 0x00000043,
    0xd0000072, 0xb0000010, 0xf0000062, 0xc0000042, 0x00000030, 0xe0000042, 0x20000060, 0xe0000041,
    0x20000050, 0xc0000041, 0xe0000072, 0xa0000003, 0xc0000012, 0x60000041, 0xc0000032, 0x20000001,
    0xc0000002, 0xe0000042, 0x60000042, 0x80000002, 0x00000000, 0x00000000, 0x80000000, 0x00000002,
    0x00000040, 0x00000000, 0x80000040, 0x80000000, 0x00000040, 0x80000001, 0x00000060, 0x80000003,
    0x40000002, 0xc0000040, 0xc0000002, 0x80000000, 0x80000000, 0x80000002, 0x00000040, 0x00000002,
    0x80000000, 0x80000000, 0x80000000, 0x00000002, 0x00000040, 0x00000000, 0x80000040, 0x80000002,
    0x00000000, 0x80000000, 0x80000000, 0x00000000, 0x00000000, 0x00000000, 0x00000000, 0x00000000,
    0x00000000, 0x00000004, 0x00000080, 0x00000004, 0x00000009, 0x00000105, 0x00000089, 0x00000016,
    0x0000020b, 0x0000011b, 0x0000012d, 0x0000041e, 0x00000224, 0x00000050, 0x0000092e, 0x0000046c]⟩,
  -- II(51,0)
  ⟨65, #v[
    0xc0000010, 0xb400001c, 0x3c000004, 0xbc00001a, 0x20000010, 0x2400001c, 0xec000014, 0x0c000002,
    0xc0000010, 0xb400001c, 0x2c000004, 0xbc000018, 0xb0000010, 0x0000000c, 0xb8000010, 0x08000018,
    0x78000010, 0x08000014, 0x70000010, 0xb800001c, 0xe8000000, 0xb0000004, 0x58000010, 0xb000000c,
    0x48000000, 0xb0000000, 0xb8000010, 0x98000010, 0xa0000000, 0x00000000, 0x00000000, 0x20000000,
    0x80000000, 0x00000010, 0x00000000, 0x20000010, 0x20000000, 0x00000010, 0x60000000, 0x00000018,
    0xe0000000, 0x90000000, 0x30000010, 0xb0000000, 0x20000000, 0x20000000, 0xa0000000, 0x00000010,
    0x80000000, 0x20000000, 0x20000000, 0x20000000, 0x80000000, 0x00000010, 0x00000000, 0x20000010,
    0xa0000000, 0x00000000, 0x20000000, 0x20000000, 0x00000000, 0x00000000, 0x00000000, 0x00000000,
    0x00000000, 0x00000000, 0x00000001, 0x00000020, 0x00000001, 0x40000002, 0x40000041, 0x40000022,
    0x80000005, 0xc0000082, 0xc0000046, 0x4000004b, 0x80000107, 0x00000089, 0x00000014, 0x8000024b]⟩,
  -- II(51,2)
  ⟨65, #v[
    0x00000043, 0xd0000072, 0xf0000010, 0xf000006a, 0x80000040, 0x90000070, 0xb0000053, 0x30000008,
    0x00000043, 0xd0000072, 0xb0000010, 0xf0000062, 0xc0000042, 0x00000030, 0xe0000042, 0x20000060,
    0xe0000041, 0x20000050, 0xc0000041, 0xe0000072, 0xa0000003, 0xc0000012, 0x60000041, 0xc0000032,
    0x20000001, 0xc0000002, 0xe0000042, 0x60000042, 0x80000002, 0x00000000, 0x00000000, 0x80000000,
    0x00000002, 0x00000040, 0x00000000, 0x80000040, 0x80000000, 0x00000040, 0x80000001, 0x00000060,
    0x80000003, 0x40000002, 0xc0000040, 0xc0000002, 0x80000000, 0x80000000, 0x80000002, 0x00000040,
    0x00000002, 0x80000000, 0x80000000, 0x80000000, 0x00000002, 0x00000040, 0x00000000, 0x80000040,
    0x80000002, 0x00000000, 0x80000000, 0x80000000, 0x00000000, 0x00000000, 0x00000000, 0x00000000,
    0x00000000, 0x00000000, 0x00000004, 0x00000080, 0x00000004, 0x00000009, 0x00000105, 0x00000089,
    0x00000016, 0x0000020b, 0x0000011b, 0x0000012d, 0x0000041e, 0x00000224, 0x00000050, 0x0000092e]⟩,
  -- II(52,0)
  ⟨65, #v[
    0x0c000002, 0xc0000010, 0xb400001c, 0x3c000004, 0xbc00001a, 0x20000010, 0x2400001c, 0xec000014,
    0x0c000002, 0xc0000010, 0xb400001c, 0x2c000004, 0xbc000018, 0xb0000010, 0x0000000c, 0xb8000010,
    0x08000018, 0x78000010, 0x08000014, 0x70000010, 0xb800001c, 0xe8000000, 0xb0000004, 0x58000010,
    0xb000000c, 0x48000000, 0xb0000000, 0xb8000010, 0x98000010, 0xa0000000, 0x00000000, 0x00000000,
    0x20000000, 0x80000000, 0x00000010, 0x00000000, 0x20000010, 0x20000000, 0x00000010, 0x60000000,
    0x00000018, 0xe0000000, 0x90000000, 0x30000010, 0xb0000000, 0x20000000, 0x20000000, 0xa0000000,
    0x00000010, 0x80000000, 0x20000000, 0x20000000, 0x20000000, 0x80000000, 0x00000010, 0x00000000,
    0x20000010, 0xa0000000, 0x00000000, 0x20000000, 0x20000000, 0x00000000, 0x00000000, 0x00000000,
    0x00000000, 0x00000000, 0x00000000, 0x00000001, 0x00000020, 0x00000001, 0x40000002, 0x40000041,
    0x40000022, 0x80000005, 0xc0000082, 0xc0000046, 0x4000004b, 0x80000107, 0x00000089, 0x00000014]⟩,
  -- II(53,0)
  ⟨65, #v[
    0xcc000014, 0x0c000002, 0xc0000010, 0xb400001c, 0x3c000004, 0xbc00001a, 0x20000010, 0x2400001c,
    0xec000014, 0x0c000002, 0xc0000010, 0xb400001c, 0x2c000004, 0xbc000018, 0xb0000010, 0x0000000c,
    0xb8000010, 0x08000018, 0x78000010, 0x08000014, 0x70000010, 0xb800001c, 0xe8000000, 0xb0000004,
    0x58000010, 0xb000000c, 0x48000000, 0xb0000000, 0xb8000010, 0x98000010, 0xa0000000, 0x00000000,
    0x00000000, 0x20000000, 0x80000000, 0x00000010, 0x00000000, 0x20000010, 0x20000000, 0x00000010,
    0x60000000, 0x00000018, 0xe0000000, 0x90000000, 0x30000010, 0xb0000000, 0x20000000, 0x20000000,
    0xa0000000, 0x00000010, 0x80000000, 0x20000000, 0x20000000, 0x20000000, 0x80000000, 0x00000010,
    0x00000000, 0x20000010, 0xa0000000, 0x00000000, 0x20000000, 0x20000000, 0x00000000, 0x00000000,
    0x00000000, 0x00000000, 0x00000000, 0x00000000, 0x00000001, 0x00000020, 0x00000001, 0x40000002,
    0x40000041, 0x40000022, 0x80000005, 0xc0000082, 0xc0000046, 0x4000004b, 0x80000107, 0x00000089]⟩,
  -- II(54,0)
  ⟨65, #v[
    0x0400001c, 0xcc000014, 0x0c000002, 0xc0000010, 0xb400001c, 0x3c000004, 0xbc00001a, 0x20000010,
    0x2400001c, 0xec000014, 0x0c000002, 0xc0000010, 0xb400001c, 0x2c000004, 0xbc000018, 0xb0000010,
    0x0000000c, 0xb8000010, 0x08000018, 0x78000010, 0x08000014, 0x70000010, 0xb800001c, 0xe8000000,
    0xb0000004, 0x58000010, 0xb000000c, 0x48000000, 0xb0000000, 0xb8000010, 0x98000010, 0xa0000000,
    0x00000000, 0x00000000, 0x20000000, 0x80000000, 0x00000010, 0x00000000, 0x20000010, 0x20000000,
    0x00000010, 0x60000000, 0x00000018, 0xe0000000, 0x90000000, 0x30000010, 0xb0000000, 0x20000000,
    0x20000000, 0xa0000000, 0x00000010, 0x80000000, 0x20000000, 0x20000000, 0x20000000, 0x80000000,
    0x00000010, 0x00000000, 0x20000010, 0xa0000000, 0x00000000, 0x20000000, 0x20000000, 0x00000000,
    0x00000000, 0x00000000, 0x00000000, 0x00000000, 0x00000000, 0x00000001, 0x00000020, 0x00000001,
    0x40000002, 0x40000041, 0x40000022, 0x80000005, 0xc0000082, 0xc0000046, 0x4000004b, 0x80000107]⟩,
  -- II(55,0)
  ⟨65, #v[
    0x00000010, 0x0400001c, 0xcc000014, 0x0c000002, 0xc0000010, 0xb400001c, 0x3c000004, 0xbc00001a,
    0x20000010, 0x2400001c, 0xec000014, 0x0c000002, 0xc0000010, 0xb400001c, 0x2c000004, 0xbc000018,
    0xb0000010, 0x0000000c, 0xb8000010, 0x08000018, 0x78000010, 0x08000014, 0x70000010, 0xb800001c,
    0xe8000000, 0xb0000004, 0x58000010, 0xb000000c, 0x48000000, 0xb0000000, 0xb8000010, 0x98000010,
    0xa0000000, 0x00000000, 0x00000000, 0x20000000, 0x80000000, 0x00000010, 0x00000000, 0x20000010,
    0x20000000, 0x00000010, 0x60000000, 0x00000018, 0xe0000000, 0x90000000, 0x30000010, 0xb0000000,
    0x20000000, 0x20000000, 0xa0000000, 0x00000010, 0x80000000, 0x20000000, 0x20000000, 0x20000000,
    0x80000000, 0x00000010, 0x00000000, 0x20000010, 0xa0000000, 0x00000000, 0x20000000, 0x20000000,
    0x00000000, 0x00000000, 0x00000000, 0x00000000, 0x00000000, 0x00000000, 0x00000001, 0x00000020,
    0x00000001, 0x40000002, 0x40000041, 0x40000022, 0x80000005, 0xc0000082, 0xc0000046, 0x4000004b]⟩,
  -- II(56,0)
  ⟨65, #v[
    0x2600001a, 0x00000010, 0x0400001c, 0xcc000014, 0x0c000002, 0xc0000010, 0xb400001c, 0x3c000004,
    0xbc00001a, 0x20000010, 0x2400001c, 0xec000014, 0x0c000002, 0xc0000010, 0xb400001c, 0x2c000004,
    0xbc000018, 0xb0000010, 0x0000000c, 0xb8000010, 0x08000018, 0x78000010, 0x08000014, 0x70000010,
    0xb800001c, 0xe8000000, 0xb0000004, 0x58000010, 0xb000000c, 0x48000000, 0xb0000000, 0xb8000010,
    0x98000010, 0xa0000000, 0x00000000, 0x00000000, 0x20000000, 0x80000000, 0x00000010, 0x00000000,
    0x20000010, 0x20000000, 0x00000010, 0x60000000, 0x00000018, 0xe0000000, 0x90000000, 0x30000010,
    0xb0000000, 0x20000000, 0x20000000, 0xa0000000, 0x00000010, 0x80000000, 0x20000000, 0x20000000,
    0x20000000, 0x80000000, 0x00000010, 0x00000000, 0x20000010, 0xa0000000, 0x00000000, 0x20000000,
    0x20000000, 0x00000000, 0x00000000, 0x00000000, 0x00000000, 0x00000000, 0x00000000, 0x00000001,
    0x00000020, 0x00000001, 0x40000002, 0x40000041, 0x40000022, 0x80000005, 0xc0000082, 0xc0000046]⟩]

abbrev nDisturbanceVectors : Nat := 32

abbrev nNeededStates : Nat := 2

def needState : Vector Int 81 := #v[
  -1, -1, -1, -1, -1, -1, -1, -1,
  -1, -1, -1, -1, -1, -1, -1, -1,
  -1, -1, -1, -1, -1, -1, -1, -1,
  -1, -1, -1, -1, -1, -1, -1, -1,
  -1, -1, -1, -1, -1, -1, -1, -1,
  -1, -1, -1, -1, -1, -1, -1, -1,
  -1, -1, -1, -1, -1, -1, -1, -1,
  -1, -1, 0, -1, -1, -1, -1, -1,
  -1, 1, -1, -1, -1, -1, -1, -1,
  -1, -1, -1, -1, -1, -1, -1, -1,
  -1]

def ubcs : List (Ubc 4) := [
  ⟨44, 45, 29, 29, 0, #v[0x80, 0xa0, 0x83, 0x02]⟩,
  ⟨43, 46, 4, 29, 0, #v[0x25, 0x02, 0x08, 0x08]⟩,
  ⟨44, 47, 4, 29, 0, #v[0x8a, 0x08, 0x10, 0x10]⟩,
  ⟨48, 49, 29, 29, 0, #v[0x04, 0x80, 0xa0, 0x60]⟩,
  ⟨47, 50, 4, 29, 0, #v[0x20, 0x22, 0x01, 0x82]⟩,
  ⟨36, 37, 1, 6, -1, #v[0x40, 0x10, 0x04, 0x00]⟩,
  ⟨46, 47, 29, 29, 0, #v[0x01, 0x08, 0x18, 0x18]⟩,
  ⟨39, 40, 1, 6, -1, #v[0x10, 0x10, 0x40, 0x00]⟩,
  ⟨40, 41, 1, 6, -1, #v[0x40, 0x40, 0x00, 0x01]⟩,
  ⟨41, 42, 1, 6, -1, #v[0x00, 0x01, 0x04, 0x04]⟩,
  ⟨40, 41, 29, 29, 0, #v[0xa2, 0x00, 0x0a, 0x80]⟩,
  ⟨47, 48, 29, 29, 0, #v[0x02, 0x20, 0x30, 0x30]⟩,
  ⟨49, 50, 29, 29, 0, #v[0x08, 0x00, 0x81, 0xc2]⟩,
  ⟨45, 47, 6, 6, 0, #v[0x40, 0x44, 0x00, 0x00]⟩,
  ⟨44, 46, 6, 6, 0, #v[0x10, 0x11, 0x00, 0x00]⟩,
  ⟨45, 46, 29, 29, 0, #v[0x00, 0x82, 0x0a, 0x0a]⟩,
  ⟨45, 48, 4, 29, 0, #v[0x24, 0x22, 0x20, 0x20]⟩,
  ⟨46, 49, 4, 29, 0, #v[0x88, 0x88, 0x80, 0x40]⟩,
  ⟨41, 42, 6, 1, 0, #v[0x00, 0x40, 0x00, 0x01]⟩,
  ⟨42, 43, 6, 1, 0, #v[0x00, 0x00, 0x04, 0x04]⟩,
  ⟨35, 36, 1, 6, -1, #v[0x10, 0x04, 0x00, 0x00]⟩,
  ⟨39, 42, 4, 29, 0, #v[0x05, 0x02, 0x10, 0x40]⟩,
  ⟨40, 41, 6, 1, 0, #v[0x00, 0x10, 0x40, 0x00]⟩,
  ⟨40, 43, 4, 29, 0, #v[0x0a, 0x08, 0x20, 0x80]⟩,
  ⟨37, 40, 4, 29, 0, #v[0x21, 0x00, 0x02, 0x50]⟩,
  ⟨41, 44, 4, 29, 0, #v[0x25, 0x20, 0x81, 0x00]⟩,
  ⟨38, 41, 4, 29, 0, #v[0x82, 0x00, 0x08, 0xa0]⟩,
  ⟨42, 44, 6, 6, 0, #v[0x10, 0x01, 0x00, 0x00]⟩,
  ⟨43, 45, 6, 6, 0, #v[0x40, 0x04, 0x00, 0x00]⟩,
  ⟨44, 45, 1, 6, -1, #v[0x00, 0x40, 0x40, 0x00]⟩,
  ⟨48, 51, 4, 29, 0, #v[0x80, 0x88, 0x02, 0x08]⟩,
  ⟨46, 47, 6, 1, 0, #v[0x10, 0x00, 0x00, 0x01]⟩,
  ⟨47, 48, 6, 1, 0, #v[0x40, 0x00, 0x00, 0x04]⟩,
  ⟨52, 53, 29, 29, 0, #v[0x00, 0x02, 0x11, 0x30]⟩,
  ⟨42, 45, 4, 29, 0, #v[0x8a, 0x80, 0x02, 0x02]⟩,
  ⟨43, 44, 29, 29, 0, #v[0x20, 0x28, 0xa1, 0x00]⟩,
  ⟨37, 38, 1, 6, -1, #v[0x00, 0x41, 0x00, 0x00]⟩,
  ⟨48, 50, 6, 6, 0, #v[0x00, 0x10, 0x04, 0x00]⟩,
  ⟨47, 49, 6, 6, 0, #v[0x00, 0x44, 0x00, 0x00]⟩,
  ⟨50, 51, 29, 29, 0, #v[0x20, 0x00, 0x02, 0x8a]⟩,
  ⟨38, 39, 0, 5, -1, #v[0x00, 0x00, 0x00, 0x04]⟩,
  ⟨42, 43, 29, 29, 0, #v[0x08, 0x0a, 0x30, 0x00]⟩,
  ⟨37, 41, 5, 30, 0, #v[0x00, 0x00, 0x40, 0x00]⟩,
  ⟨45, 47, 1, 1, -1, #v[0x00, 0x00, 0x00, 0x01]⟩,
  ⟨54, 55, 29, 29, 0, #v[0x00, 0x20, 0x88, 0xc0]⟩,
  ⟨46, 48, 6, 6, 0, #v[0x00, 0x11, 0x00, 0x00]⟩,
  ⟨61, 62, 2, 7, -1, #v[0x10, 0x00, 0x04, 0x00]⟩,
  ⟨51, 52, 29, 29, 0, #v[0x80, 0x00, 0x08, 0x18]⟩,
  ⟨39, 41, 4, 4, -1, #v[0x05, 0x00, 0x00, 0x40]⟩,
  ⟨50, 53, 4, 29, 0, #v[0x00, 0x88, 0x12, 0x20]⟩,
  ⟨38, 40, 1, 1, -1, #v[0x00, 0x04, 0x00, 0x00]⟩,
  ⟨45, 46, 6, 1, 0, #v[0x00, 0x00, 0x40, 0x00]⟩,
  ⟨37, 38, 0, 5, -1, #v[0x00, 0x00, 0x00, 0x01]⟩,
  ⟨46, 48, 1, 1, -1, #v[0x00, 0x00, 0x00, 0x04]⟩,
  ⟨49, 52, 4, 29, 0, #v[0x00, 0x22, 0x09, 0x10]⟩,
  ⟨50, 51, 6, 1, 0, #v[0x00, 0x10, 0x04, 0x00]⟩,
  ⟨53, 54, 29, 29, 0, #v[0x00, 0x08, 0x22, 0x60]⟩,
  ⟨40, 42, 4, 4, -1, #v[0x0a, 0x00, 0x00, 0x80]⟩,
  ⟨44, 46, 29, 29, -1, #v[0x25, 0x00, 0x00, 0x00]⟩,
  ⟨55, 56, 29, 29, 0, #v[0x00, 0x80, 0x10, 0x82]⟩,
  ⟨42, 50, 1, 1, -1, #v[0x00, 0x04, 0x00, 0x00]⟩,
  ⟨41, 43, 6, 6, 0, #v[0x40, 0x00, 0x00, 0x00]⟩,
  ⟨36, 37, 0, 5, -1, #v[0x00, 0x00, 0x40, 0x00]⟩,
  ⟨39, 43, 5, 30, 0, #v[0x00, 0x00, 0x00, 0x04]⟩,
  ⟨48, 49, 6, 1, 0, #v[0x00, 0x01, 0x00, 0x00]⟩,
  ⟨38, 42, 5, 30, 0, #v[0x00, 0x00, 0x00, 0x01]⟩,
  ⟨36, 40, 4, 29, 0, #v[0x08, 0x02, 0x11, 0x00]⟩,
  ⟨36, 38, 4, 4, -1, #v[0x00, 0x00, 0x00, 0x28]⟩,
  ⟨37, 39, 4, 4, -1, #v[0x01, 0x00, 0x00, 0x50]⟩,
  ⟨41, 42, 29, 29, 0, #v[0x84, 0x02, 0x18, 0x00]⟩,
  ⟨40, 42, 6, 6, 0, #v[0x10, 0x00, 0x00, 0x00]⟩,
  ⟨39, 40, 6, 1, 0, #v[0x00, 0x04, 0x00, 0x00]⟩,
  ⟨35, 39, 5, 30, 0, #v[0x00, 0x40, 0x00, 0x00]⟩,
  ⟨47, 51, 1, 1, -1, #v[0x00, 0x00, 0x04, 0x00]⟩,
  ⟨50, 54, 1, 1, -1, #v[0x00, 0x00, 0x40, 0x00]⟩,
  ⟨51, 54, 4, 29, 0, #v[0x00, 0x20, 0x28, 0x40]⟩,
  ⟨51, 55, 1, 1, -1, #v[0x00, 0x00, 0x00, 0x01]⟩,
  ⟨52, 56, 1, 1, -1, #v[0x00, 0x00, 0x00, 0x04]⟩,
  ⟨54, 57, 4, 29, 0, #v[0x00, 0x00, 0x80, 0x08]⟩,
  ⟨62, 63, 2, 7, -1, #v[0x40, 0x00, 0x00, 0x00]⟩,
  ⟨63, 64, 2, 7, -1, #v[0x00, 0x01, 0x00, 0x00]⟩,
  ⟨38, 40, 4, 4, -1, #v[0x02, 0x00, 0x00, 0xa0]⟩,
  ⟨39, 43, 4, 29, 0, #v[0x00, 0x80, 0x00, 0x02]⟩,
  ⟨45, 47, 29, 29, -1, #v[0x8a, 0x00, 0x00, 0x00]⟩,
  ⟨43, 51, 1, 1, -1, #v[0x00, 0x10, 0x00, 0x00]⟩,
  ⟨49, 50, 6, 1, 0, #v[0x00, 0x04, 0x00, 0x00]⟩,
  ⟨37, 37, 1, 6, 0, #v[0x00, 0x40, 0x00, 0x00]⟩,
  ⟨51, 53, 6, 6, 0, #v[0x00, 0x00, 0x40, 0x00]⟩,
  ⟨52, 54, 6, 6, 0, #v[0x00, 0x00, 0x00, 0x01]⟩,
  ⟨52, 55, 4, 29, 0, #v[0x00, 0x80, 0x90, 0x80]⟩,
  ⟨53, 55, 6, 6, 0, #v[0x00, 0x00, 0x00, 0x04]⟩,
  ⟨53, 56, 4, 29, 0, #v[0x00, 0x00, 0x20, 0x02]⟩,
  ⟨60, 61, 0, 5, -1, #v[0x04, 0x00, 0x01, 0x00]⟩,
  ⟨55, 58, 4, 29, 0, #v[0x00, 0x00, 0x00, 0x12]⟩,
  ⟨56, 57, 29, 29, 0, #v[0x00, 0x00, 0x20, 0x08]⟩,
  ⟨48, 50, 29, 29, -1, #v[0x20, 0x22, 0x00, 0x00]⟩,
  ⟨51, 53, 29, 29, -1, #v[0x00, 0x88, 0x02, 0x00]⟩,
  ⟨49, 51, 6, 6, 0, #v[0x00, 0x40, 0x00, 0x00]⟩,
  ⟨47, 49, 29, 29, -1, #v[0x88, 0x08, 0x00, 0x00]⟩,
  ⟨53, 54, 6, 1, 0, #v[0x00, 0x00, 0x40, 0x00]⟩,
  ⟨54, 55, 6, 1, 0, #v[0x00, 0x00, 0x00, 0x01]⟩,
  ⟨55, 56, 6, 1, 0, #v[0x00, 0x00, 0x00, 0x04]⟩,
  ⟨56, 59, 4, 29, 0, #v[0x00, 0x00, 0x00, 0x28]⟩,
  ⟨57, 58, 29, 29, 0, #v[0x00, 0x00, 0x80, 0x10]⟩,
  ⟨58, 59, 0, 5, -1, #v[0x01, 0x00, 0x00, 0x00]⟩,
  ⟨63, 64, 1, 6, -1, #v[0x04, 0x00, 0x01, 0x00]⟩,
  ⟨46, 48, 29, 29, -1, #v[0x24, 0x02, 0x00, 0x00]⟩,
  ⟨50, 52, 29, 29, -1, #v[0x00, 0x22, 0x01, 0x00]⟩,
  ⟨53, 56, 29, 29, -1, #v[0x00, 0x80, 0x30, 0x00]⟩,
  ⟨35, 39, 4, 29, 0, #v[0x84, 0x00, 0x08, 0x00]⟩,
  ⟨56, 59, 29, 29, -1, #v[0x00, 0x00, 0x00, 0x0a]⟩,
  ⟨51, 52, 6, 1, 0, #v[0x00, 0x40, 0x00, 0x00]⟩,
  ⟨59, 60, 0, 5, -1, #v[0x02, 0x00, 0x00, 0x00]⟩,
  ⟨59, 63, 5, 30, 0, #v[0x01, 0x00, 0x00, 0x00]⟩,
  ⟨61, 62, 0, 5, -1, #v[0x08, 0x00, 0x02, 0x00]⟩,
  ⟨38, 42, 4, 29, 0, #v[0x00, 0x20, 0x80, 0x00]⟩,
  ⟨58, 59, 29, 29, 0, #v[0x00, 0x00, 0x00, 0x22]⟩,
  ⟨41, 45, 3, 28, 0, #v[0x00, 0x00, 0x00, 0x10]⟩,
  ⟨37, 41, 4, 29, 0, #v[0x00, 0x08, 0x20, 0x00]⟩,
  ⟨43, 47, 4, 29, 0, #v[0x00, 0x00, 0x00, 0x40]⟩,
  ⟨60, 64, 5, 30, 0, #v[0x02, 0x00, 0x00, 0x00]⟩,
  ⟨61, 62, 1, 6, -1, #v[0x01, 0x00, 0x00, 0x00]⟩,
  ⟨62, 63, 0, 5, -1, #v[0x20, 0x00, 0x08, 0x00]⟩,
  ⟨49, 51, 29, 29, -1, #v[0x80, 0x88, 0x00, 0x00]⟩,
  ⟨40, 44, 3, 28, 0, #v[0x00, 0x00, 0x00, 0x08]⟩,
  ⟨42, 46, 4, 29, 0, #v[0x00, 0x00, 0x00, 0x20]⟩,
  ⟨55, 57, 4, 4, -1, #v[0x00, 0x00, 0x00, 0x10]⟩,
  ⟨55, 57, 29, 29, -1, #v[0x00, 0x00, 0x80, 0x00]⟩,
  ⟨57, 59, 4, 29, 0, #v[0x00, 0x00, 0x00, 0x40]⟩,
  ⟨35, 39, 3, 28, 0, #v[0x00, 0x20, 0x08, 0x00]⟩,
  ⟨60, 64, 4, 29, 0, #v[0x00, 0x00, 0x00, 0x80]⟩,
  ⟨62, 63, 1, 6, -1, #v[0x02, 0x00, 0x00, 0x00]⟩,
  ⟨63, 64, 0, 5, -1, #v[0x80, 0x00, 0x10, 0x00]⟩,
  ⟨38, 42, 3, 28, 0, #v[0x00, 0x00, 0x80, 0x00]⟩,
  ⟨36, 37, 30, 3, -1, #v[0x00, 0x00, 0x20, 0x00]⟩,
  ⟨57, 61, 4, 29, 0, #v[0x00, 0x00, 0x00, 0x10]⟩,
  ⟨58, 62, 4, 29, 0, #v[0x00, 0x00, 0x00, 0x20]⟩,
  ⟨59, 60, 29, 29, 0, #v[0x00, 0x00, 0x00, 0x08]⟩,
  ⟨59, 63, 4, 29, 0, #v[0x00, 0x00, 0x00, 0x40]⟩,
  ⟨38, 39, 30, 3, -1, #v[0x00, 0x00, 0x00, 0x02]⟩,
  ⟨44, 48, 3, 28, 0, #v[0x00, 0x00, 0x00, 0x80]⟩,
  ⟨52, 54, 29, 29, -1, #v[0x00, 0x20, 0x08, 0x00]⟩,
  ⟨38, 39, 4, 4, -1, #v[0x00, 0x80, 0x00, 0x00]⟩,
  ⟨39, 40, 30, 3, -1, #v[0x00, 0x00, 0x00, 0x08]⟩,
  ⟨43, 47, 3, 28, 0, #v[0x00, 0x00, 0x00, 0x40]⟩,
  ⟨37, 41, 3, 28, 0, #v[0x00, 0x00, 0x20, 0x00]⟩,
  ⟨42, 46, 3, 28, 0, #v[0x00, 0x00, 0x00, 0x20]⟩,
  ⟨35, 36, 30, 3, -1, #v[0x00, 0x00, 0x10, 0x00]⟩,
  ⟨44, 48, 4, 29, 0, #v[0x00, 0x00, 0x00, 0x80]⟩,
  ⟨41, 45, 4, 29, 0, #v[0x00, 0x00, 0x00, 0x10]⟩,
  ⟨37, 38, 30, 3, -1, #v[0x00, 0x00, 0x80, 0x00]⟩,
  ⟨39, 43, 3, 28, 0, #v[0x00, 0x00, 0x00, 0x02]⟩,
  ⟨36, 37, 4, 4, -1, #v[0x00, 0x08, 0x00, 0x00]⟩,
  ⟨36, 40, 3, 28, 0, #v[0x00, 0x00, 0x10, 0x00]⟩,
  ⟨40, 44, 4, 29, 0, #v[0x00, 0x00, 0x00, 0x08]⟩,
  ⟨37, 38, 4, 4, -1, #v[0x00, 0x20, 0x00, 0x00]⟩]


/-! ### What the rows have in common -/

abbrev Dv := Fin nDisturbanceVectors

def messageMask (k : Dv) : ExpandedBlock := disturbanceVectors[k].messageMask

def testState (k : Dv) : Nat := disturbanceVectors[k].testState

/-- Bit `k` of a mask of disturbance vectors: the bits correspond to the vectors in little-endian
order. -/
def dvBit {nb : Nat} (mask : Vector Byte nb) (k : Nat) : Bool :=
  if h : k / 8 < nb then mask[k / 8].getLsbD (k % 8) else false

theorem isExpansion_messageMask (k : Dv) : IsExpansion (messageMask k).seq := by
  have h : ∀ k : Dv, checkRecurrence (messageMask k).toList := by decide +kernel
  exact isExpansion_of_check (h k)

/-- Every mask changes the message itself. -/
theorem messageMask_ne_zero (k : Dv) : (messageMask k).seq 0 ≠ 0 ∨ (messageMask k).seq 1 ≠ 0 := by
  revert k; decide +kernel

theorem messageMask_ten_ne (k : Dv) : (messageMask k).seq 10 ≠ (messageMask k).seq 25 := by
  revert k; decide +kernel

theorem testState_le (k : Dv) : testState k ≤ 80 := by
  revert k; decide +kernel

/-- The two bits that a condition of the vector `k` compares are flipped together by its mask. -/
theorem messageMask_flips : ∀ u ∈ ubcs, ∀ k : Dv, dvBit u.dvmask k = true →
    ((messageMask k).seq u.a).getLsbD u.i = ((messageMask k).seq u.b).getLsbD u.j := by
  decide +kernel

end Sha1dc
