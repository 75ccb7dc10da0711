import Sha1dc.Process

/-!
# `common.c`

Initialization, the settings, feeding data to a context and finishing a hash. A message pointer is the
list of the bytes that can be read through it.
-/

namespace Sha1dc
open Checked Fips

namespace Build

def init (b : Build) (ctx : Ctx) : Ctx :=
  { ctx with
    cv := { A := 0x67452301, B := 0xEFCDAB89, C := 0x98BADCFE, D := 0x10325476, E := 0xC3D2E1F0 }
    bytes := 0
    foundCollision := false
    doSafeHash := b.doSafeHashDefault
    ubcCheck := true
    detectColl := true
    reducedRoundColl := false
    collision := none }

end Build

namespace Ctx

def setDoSafeHash (ctx : Ctx) (doSafeHash : Bool) : Ctx := { ctx with doSafeHash }

def setUseUbc (ctx : Ctx) (ubcCheck : Bool) : Ctx := { ctx with ubcCheck }

def setDetectColl (ctx : Ctx) (detectColl : Bool) : Ctx := { ctx with detectColl }

def setDetectReducedRoundColl (ctx : Ctx) (reducedRoundColl : Bool) : Ctx := { ctx with reducedRoundColl }

def setCallback (ctx : Ctx) (collision : Option Pointer) (closure : Pointer) : Ctx :=
  { ctx with collision, collisionClosure := closure }

end Ctx

/-- The variables of `sha1dc_ingest` and the calls of the handler so far. -/
structure IngestState where
  ctx : Ctx
  calls : List HandlerCall
  buf : List Byte
  n : Nat

namespace Build

/-- `if(held && n >= need) …`, with the value it leaves in `held`. -/
def ingestTopUp (b : Build) (held need : Nat) (s : IngestState) : Chk (IngestState × Nat) :=
  if held ≠ 0 ∧ s.n ≥ need then do
    let ctx := { s.ctx with bytes := s.ctx.bytes + BitVec.ofNat 64 need }
    let buffer ← copyAt ctx.buffer held s.buf need
    let (ctx, calls) ← b.process { ctx with buffer } buffer
    let n ← sub s.n need
    return ({ ctx, calls := s.calls ++ calls, buf := s.buf.drop need, n }, 0)
  else return (s, held)

/-- A whole block of the caller's, in place or through the buffer. -/
def processWhole (b : Build) (ctx : Ctx) (buf : List Byte) : Chk (Ctx × List HandlerCall) :=
  if b.allowUnalignedAccess then do b.process ctx (blockOf (← slice buf 64))
  else do
    let buffer ← copyAt ctx.buffer 0 buf 64
    b.process { ctx with buffer } buffer

/-- `while(n >= sizeof ctx->buffer) …` -/
def ingestBody (b : Build) (s : IngestState) : Chk (Ctl IngestState) :=
  if s.n ≥ 64 then do
    let ctx := { s.ctx with bytes := s.ctx.bytes + 64 }
    let (ctx, calls) ← b.processWhole ctx s.buf
    let n ← sub s.n 64
    return .next { ctx, calls := s.calls ++ calls, buf := s.buf.drop 64, n }
  else return .done s

/-- `if(n > 0) …` -/
def ingestRest (held : Nat) (s : IngestState) : Chk Ctx :=
  if s.n > 0 then do
    let ctx := { s.ctx with bytes := s.ctx.bytes + BitVec.ofNat 64 s.n }
    let buffer ← copyAt ctx.buffer held s.buf s.n
    return { ctx with buffer }
  else return s.ctx

def ingest (b : Build) (ctx : Ctx) (buf : List Byte) (n : Nat) : Chk (Ctx × List HandlerCall) :=
  if n = 0 then return (ctx, [])
  else do
    let held := ctx.bytes.toNat % 64
    let need ← sub 64 held
    let (s, held) ← b.ingestTopUp held need ⟨ctx, [], buf, n⟩
    let s ← loop b.ingestBody (n + 1) s
    return (← ingestRest held s, s.calls)

/-- `-sizeof ctx->buffer`, a `size_t`, converted to `uint64_t`. -/
def negSizeofBuffer (b : Build) : BitVec 64 :=
  if b.sizeT32 then (-64 : BitVec 32).setWidth 64 else -64

def paddingSize (b : Build) (bytes : BitVec 64) : BitVec 8 :=
  (((bytes + 1 + 8 + 64 - 1) &&& b.negSizeofBuffer) - bytes - 8).setWidth 8

end Build

def sha1Padding : List Byte := 0b10000000 :: List.replicate 63 0

/-- What `sha1dc_finish` writes and returns, with the context and the calls it leaves. -/
structure Finished where
  output : List Byte
  foundCollision : Bool
  ctx : Ctx
  calls : List HandlerCall

def Build.finish (b : Build) (ctx : Ctx) : Chk Finished := do
  let bits := 8 * ctx.bytes
  let paddingSize := b.paddingSize ctx.bytes
  let (ctx, calls) ← b.ingest ctx sha1Padding paddingSize.toNat
  let bitsBytes := sha1Store8Beu64 bits
  let (ctx, calls') ← b.ingest ctx bitsBytes 8
  if ctx.bytes.toNat % 64 ≠ 0 then .error .unreachable
  else
    return {
      output := ctx.cv.toList.flatMap sha1Store8Beu32
      foundCollision := ctx.foundCollision
      ctx, calls := calls ++ calls' }

end Sha1dc
