import Sha1dc.Sha
import Sha1dc.Avx512
import Sha1dc.Twin

/-!
# `sha1dc_process`

The context and the processing of one block: expand and compress it, filter the disturbance vectors,
recompress the twin of each one left from its saved state, report the first that is confirmed and
compress the block twice more.
-/

namespace Sha1dc
open Checked

/-- `struct sha1dc_ctx`. The buffer is kept as its bytes. -/
structure Ctx where
  buffer : Vector Byte 64
  cv : ChainingValue
  bytes : BitVec 64
  foundCollision : Bool
  doSafeHash : Bool
  detectColl : Bool
  ubcCheck : Bool
  reducedRoundColl : Bool
  collision : Option Pointer
  collisionClosure : Pointer
  blockIn : ChainingValue
  twinIn : ChainingValue
  twinOut : ChainingValue
  blockW : ExpandedBlock
  twinW : ExpandedBlock
  blockState : Vector ChainingValue nNeededStates

/-- What the preprocessor and the processor decide, and what the uninitialised variables of a call hold.
The vector instructions exist on little-endian machines only. -/
structure Build where
  order : ByteOrder
  allowUnalignedAccess : Bool
  sizeT32 : Bool
  doSafeHashDefault : Bool
  sha : Bool
  avx512 : Bool
  unrollingLoops : Bool
  optimize : Bool
  shaUninit : Ctx → Block → ShaUninit
  avx512Uninit : Ctx → Avx512Uninit
  x86_little : sha = true ∨ avx512 = true → order = .little

/-- A call of a `sha1dc_collision_handler`, its arguments in the order of the declaration. A pointer
argument is the words that can be read through it up to the end of the context. -/
structure HandlerCall where
  handler : Pointer
  closure : Pointer
  byteOffset : BitVec 64
  blockW : List Word
  twinW : List Word
  blockIn : List Word
  twinIn : List Word
deriving DecidableEq

namespace Ctx

/-! The words of the context from a member on. -/

def wordsBlockState (ctx : Ctx) : List Word := ctx.blockState.toList.flatMap ChainingValue.toList

def wordsTwinW (ctx : Ctx) : List Word := ctx.twinW.toList ++ ctx.wordsBlockState

def wordsBlockW (ctx : Ctx) : List Word := ctx.blockW.toList ++ ctx.wordsTwinW

def wordsTwinOut (ctx : Ctx) : List Word := ctx.twinOut.toList ++ ctx.wordsBlockW

def wordsTwinIn (ctx : Ctx) : List Word := ctx.twinIn.toList ++ ctx.wordsTwinOut

def wordsBlockIn (ctx : Ctx) : List Word := ctx.blockIn.toList ++ ctx.wordsTwinIn

end Ctx

def sha1RecompressAt (t : Nat) (W : ExpandedBlock) (tCv : ChainingValue) :
    Chk (ChainingValue × ChainingValue) :=
  if t ≤ 80 then do
    let need ← rd needState t
    if need = -1 then .error .unreachable else sha1AddBlockPredict t W tCv
  else .error .unreachable

def checkDvmask (order : ByteOrder) : List Byte → Bool
  | b0 :: b1 :: b2 :: b3 :: mask =>
    if loadDvmask order [b0, b1, b2, b3] ≠ 0 then true else checkDvmask order mask
  | mask => loadDvmask order mask ≠ 0

namespace Build

/-- `sha1_add_block_expanding_saving`, dispatched by the features of the processor. -/
def addBlockExpandingSaving (b : Build) (ctx : Ctx) (block : Block) :
    Chk (ChainingValue × ExpandedBlock × Vector ChainingValue nNeededStates) :=
  if b.sha then
    sha1AddBlockExpandingSavingX86v2sha needState (b.shaUninit ctx block) ctx.cv block ctx.blockW
      ctx.blockState
  else sha1AddBlockExpandingSavingPortable needState ctx.cv block ctx.blockW ctx.blockState

/-- `sha1dc_ubc_check`, dispatched by the features of the processor. -/
def ubcCheck (b : Build) (ctx : Ctx) (W : ExpandedBlock) : Chk (Vector Byte dvmaskBytes) :=
  if b.avx512 then ubcCheckAvx512 b.unrollingLoops b.optimize (b.avx512Uninit ctx) W
  else ubcCheckBaseline b.order ubcs W

def processDvs (b : Build) (ctx : Ctx) : Chk (Vector Byte dvmaskBytes) :=
  if ctx.ubcCheck then b.ubcCheck ctx ctx.blockW else return .replicate dvmaskBytes (-1)

/-- The body of the loop over the vectors up to the comparison. -/
def recompressTwin (ctx : Ctx) (i : Nat) : Chk Ctx := do
  let dv ← rd disturbanceVectors i
  let twinW ← forUp (fun j twinW => do
    let twinW ← wr twinW j (← rd ctx.blockW j)
    wr twinW j ((← rd twinW j) ^^^ (← rd dv.messageMask j))) 0 80 ctx.twinW
  let quietStep := dv.testState
  let quietStepSave ← rd needState quietStep
  let quietState ← rdI ctx.blockState quietStepSave
  let (twinIn, twinOut) ← sha1RecompressAt quietStep twinW quietState
  return { ctx with twinW, twinIn, twinOut }

/-- `if(ctx->collision) ctx->collision(…)`, with the arguments as the call lists them. -/
def callHandler (ctx : Ctx) : List HandlerCall :=
  match ctx.collision with
  | none => []
  | some collision =>
    [⟨collision, ctx.collisionClosure, ctx.bytes,
      ctx.wordsBlockIn, ctx.wordsTwinIn, ctx.wordsBlockW, ctx.wordsTwinW⟩]

/-- `if(ctx->do_safe_hash) …` -/
def rehash (ctx : Ctx) : Chk Ctx :=
  if ctx.doSafeHash then do
    let cv ← sha1AddBlock ctx.cv ctx.blockW
    let cv ← sha1AddBlock cv ctx.blockW
    return { ctx with cv }
  else return ctx

/-- The loop over the vectors from `i` on, `n` of them. -/
def dvLoop (dvs : Vector Byte dvmaskBytes) : Nat → Nat → Ctx → Chk (Ctx × List HandlerCall)
  | _, 0, ctx => return (ctx, [])
  | i, n + 1, ctx => do
    let dv ← rd dvs (i / 8)
    if dv &&& (1 <<< (i % 8)) = 0 then dvLoop dvs (i + 1) n ctx
    else
      let ctx ← recompressTwin ctx i
      if ctx.twinOut = ctx.cv ∨ ctx.reducedRoundColl ∧ ctx.twinIn = ctx.blockIn then do
        let ctx := { ctx with foundCollision := true }
        let calls := callHandler ctx
        return (← rehash ctx, calls)
      else dvLoop dvs (i + 1) n ctx

/-- The new context and the calls of the handler. -/
def process (b : Build) (ctx : Ctx) (block : Block) : Chk (Ctx × List HandlerCall) := do
  let ctx := { ctx with blockIn := ctx.cv }
  let (cv, blockW, blockState) ← b.addBlockExpandingSaving ctx block
  let ctx := { ctx with cv, blockW, blockState }
  if ¬ ctx.detectColl then return (ctx, [])
  else
    let dvs ← b.processDvs ctx
    if ¬ checkDvmask b.order dvs.toList then return (ctx, [])
    else dvLoop dvs 0 nDisturbanceVectors ctx

end Build

end Sha1dc
