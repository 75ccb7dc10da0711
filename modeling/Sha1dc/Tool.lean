import Sha1dc.Ingest
import Sha1dc.Lib.Source

/-!
# The command line tool

`main.c`. A string is the list of its characters, `argv` the list of the arguments, and a `Host` says what
the C library answers: what is behind a file does not change while the tool runs, and a second `fclose`
or a read from a closed stream is a fault. Nothing is said about the results of the writes, which the tool
does not look at either.
-/

namespace Sha1dc
open Checked

abbrev CString := List Char

/-- What can be read behind a name, and what `fclose` fails with afterwards. -/
structure Content where
  source : Source Byte CString
  closing : Option CString

/-- `FILE *`, `error` being the error indicator. -/
structure File extends Content where
  error : Bool

/-- Errors are the texts that `strerror` has for them, and `errno` is the one that stands there already. -/
structure Host where
  basename : CString → CString
  fopen : CString → Except CString Content
  stdin : Content
  errno : CString

inductive ToolFault
  /-- a fault of the library -/
  | library (fault : Fault)
  /-- a stream that is used after `fclose` -/
  | closed

def ToolFault.lift {α : Type} (x : Chk α) : Except ToolFault α := x.mapError library

/-! ### Strings -/

/-- `basename` where the platform has none: behind the last backslash. -/
def basenameFrom (base : CString) : CString → CString
  | [] => base
  | '\\' :: cur => basenameFrom cur cur
  | _ :: cur => basenameFrom base cur

def basename (path : CString) : CString := basenameFrom path path

def strstr (haystack needle : CString) : Option CString :=
  if needle.isPrefixOf haystack then some haystack
  else match haystack with
    | [] => none
    | _ :: haystack => strstr haystack needle

def hexDigit (n : Nat) : Char :=
  ['0', '1', '2', '3', '4', '5', '6', '7', '8', '9', 'a', 'b', 'c', 'd', 'e', 'f'].getD n '0'

/-- `printf("%02x", x)` -/
def hexByte (x : Byte) : CString := [hexDigit (x.toNat / 16), hexDigit (x.toNat % 16)]

/-- The line for a file. -/
def sumLine (hash : List Byte) (collision : Bool) (file : CString) : CString :=
  hash.flatMap hexByte ++ (if collision then " *coll* " else "        ").toList ++ file ++ ['\n']

/-- `fprintf(stderr, "%s: … '%s': %s\n", self, *files, strerror(errno))` -/
def complaint (self what file err : CString) : CString :=
  self ++ ": ".toList ++ what ++ " '".toList ++ file ++ "': ".toList ++ err ++ ['\n']

def cannotOpen : CString := "cannot open file".toList

def whileReading : CString := "error while reading file".toList

def whileClosing : CString := "error while closing file".toList

/-! ### Reading -/

/-- `sizeof buffer` -/
def bufferSize : Nat := 65536

structure Reading where
  ctx : Ctx
  buffer : List Byte
  f : File
  errno : CString

/-- `for(size_t read; read = fread(buffer, 1, sizeof buffer, f);) …` -/
def readBody (b : Build) (s : Reading) : Chk (Ctl Reading) :=
  let (bytes, source, err) := s.f.source.fread bufferSize
  let read := bytes.length
  let buffer := bytes ++ s.buffer.drop read
  let s := { s with buffer, f := { s.f with source, error := s.f.error || err.isSome }, errno := err.getD s.errno }
  if read = 0 then return .done s
  else do
    let (ctx, _) ← b.ingest s.ctx s.buffer read
    if read ≠ bufferSize then return .done { s with ctx }
    else return .next { s with ctx }

/-- The loop ends at the latest when nothing is left to be read. -/
def readFile (b : Build) (s : Reading) : Chk Reading := loop (readBody b) (s.f.source.items.length + 1) s

/-! ### The loop over the files -/

/-- What `main` keeps from one file to the next. `stdin` is `none` once it is closed. -/
structure Tool where
  ctx : Ctx
  buffer : List Byte
  stdin : Option File
  errno : CString
  anyError : Bool
  allError : Bool
  stdout : CString
  stderr : CString

namespace Tool

/-- An opened file, from the first read to the line for it. -/
def sumFile (b : Build) (self file : CString) (t : Tool) (f : File) (isStdin : Bool) :
    Except ToolFault Tool := do
  let s ← ToolFault.lift (readFile b ⟨t.ctx, t.buffer, f, t.errno⟩)
  let t := { t with
    ctx := s.ctx, buffer := s.buffer, errno := s.errno, stdin := if isStdin then some s.f else t.stdin }
  if s.f.error then
    return { t with stderr := t.stderr ++ complaint self whileReading file t.errno, anyError := true }
  else
    let t := { t with stdin := if isStdin then none else t.stdin }
    let t := match s.f.closing with
      | some errno =>
        { t with errno, stderr := t.stderr ++ complaint self whileClosing file errno, anyError := true }
      | none => t
    let r ← ToolFault.lift (b.finish t.ctx)
    return { t with
      ctx := r.ctx
      allError := false
      stdout := t.stdout ++ sumLine r.output r.foundCollision file }

/-- One file; `done` is `return 1`. -/
def processFile (b : Build) (host : Host) (self file : CString) (t : Tool) : Except ToolFault (Ctl Tool) :=
  let ctx := (b.init t.ctx).setDetectReducedRoundColl (strstr self "partial".toList).isSome
  let t := { t with ctx }
  if file ≠ ['-'] then
    match host.fopen file with
    | .error errno =>
      return .done { t with errno, stderr := t.stderr ++ complaint self cannotOpen file errno }
    | .ok content => do
      return .next (← t.sumFile b self file { content with error := false } false)
  else
    match t.stdin with
    | none => .error .closed
    | some f => do
      return .next (← t.sumFile b self file f true)

/-- The exit status and what the tool leaves. -/
def processFiles (b : Build) (host : Host) (self : CString) :
    List CString → Tool → Except ToolFault (Nat × Tool)
  | [], t => return (t.anyError.toNat + 2 * t.allError.toNat, t)
  | file :: files, t => do
    match ← t.processFile b host self file with
    | .done t => return (1, t)
    | .next t => processFiles b host self files t

end Tool

/-- `self` and the names of the files. -/
def parseArgv (host : Host) : List CString → CString × List CString
  | [] => ("sha1dcsum".toList, [['-']])
  | [argv0] => (host.basename argv0, [['-']])
  | argv0 :: argv1 :: files => (host.basename argv0, argv1 :: files)

/-- `ctx₀` is what is in `ctx_storage` at first. -/
def main (b : Build) (host : Host) (ctx₀ : Ctx) (argv : List CString) : Except ToolFault (Nat × Tool) :=
  let (self, files) := parseArgv host argv
  Tool.processFiles b host self files
    { ctx := ctx₀
      buffer := List.replicate bufferSize 0
      stdin := some { host.stdin with error := false }
      errno := host.errno
      anyError := false
      allError := true
      stdout := []
      stderr := [] }

end Sha1dc
