import Sha1dc.Session
import Sha1dc.Tool

/-!
# What the tool says about its files

The context, the buffer and `errno` go from one file to the next, but the line for a file depends on what
is behind its name alone (`main_spec`). The exit status tells whether anything was written to `stderr`
and whether any line was written at all (`main_status`), and only a second `-` behind a `stdin` that was
read without an error makes the tool use a stream that is closed (`main_closed_iff`).
-/

namespace Sha1dc
open Checked Fips Feed

/-! ### Strings -/

theorem strstr_isSome_iff (haystack needle : CString) :
    (strstr haystack needle).isSome = true ↔ needle <:+: haystack := by
  induction haystack with
  | nil =>
    rw [strstr, List.infix_nil]
    cases needle <;> simp
  | cons x haystack ih =>
    rw [strstr, List.infix_cons_iff, ← List.isPrefixOf_iff_prefix]
    by_cases h : needle.isPrefixOf (x :: haystack) = true
    · simp [h]
    · simp [h, ih]

theorem basenameFrom_cases (base cur : CString) :
    '\\' ∉ cur ∧ basenameFrom base cur = base ∨
      ∃ dir, cur = dir ++ '\\' :: basenameFrom base cur ∧ '\\' ∉ basenameFrom base cur := by
  induction cur generalizing base with
  | nil => exact .inl ⟨List.not_mem_nil, rfl⟩
  | cons x cur ih =>
    by_cases hx : x = '\\'
    · subst x
      rw [basenameFrom]
      rcases ih cur with ⟨hnot, heq⟩ | ⟨dir, hdir, hnot⟩
      · rw [heq]
        exact .inr ⟨[], rfl, hnot⟩
      · exact .inr ⟨'\\' :: dir, congrArg _ hdir, hnot⟩
    · rw [basenameFrom]
      · rcases ih base with ⟨hnot, heq⟩ | ⟨dir, hdir, hnot⟩
        · exact .inl ⟨List.not_mem_cons_of_ne_of_not_mem (Ne.symm hx) hnot, heq⟩
        · exact .inr ⟨x :: dir, congrArg _ hdir, hnot⟩
      · exact hx

/-- What is behind the last backslash. -/
theorem basename_spec (path : CString) : '\\' ∉ basename path ∧
    (basename path = path ∨ ∃ dir, path = dir ++ '\\' :: basename path) := by
  rcases basenameFrom_cases path path with ⟨hnot, heq⟩ | ⟨dir, hdir, hnot⟩
  · rw [basename, heq]
    exact ⟨hnot, .inl rfl⟩
  · exact ⟨hnot, .inr ⟨dir, hdir⟩⟩

/-! ### One file -/

/-- What comes out for a file. -/
inductive FileResult
  | unopened (err : CString)
  | unread (err : CString)
  | unclosed (err : CString) (hash : List Byte) (collision : Bool)
  | listed (hash : List Byte) (collision : Bool)

namespace FileResult

def stdout (file : CString) : FileResult → CString
  | unopened _ => []
  | unread _ => []
  | unclosed _ hash collision => sumLine hash collision file
  | listed hash collision => sumLine hash collision file

def stderr (self file : CString) : FileResult → CString
  | unopened err => complaint self cannotOpen file err
  | unread err => complaint self whileReading file err
  | unclosed err _ _ => complaint self whileClosing file err
  | listed _ _ => []

def isUnopened : FileResult → Bool
  | unopened _ => true
  | _ => false

/-- Whether `any_error` is set. -/
def isError : FileResult → Bool
  | unread _ => true
  | unclosed _ _ _ => true
  | _ => false

/-- Whether `all_error` is left as it is. -/
def isUnlisted : FileResult → Bool
  | unclosed _ _ _ => false
  | listed _ _ => false
  | _ => true

end FileResult

def toolSettings (b : Build) (reduced : Bool) (closure : Pointer) : Settings where
  doSafeHash := b.doSafeHashDefault
  detectColl := true
  ubcCheck := true
  reducedRoundColl := reduced
  collision := none
  collisionClosure := closure

/-- The machine behind the blocks of a message, as the tool sets it up. -/
def toolMachine (b : Build) (reduced : Bool) (m : List Byte) : Machine :=
  Machine.runBlocks (toolSettings b reduced 0) (messageBlocks (pad m))

/-- `errno` is what stands there before the first read. -/
def File.result (b : Build) (reduced : Bool) (errno : CString) (f : File) : FileResult :=
  let M := toolMachine b reduced f.source.items
  if f.error || f.source.err.isSome then .unread (f.source.err.getD errno)
  else match f.closing with
    | some err => .unclosed err (digest M.cv) M.found
    | none => .listed (digest M.cv) M.found

variable {b : Build} {host : Host} {self file : CString} {t t' : Tool} {f : File} {s : Reading}
  {ctx : Ctx} {calls : List HandlerCall} {σ : Settings} {m : List Byte}

@[simp] theorem wp_lift {α : Type} {x : Chk α} {P : α → Prop} : wp (ToolFault.lift x) P ↔ wp x P := by
  cases x <;> simp [ToolFault.lift, Except.mapError]

/-- What the loop has done when `s` is reached from a fresh context with `f`. -/
structure Reads (σ : Settings) (f : File) (errno : CString) (s : Reading) : Prop where
  fed : ∃ l calls, l ++ s.f.source.items = f.source.items ∧ Sim (under l σ) s.ctx calls
  settings : s.ctx.settings = σ
  err : s.f.source.err = f.source.err
  error : s.f.error = f.error
  closing : s.f.closing = f.closing
  errno : s.errno = errno

/-- The loop has come to its end. -/
structure HasRead (σ : Settings) (f : File) (errno : CString) (s : Reading) : Prop where
  fed : ∃ calls, Sim (under f.source.items σ) s.ctx calls
  settings : s.ctx.settings = σ
  error : s.f.error = (f.error || f.source.err.isSome)
  closing : s.f.closing = f.closing
  errno : s.errno = f.source.err.getD errno

theorem wp_ingest_chunk (b : Build) {l chunk rest : List Byte} (h : Sim (under l σ) ctx calls)
    (hσ : ctx.settings = σ) : wp (b.ingest ctx (chunk ++ rest) chunk.length) fun r =>
      (∃ calls', Sim (under (l ++ chunk) σ) r.1 calls') ∧ r.1.settings = σ := by
  refine wp_mono (h.wp_ingest b (by rw [List.length_append]; omega)) ?_
  rintro r ⟨hsim, hset⟩
  rw [List.take_left, hσ, ← under_append] at hsim
  exact ⟨⟨_, hsim⟩, hset.trans hσ⟩

theorem wp_readBody {errno : CString} (h : Reads σ f errno s) : wp (readBody b s) (Ctl.Holds
    (fun s' => Reads σ f errno s' ∧ s'.f.source.items.length < s.f.source.items.length)
    (HasRead σ f errno)) := by
  obtain ⟨l, calls, hl, hsim⟩ := h.fed
  have hpos : 0 < bufferSize := by decide
  rw [readBody]
  by_cases hfull : bufferSize ≤ s.f.source.items.length
  · obtain ⟨S, hread, hitems, herr⟩ := Source.fread_of_le hfull
    have hlen : (s.f.source.items.take bufferSize).length = bufferSize := List.length_take_of_le hfull
    rw [hread]
    dsimp only
    rw [hlen, if_neg (Nat.ne_of_gt hpos), wp_bind]
    have hingest : wp (b.ingest s.ctx (s.f.source.items.take bufferSize ++ s.buffer.drop bufferSize)
        (s.f.source.items.take bufferSize).length) fun r =>
          (∃ calls', Sim (under (l ++ s.f.source.items.take bufferSize) σ) r.1 calls') ∧
            r.1.settings = σ := wp_ingest_chunk b hsim h.settings
    rw [hlen] at hingest
    refine wp_mono hingest ?_
    rintro ⟨ctx, calls₁⟩ ⟨⟨calls', hsim'⟩, hset⟩
    dsimp only
    rw [if_neg (not_not.mpr rfl), wp_pure]
    refine ⟨⟨⟨_, calls', ?_, hsim'⟩, hset, herr.trans h.err, ?_, h.closing, h.errno⟩, ?_⟩
    · rw [List.append_assoc, hitems, List.take_append_drop, hl]
    · exact (Bool.or_false _).trans h.error
    · rw [hitems, List.length_drop]
      omega
  · obtain ⟨S, hread⟩ := Source.fread_of_lt (Nat.lt_of_not_le hfull)
    rw [hread]
    dsimp only
    have herror : (s.f.error || s.f.source.err.isSome) = (f.error || f.source.err.isSome) := by
      rw [h.err, h.error]
    have herrno : s.f.source.err.getD s.errno = f.source.err.getD errno := by rw [h.err, h.errno]
    by_cases hnil : s.f.source.items.length = 0
    · rw [if_pos hnil, wp_pure]
      rw [List.eq_nil_of_length_eq_zero hnil, List.append_nil] at hl
      exact ⟨⟨calls, hl ▸ hsim⟩, h.settings, herror, h.closing, herrno⟩
    · rw [if_neg hnil, wp_bind]
      refine wp_mono (wp_ingest_chunk b hsim h.settings) ?_
      rintro ⟨ctx, calls₁⟩ ⟨⟨calls', hsim'⟩, hset⟩
      dsimp only
      rw [if_pos (fun heq => hfull (Nat.le_of_eq heq.symm)), wp_pure]
      exact ⟨⟨calls', hl ▸ hsim'⟩, hset, herror, h.closing, herrno⟩

theorem wp_readFile (b : Build) (h : Sim [] ctx calls) (buffer : List Byte) (f : File) (errno : CString) :
    wp (readFile b ⟨ctx, buffer, f, errno⟩) (HasRead ctx.settings f errno) := by
  refine wp_loop (Reads ctx.settings f errno) (fun s => s.f.source.items.length) _
    (fun s hs => wp_readBody hs) ?_ (Nat.lt_succ_self _)
  exact ⟨⟨[], calls, rfl, h⟩, rfl, rfl, rfl, rfl, rfl⟩

/-- Finishing a message that came under one setting. -/
theorem Sim.wp_finish_under (b : Build) (h : Sim (under m σ) ctx calls) (hσ : ctx.settings = σ) :
    wp (b.finish ctx) fun r =>
      let M := Machine.runBlocks σ (messageBlocks (pad m))
      r.output = digest M.cv ∧ r.foundCollision = M.found := by
  refine wp_mono (h.wp_finish b) ?_
  rintro r ⟨hsim, -, hout, hfound⟩
  rw [length_under, hσ, ← under_append] at hsim
  have hrun : Machine.run (under (pad m) σ) = Machine.runBlocks σ (messageBlocks (pad m)) :=
    Machine.run_under (pad m) σ
  rw [← hrun]
  exact ⟨hout.trans (congrArg digest hsim.cv), hfound.trans hsim.found⟩

/-- The closure that is left in the storage does not matter. -/
theorem runBlocks_toolSettings (b : Build) (reduced : Bool) (closure : Pointer) (Bs : List Block) :
    Machine.runBlocks (toolSettings b reduced closure) Bs = Machine.runBlocks (toolSettings b reduced 0) Bs := by
  have hlike : (toolSettings b reduced closure).Like (toolSettings b reduced 0) :=
    ⟨rfl, fun h => absurd rfl h⟩
  exact hlike.steps Machine.start Bs

/-- The tool has said `result` about the file. -/
structure Tool.Says (name file : CString) (result : FileResult) (t t' : Tool) : Prop where
  stdout : t'.stdout = t.stdout ++ result.stdout file
  stderr : t'.stderr = t.stderr ++ result.stderr name file
  anyError : t'.anyError = (t.anyError || result.isError)
  allError : t'.allError = (t.allError && result.isUnlisted)

/-- What `stdin` is after `f` has been read; a closed stream is the mark of a read without errors. -/
def Tool.Leaves (f : File) (isStdin : Bool) (t t' : Tool) : Prop :=
  if isStdin then
    if f.error || f.source.err.isSome then ∃ f', t'.stdin = some f' ∧ f'.error = true else t'.stdin = none
  else t'.stdin = t.stdin

/-- A context that the tool has just set up. -/
structure Fresh (b : Build) (reduced : Bool) (ctx : Ctx) : Prop where
  sim : Sim [] ctx []
  settings : ctx.settings = toolSettings b reduced ctx.collisionClosure

theorem fresh_init (b : Build) (ctx : Ctx) (reduced : Bool) :
    Fresh b reduced ((b.init ctx).setDetectReducedRoundColl reduced) :=
  ⟨(sim_init b ctx).set (.setDetectReducedRoundColl reduced), rfl⟩

theorem Tool.wp_sumFile {reduced : Bool} (h : Fresh b reduced t.ctx) (self file : CString) (f : File)
    (isStdin : Bool) : wp (t.sumFile b self file f isStdin) fun t' =>
      t.Says self file (f.result b reduced t.errno) t' ∧ t.Leaves f isStdin t' := by
  rw [Tool.sumFile, wp_bind, wp_lift]
  refine wp_mono (wp_readFile b h.sim t.buffer f t.errno) fun s hs => ?_
  dsimp only
  rw [hs.error, hs.errno]
  by_cases herror : (f.error || f.source.err.isSome) = true
  · rw [if_pos herror, wp_pure, File.result, if_pos herror]
    refine ⟨⟨(List.append_nil _).symm, rfl, (Bool.or_true _).symm, (Bool.and_true _).symm⟩, ?_⟩
    rw [Tool.Leaves, if_pos herror]
    cases isStdin
    · rfl
    · exact ⟨s.f, rfl, hs.error.trans herror⟩
  · rw [if_neg herror, wp_bind, wp_lift, File.result, if_neg herror]
    obtain ⟨calls, hsim⟩ := hs.fed
    rw [h.settings] at hsim
    have hset := hs.settings.trans h.settings
    have hleaves : ∀ t' : Tool, t'.stdin = (if isStdin then none else t.stdin) → t.Leaves f isStdin t' := by
      intro t' ht'
      rw [Tool.Leaves, if_neg herror]
      cases isStdin <;> exact ht'
    rw [hs.closing]
    cases f.closing with
    | none =>
      refine wp_mono (hsim.wp_finish_under b hset) ?_
      rintro r ⟨hout, hfound⟩
      rw [runBlocks_toolSettings] at hout hfound
      rw [wp_pure, hout, hfound]
      refine ⟨⟨rfl, (List.append_nil _).symm, (Bool.or_false _).symm, (Bool.and_false _).symm⟩, ?_⟩
      exact hleaves _ (by cases isStdin <;> rfl)
    | some err =>
      refine wp_mono (hsim.wp_finish_under b hset) ?_
      rintro r ⟨hout, hfound⟩
      rw [runBlocks_toolSettings] at hout hfound
      rw [wp_pure, hout, hfound]
      refine ⟨⟨rfl, rfl, (Bool.or_true _).symm, (Bool.and_false _).symm⟩, ?_⟩
      exact hleaves _ (by cases isStdin <;> rfl)

/-! ### All the files -/

/-- The name contains the word "partial". -/
def isPartial (self : CString) : Bool := (strstr self "partial".toList).isSome

def Host.opens (host : Host) (file : CString) : Bool := decide (file = ['-']) || (host.fopen file).isOk

/-- What comes out for a name, if `stdin` has not been read before. -/
def Host.result (b : Build) (host : Host) (reduced : Bool) (file : CString) : FileResult :=
  match if file = ['-'] then .ok host.stdin else host.fopen file with
  | .error err => .unopened err
  | .ok content => File.result b reduced [] { content with error := false }

/-- The files up to the first one that cannot be opened. -/
def Host.reached (host : Host) : List CString → List CString
  | [] => []
  | file :: files => file :: if host.opens file then host.reached files else []

theorem File.result_errno (b : Build) (reduced : Bool) (errno errno' : CString) (content : Content) :
    File.result b reduced errno { content with error := false } =
      File.result b reduced errno' { content with error := false } := by
  rw [File.result, File.result]
  cases content.source.err <;> rfl

theorem Host.opens_stdin (host : Host) : host.opens ['-'] = true := rfl

theorem Host.opens_of_ne (h : file ≠ ['-']) : host.opens file = (host.fopen file).isOk := by
  rw [Host.opens, decide_eq_false h, Bool.false_or]

namespace Tool

theorem wp_processFile_stdin (b : Build) (host : Host) (self : CString) (h : t.stdin = some f) :
    wp (t.processFile b host self ['-']) (Ctl.Holds
      (fun t' => t.Says self ['-'] (f.result b (isPartial self) t.errno) t' ∧ t.Leaves f true t')
      fun _ => False) := by
  rw [processFile, if_neg (not_not.mpr rfl)]
  dsimp only
  rw [h]
  dsimp only
  rw [wp_bind]
  refine wp_mono (wp_sumFile (fresh_init b t.ctx (isPartial self)) self ['-'] f true) ?_
  rintro t' ⟨⟨hout, herr, hany, hall⟩, hleaves⟩
  rw [wp_pure]
  exact ⟨⟨hout, herr, hany, hall⟩, hleaves⟩

theorem wp_processFile (b : Build) (host : Host) (self : CString) (t : Tool) (h : file ≠ ['-']) :
    wp (t.processFile b host self file) (Ctl.Holds
      (fun t' => host.opens file = true ∧ t.Says self file (host.result b (isPartial self) file) t' ∧
        t'.stdin = t.stdin)
      fun t' => host.opens file = false ∧ t.Says self file (host.result b (isPartial self) file) t') := by
  rw [processFile, if_pos h, Host.opens_of_ne h, Host.result, if_neg h]
  cases host.fopen file with
  | error err =>
    rw [wp_pure]
    exact ⟨rfl, (List.append_nil _).symm, rfl, (Bool.or_false _).symm, (Bool.and_true _).symm⟩
  | ok content =>
    dsimp only
    rw [wp_bind]
    refine wp_mono (wp_sumFile (fresh_init b t.ctx (isPartial self)) self file
      { content with error := false } false) ?_
    rintro t' ⟨⟨hout, herr, hany, hall⟩, hleaves⟩
    rw [wp_pure, File.result_errno b (isPartial self) [] t.errno]
    exact ⟨rfl, ⟨hout, herr, hany, hall⟩, hleaves⟩

/-- What a run says, whether or not all of the files can be opened. -/
structure SaysAll (b : Build) (host : Host) (name : CString) (files : List CString) (t : Tool)
    (r : Nat × Tool) : Prop where
  stdout : r.2.stdout = t.stdout ++
    (host.reached files).flatMap fun file => (host.result b (isPartial name) file).stdout file
  stderr : r.2.stderr = t.stderr ++
    (host.reached files).flatMap fun file => (host.result b (isPartial name) file).stderr name file
  status : r.1 = if files.all host.opens then
      (t.anyError || files.any fun file => (host.result b (isPartial name) file).isError).toNat +
        2 * (t.allError && files.all fun file => (host.result b (isPartial name) file).isUnlisted).toNat
    else 1

variable {files : List CString} {r : Nat × Tool}

theorem SaysAll.cons (h : t.Says self file (host.result b (isPartial self) file) t')
    (hopen : host.opens file = true) (hr : SaysAll b host self files t' r) :
    SaysAll b host self (file :: files) t r := by
  obtain ⟨hout, herr, hstatus⟩ := hr
  refine ⟨?_, ?_, ?_⟩
  · rw [hout, h.stdout, Host.reached, if_pos hopen, List.flatMap_cons, List.append_assoc]
  · rw [herr, h.stderr, Host.reached, if_pos hopen, List.flatMap_cons, List.append_assoc]
  · rw [hstatus, h.anyError, h.allError, List.all_cons, hopen, Bool.true_and, List.any_cons, List.all_cons,
      Bool.or_assoc, Bool.and_assoc]

theorem SaysAll.stop (h : t.Says self file (host.result b (isPartial self) file) t')
    (hopen : host.opens file = false) : SaysAll b host self (file :: files) t (1, t') := by
  refine ⟨?_, ?_, ?_⟩
  · rw [h.stdout, Host.reached, hopen, if_neg Bool.false_ne_true, List.flatMap_singleton]
  · rw [h.stderr, Host.reached, hopen, if_neg Bool.false_ne_true, List.flatMap_singleton]
  · rw [List.all_cons, hopen, Bool.false_and, if_neg Bool.false_ne_true]

/-- Induction on the files; `stdin` is as it was until its turn has come. -/
theorem wp_processFiles (hcount : files.count ['-'] ≤ 1)
    (hstdin : ['-'] ∈ files → t.stdin = some { host.stdin with error := false }) :
    wp (processFiles b host self files t) (SaysAll b host self files t) := by
  induction files generalizing t with
  | nil =>
    rw [processFiles, wp_pure]
    refine ⟨(List.append_nil _).symm, (List.append_nil _).symm, ?_⟩
    rw [List.all_nil, if_pos rfl, List.any_nil, List.all_nil, Bool.or_false, Bool.and_true]
  | cons file files ih =>
    rw [processFiles, wp_bind]
    by_cases hfile : file = ['-']
    · subst file
      rw [List.count_cons_self] at hcount
      have hnot : ['-'] ∉ files := List.count_eq_zero.mp (by omega)
      refine wp_mono (wp_processFile_stdin b host self (hstdin List.mem_cons_self)) ?_
      rintro (t' | t') hsaid
      · obtain ⟨hsaid, -⟩ := hsaid
        rw [File.result_errno b (isPartial self) t.errno []] at hsaid
        exact wp_mono (ih (by omega) fun h => absurd h hnot) fun r hr => hr.cons hsaid host.opens_stdin
      · exact hsaid.elim
    · rw [List.count_cons_of_ne hfile] at hcount
      refine wp_mono (wp_processFile b host self t hfile) ?_
      rintro (t' | t') hsaid
      · obtain ⟨hopen, hsaid, hleaves⟩ := hsaid
        refine wp_mono (ih hcount fun h => ?_) fun r hr => hr.cons hsaid hopen
        rw [hleaves]
        exact hstdin (List.mem_cons_of_mem _ h)
      · obtain ⟨hopen, hsaid⟩ := hsaid
        dsimp only
        rw [wp_pure]
        exact SaysAll.stop hsaid hopen

end Tool

theorem wp_main (b : Build) (host : Host) (ctx₀ : Ctx) (argv : List CString)
    (hcount : (parseArgv host argv).2.count ['-'] ≤ 1) : wp (main b host ctx₀ argv) fun r =>
      let self := (parseArgv host argv).1
      let files := (parseArgv host argv).2
      let result := host.result b (isPartial self)
      r.2.stdout = (host.reached files).flatMap (fun file => (result file).stdout file) ∧
        r.2.stderr = (host.reached files).flatMap (fun file => (result file).stderr self file) ∧
        r.1 = if files.all host.opens then (files.any fun file => (result file).isError).toNat +
            2 * (files.all fun file => (result file).isUnlisted).toNat
          else 1 := by
  refine wp_mono (Tool.wp_processFiles hcount fun _ => rfl) ?_
  rintro r ⟨hout, herr, hstatus⟩
  exact ⟨hout, herr, hstatus⟩

/-- Each file is reported as if it were the only one, up to the first that cannot be opened: neither the
context nor the buffer nor `errno` carries anything over. -/
theorem main_spec (b : Build) (host : Host) (ctx₀ : Ctx) (argv : List CString)
    (hcount : (parseArgv host argv).2.count ['-'] ≤ 1) :
    let self := (parseArgv host argv).1
    let files := (parseArgv host argv).2
    let result := host.result b (isPartial self)
    ∃ status t, main b host ctx₀ argv = .ok (status, t) ∧
      t.stdout = (host.reached files).flatMap (fun file => (result file).stdout file) ∧
      t.stderr = (host.reached files).flatMap (fun file => (result file).stderr self file) ∧
      status = if files.all host.opens then (files.any fun file => (result file).isError).toNat +
          2 * (files.all fun file => (result file).isUnlisted).toNat
        else 1 :=
  have ⟨⟨status, t⟩, hr, hout, herr, hstatus⟩ := wp_main b host ctx₀ argv hcount
  ⟨status, t, hr, hout, herr, hstatus⟩

/-- A directory at `stdin` and one file, `abc`. -/
def exampleHost : Host where
  basename := basename
  fopen file :=
    if file = "abc".toList then .ok ⟨.ofList [0x61, 0x62, 0x63], none⟩
    else .error "No such file or directory".toList
  stdin := ⟨.error "Is a directory".toList .eof, none⟩
  errno := []

theorem main_spec_abc : ∃ status t, main portable exampleHost shatteredCtx
    ["C:\\sha1dcsum".toList, "abc".toList, ['-']] = .ok (status, t) ∧ status = 1 ∧
      t.stderr = "sha1dcsum: error while reading file '-': Is a directory\n".toList :=
  have ⟨status, t, hr, _, herr, hstatus⟩ := main_spec portable exampleHost shatteredCtx
    ["C:\\sha1dcsum".toList, "abc".toList, ['-']] (by decide)
  ⟨status, t, hr, hstatus, herr⟩

/-! ### The exit status -/

theorem File.isUnopened_result (b : Build) (reduced : Bool) (errno : CString) (f : File) :
    (f.result b reduced errno).isUnopened = false := by
  rw [File.result]
  split
  · rfl
  · cases f.closing <;> rfl

theorem Host.isUnopened_result (b : Build) (host : Host) (reduced : Bool) (file : CString) :
    (host.result b reduced file).isUnopened = !host.opens file := by
  rw [Host.result, Host.opens]
  by_cases h : file = ['-']
  · rw [if_pos h, decide_eq_true h, Bool.true_or]
    exact File.isUnopened_result b reduced [] _
  · rw [if_neg h, decide_eq_false h, Bool.false_or]
    cases host.fopen file with
    | error err => rfl
    | ok content => exact File.isUnopened_result b reduced [] _

namespace Tool

/-- The flags tell what has been written. -/
structure Marked (t : Tool) : Prop where
  anyError : t.anyError = true ↔ t.stderr ≠ []
  allError : t.allError = true ↔ t.stdout = []

theorem complaint_ne_nil (self what file err : CString) : complaint self what file err ≠ [] := by
  simp [complaint]

theorem sumLine_ne_nil (hash : List Byte) (collision : Bool) (file : CString) :
    sumLine hash collision file ≠ [] := by
  simp [sumLine]

theorem Says.marked {result : FileResult} (h : t.Says self file result t') (hm : t.Marked)
    (hopen : result.isUnopened = false) : t'.Marked := by
  obtain ⟨hany, hall⟩ := hm
  refine ⟨?_, ?_⟩
  · rw [h.anyError, h.stderr]
    cases result <;> simp_all [FileResult.isError, FileResult.stderr, FileResult.isUnopened, complaint_ne_nil]
  · rw [h.allError, h.stdout]
    cases result <;> simp_all [FileResult.isUnlisted, FileResult.stdout, FileResult.isUnopened, sumLine_ne_nil]

/-- A file without a line has left a complaint. -/
theorem Says.anyError_of_allError {result : FileResult} (h : t.Says self file result t')
    (hopen : result.isUnopened = false) (hall : t'.allError = true) : t'.anyError = true := by
  rw [h.allError, Bool.and_eq_true] at hall
  rw [h.anyError]
  cases result with
  | unopened err => exact absurd hopen.symm Bool.false_ne_true
  | unread err => exact Bool.or_true _
  | unclosed err hash collision => exact absurd hall.2 Bool.false_ne_true
  | listed hash collision => exact absurd hall.2 Bool.false_ne_true

theorem processFile_cases (b : Build) (host : Host) (self file : CString) (t : Tool) :
    (t.processFile b host self file = .error .closed ∧ file = ['-'] ∧ t.stdin = none) ∨
    wp (t.processFile b host self file) (Ctl.Holds
      (fun t' => host.opens file = true ∧ ∃ result, result.isUnopened = false ∧ t.Says self file result t')
      fun t' => host.opens file = false ∧ ∃ result, result.isUnopened = true ∧ t.Says self file result t') := by
  by_cases hfile : file = ['-']
  · subst file
    cases hstdin : t.stdin with
    | none =>
      refine .inl ⟨?_, rfl, rfl⟩
      rw [processFile, if_neg (not_not.mpr rfl)]
      dsimp only
      rw [hstdin]
    | some f =>
      refine .inr (wp_mono (wp_processFile_stdin b host self hstdin) ?_)
      rintro (t' | t') hsaid
      · exact ⟨host.opens_stdin, _, File.isUnopened_result b _ _ f, hsaid.1⟩
      · exact hsaid.elim
  · have hresult := host.isUnopened_result b (isPartial self) file
    refine .inr (wp_mono (wp_processFile b host self t hfile) ?_)
    rintro (t' | t') hsaid
    · obtain ⟨hopen, hsaid, -⟩ := hsaid
      exact ⟨hopen, _, by rw [hresult, hopen]; rfl, hsaid⟩
    · obtain ⟨hopen, hsaid⟩ := hsaid
      exact ⟨hopen, _, by rw [hresult, hopen]; rfl, hsaid⟩

/-- What the exit status says about the tool that a run leaves. -/
structure Ends (host : Host) (files : List CString) (status : Nat) (t : Tool) : Prop where
  stopped : files.all host.opens = false → status = 1 ∧ t.stderr ≠ []
  finished : files.all host.opens = true →
    t.Marked ∧ (t.allError = true → t.anyError = true) ∧ status = t.anyError.toNat + 2 * t.allError.toNat

theorem processFiles_ends {files : List CString} {status : Nat} (hm : t.Marked)
    (hnil : files = [] → t.allError = true → t.anyError = true)
    (h : processFiles b host self files t = .ok (status, t')) : Ends host files status t' := by
  induction files generalizing t with
  | nil =>
    obtain ⟨rfl, rfl⟩ := Prod.mk.inj (Except.ok.inj h)
    exact ⟨fun hall => absurd hall.symm Bool.false_ne_true, fun _ => ⟨hm, hnil rfl, rfl⟩⟩
  | cons file files ih =>
    rw [processFiles] at h
    rcases processFile_cases b host self file t with ⟨herror, -, -⟩ | ⟨c, hc, hsaid⟩
    · rw [herror] at h
      exact absurd h (by simp [bind, Except.bind])
    · rw [hc, ok_bind] at h
      rcases c with t₁ | t₁
      · obtain ⟨hopen, result, hresult, hsaid⟩ := hsaid
        have hends := ih (hsaid.marked hm hresult) (fun _ => hsaid.anyError_of_allError hresult) h
        refine ⟨fun hall => hends.stopped ?_, fun hall => hends.finished ?_⟩
        · rwa [List.all_cons, hopen, Bool.true_and] at hall
        · rwa [List.all_cons, hopen, Bool.true_and] at hall
      · obtain ⟨hopen, result, hresult, hsaid⟩ := hsaid
        obtain ⟨rfl, rfl⟩ := Prod.mk.inj (Except.ok.inj h)
        refine ⟨fun _ => ⟨rfl, ?_⟩, fun hall => ?_⟩
        · rw [hsaid.stderr]
          cases result <;> simp_all [FileResult.stderr, FileResult.isUnopened, complaint_ne_nil]
        · rw [List.all_cons, hopen, Bool.false_and] at hall
          exact absurd hall Bool.false_ne_true

end Tool

theorem parseArgv_ne_nil (host : Host) (argv : List CString) : (parseArgv host argv).2 ≠ [] := by
  rcases argv with _ | ⟨argv0, _ | ⟨argv1, files⟩⟩ <;> exact List.cons_ne_nil _ _

/-- A run that ends does so with 0 if and only if it has complained about nothing, with 3 if and only if it
has opened everything and has written no line, and with 1 otherwise. -/
theorem main_status (b : Build) (host : Host) (ctx₀ : Ctx) (argv : List CString) {status : Nat} {t : Tool}
    (h : main b host ctx₀ argv = .ok (status, t)) :
    (status = 0 ↔ t.stderr = []) ∧
      (status = 3 ↔ (parseArgv host argv).2.all host.opens = true ∧ t.stdout = []) ∧
      (status = 0 ∨ status = 1 ∨ status = 3) := by
  have hends : Tool.Ends host (parseArgv host argv).2 status t :=
    Tool.processFiles_ends ⟨by simp, by simp⟩ (fun hnil => absurd hnil (parseArgv_ne_nil host argv)) h
  cases hall : (parseArgv host argv).2.all host.opens with
  | false =>
    obtain ⟨rfl, hstderr⟩ := hends.stopped hall
    simp [hstderr]
  | true =>
    obtain ⟨hm, hany, rfl⟩ := hends.finished hall
    have h₁ := hm.anyError
    have h₂ := hm.allError
    cases hanyError : t.anyError <;> cases hallError : t.allError <;> simp_all

theorem main_status_missing : ∃ t, main portable exampleHost shatteredCtx ["sha1dcsum".toList, "abd".toList] =
    .ok (1, t) ∧ t.stderr ≠ [] :=
  have hr : ∃ t, main portable exampleHost shatteredCtx ["sha1dcsum".toList, "abd".toList] = .ok (1, t) :=
    ⟨_, rfl⟩
  have ⟨t, ht⟩ := hr
  ⟨t, ht, fun hnil => absurd ((main_status portable exampleHost shatteredCtx _ ht).1.mpr hnil) (by decide)⟩

/-! ### A closed `stdin` -/

namespace Tool

/-- `stdin`, when it is used `n` times more, is used after it has been closed. -/
def Overdrawn (t : Tool) (n : Nat) : Prop :=
  match t.stdin with
  | none => 1 ≤ n
  | some f => (f.error || f.source.err.isSome) = false ∧ 2 ≤ n

theorem Overdrawn.congr (h : t'.stdin = t.stdin) (n : Nat) : t'.Overdrawn n ↔ t.Overdrawn n := by
  rw [Overdrawn, Overdrawn, h]

theorem Leaves.overdrawn_iff (h : t.Leaves f true t') (hstdin : t.stdin = some f) (n : Nat) :
    t'.Overdrawn n ↔ t.Overdrawn (n + 1) := by
  rw [Leaves, if_pos rfl] at h
  rw [Overdrawn, Overdrawn, hstdin]
  cases herror : f.error || f.source.err.isSome with
  | true =>
    rw [herror, if_pos rfl] at h
    obtain ⟨f', hf', herror'⟩ := h
    rw [hf']
    simp [herror', herror]
  | false =>
    rw [herror, if_neg Bool.false_ne_true] at h
    rw [h]
    simp [herror]

/-- Induction on the files: each `-` takes one from the number of uses that are left. -/
theorem processFiles_closed_iff (b : Build) (host : Host) (self : CString) (files : List CString) (t : Tool) :
    (t.Overdrawn ((host.reached files).count ['-']) → processFiles b host self files t = .error .closed) ∧
      (¬ t.Overdrawn ((host.reached files).count ['-']) → ∃ r, processFiles b host self files t = .ok r) := by
  induction files generalizing t with
  | nil =>
    refine ⟨fun h => ?_, fun _ => ⟨_, rfl⟩⟩
    rw [Host.reached, List.count_nil, Overdrawn] at h
    cases hstdin : t.stdin <;> simp [hstdin] at h
  | cons file files ih =>
    rw [Host.reached]
    by_cases hfile : file = ['-']
    · subst file
      rw [if_pos host.opens_stdin, List.count_cons_self, processFiles]
      cases hstdin : t.stdin with
      | none =>
        have hclosed : t.processFile b host self ['-'] = .error .closed := by
          rw [processFile, if_neg (not_not.mpr rfl)]
          dsimp only
          rw [hstdin]
        refine ⟨fun _ => by rw [hclosed]; rfl, fun h => absurd ?_ h⟩
        rw [Overdrawn, hstdin]
        exact Nat.le_add_left 1 _
      | some f =>
        obtain ⟨c, hc, hsaid⟩ := wp_processFile_stdin b host self hstdin
        rcases c with t' | t'
        · rw [hc, ok_bind, ← hsaid.2.overdrawn_iff hstdin]
          exact ih t'
        · exact hsaid.elim
    · obtain ⟨c, hc, hsaid⟩ := wp_processFile b host self t hfile
      rw [List.count_cons_of_ne hfile, processFiles, hc, ok_bind]
      rcases c with t' | t'
      · obtain ⟨hopen, -, hleaves⟩ := hsaid
        rw [hopen, if_pos rfl, ← Overdrawn.congr hleaves]
        exact ih t'
      · obtain ⟨hopen, -⟩ := hsaid
        rw [hopen, if_neg Bool.false_ne_true, List.count_nil]
        refine ⟨fun h => ?_, fun _ => ⟨_, rfl⟩⟩
        rw [Overdrawn] at h
        cases hstdin : t.stdin <;> simp [hstdin] at h

end Tool

/-- The one fault a run can meet is that of reading `stdin` behind its `fclose`: when `-` comes twice before
the first file that cannot be opened, and the first time `stdin` ends without an error. -/
theorem main_closed_iff (b : Build) (host : Host) (ctx₀ : Ctx) (argv : List CString) :
    let twice := host.stdin.source.err = none ∧ 2 ≤ (host.reached (parseArgv host argv).2).count ['-']
    (main b host ctx₀ argv = .error .closed ↔ twice) ∧ (¬ twice → ∃ r, main b host ctx₀ argv = .ok r) := by
  intro twice
  let t := Tool.mk ctx₀ (List.replicate bufferSize 0) (some { host.stdin with error := false }) host.errno
    false true [] []
  have hiff : t.Overdrawn ((host.reached (parseArgv host argv).2).count ['-']) ↔ twice := by
    rw [Tool.Overdrawn]
    dsimp only [t, twice]
    rw [Bool.false_or, Option.isSome_eq_false_iff, Option.isNone_iff_eq_none]
  obtain ⟨hclosed, hok⟩ := Tool.processFiles_closed_iff b host (parseArgv host argv).1 (parseArgv host argv).2 t
  rw [hiff] at hclosed hok
  refine ⟨⟨fun h => ?_, hclosed⟩, hok⟩
  by_contra hnot
  obtain ⟨r, hr⟩ := hok hnot
  exact absurd (h.symm.trans hr) (by simp)

end Sha1dc
