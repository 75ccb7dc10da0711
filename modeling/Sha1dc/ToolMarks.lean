import Mathlib.Data.List.Forall2
import Sha1dc.Collisions
import Sha1dc.ToolLines

/-!
# The hashes and the marks of the tool

What the lines of the tool say about the bytes behind the names. There is one for each file that is read
without an error, in order; it is marked if and only if, on the chain of plain SHA-1, some block has a twin
that the filter lets through, and without a mark it shows the SHA-1 of the file (`main_lines`). Under a
name with the word "partial" in it the tool marks what it marks under any other name, and writes the same
lines for what it does not mark (`main_partial`). Two files that meet as a block and its twin are both marked
(`main_twins`).
-/

namespace Sha1dc
open Checked Fips

/-! ### The entries of a run -/

def Host.content (host : Host) (file : CString) : Option Content :=
  if file = ['-'] then some host.stdin else (host.fopen file).toOption

/-- The file can be opened and read to its end. -/
def Host.reads (host : Host) (file : CString) : Bool := (host.content file).any (·.source.err.isNone)

def Host.bytes (host : Host) (file : CString) : List Byte :=
  ((host.content file).map (·.source.items)).getD []

def Host.entryOf (b : Build) (host : Host) (reduced : Bool) (file : CString) : Entry :=
  let M := toolMachine b reduced (host.bytes file)
  ⟨digest M.cv, M.found, file⟩

variable {reduced reduced' : Bool} {file file' : CString} {k : Dv} {j : Nat} {B B' : Block}

theorem File.entry_result (b : Build) (reduced : Bool) (errno : CString) (content : Content) :
    (File.result b reduced errno { content with error := false }).entry file =
      if content.source.err.isNone then
        let M := toolMachine b reduced content.source.items
        some ⟨digest M.cv, M.found, file⟩
      else none := by
  rw [File.result]
  cases content.source.err with
  | some err => rfl
  | none => cases content.closing <;> rfl

theorem Host.entry_result (b : Build) (host : Host) (reduced : Bool) (file : CString) :
    (host.result b reduced file).entry file =
      if host.reads file then some (host.entryOf b reduced file) else none := by
  rw [Host.result, Host.reads, Host.entryOf, Host.bytes, Host.content]
  by_cases h : file = ['-']
  · rw [if_pos h, if_pos h]
    exact File.entry_result b reduced [] _
  · rw [if_neg h, if_neg h]
    cases host.fopen file with
    | error err => rfl
    | ok content => exact File.entry_result b reduced [] content

/-- Which files are listed depends neither on the build nor on the name of the tool. -/
theorem Host.entries_eq (b : Build) (host : Host) (self : CString) (files : List CString) :
    host.entries b self files =
      ((host.reached files).filter host.reads).map (host.entryOf b (isPartial self)) := by
  rw [Host.entries]
  induction host.reached files with
  | nil => rfl
  | cons file files ih =>
    rw [List.filterMap_cons, List.filter_cons, Host.entry_result, ih]
    cases host.reads file <;> rfl

/-! ### What a line says -/

/-- On the chain of plain SHA-1 some block has a twin that the filter lets through. -/
def HasTwin (reduced : Bool) (Bs : List Block) : Prop :=
  ∃ (j : Nat) (B : Block) (k : Dv), Bs[j]? = some B ∧ Possible ubcs (expand B).seq k ∧
    Confirms reduced k (expand B) (plainCv Bs j)

/-- What the line for `name` says about the bytes behind it. -/
structure Host.Tells (b : Build) (host : Host) (reduced : Bool) (name : CString) (e : Entry) : Prop where
  file : e.file = name
  collision : e.collision = true ↔ HasTwin reduced (messageBlocks (pad (host.bytes name)))
  hash : e.collision = false ∨ b.doSafeHashDefault = false → e.hash = sha1 (host.bytes name)

theorem found_runBlocks_toolSettings (b : Build) (reduced : Bool) (Bs : List Block) :
    (Machine.runBlocks (toolSettings b reduced 0) Bs).found = true ↔ HasTwin reduced Bs := by
  rw [Machine.found_runBlocks_iff]
  constructor
  · rintro ⟨j, B, hB, hsome⟩
    obtain ⟨-, k, hubc, hconf⟩ := detect_isSome_iff.mp hsome
    exact ⟨j, B, k, hB, hubc rfl, hconf⟩
  · rintro ⟨j, B, k, hB, hubc, hconf⟩
    exact ⟨j, B, hB, detect_isSome_iff.mpr ⟨rfl, k, fun _ => hubc, hconf⟩⟩

theorem Host.tells_entryOf (b : Build) (host : Host) (reduced : Bool) (file : CString) :
    host.Tells b reduced file (host.entryOf b reduced file) where
  file := rfl
  collision := found_runBlocks_toolSettings b reduced _
  hash h := by
    rw [entryOf, sha1]
    refine congrArg digest ?_
    rcases h with hnone | hplain
    · exact Machine.cv_runBlocks_of_found hnone
    · exact Machine.cv_runBlocks_plain (.inr hplain) _

/-- The lines are those of the files that can be read, in order; a mark stands for a block with a twin on
the chain of SHA-1, and SHA-1 is what a line without a mark shows. -/
theorem main_lines (b : Build) (host : Host) (ctx₀ : Ctx) (argv : List CString)
    (hcount : (parseArgv host argv).2.count ['-'] ≤ 1) :
    ∃ r es, main b host ctx₀ argv = .ok r ∧ r.2.stdout = es.flatMap Entry.line ∧
      List.Forall₂ (host.Tells b (isPartial (parseArgv host argv).1))
        ((host.reached (parseArgv host argv).2).filter host.reads) es := by
  obtain ⟨r, hr, hout, -⟩ := wp_main b host ctx₀ argv hcount
  rw [Host.stdout_eq] at hout
  refine ⟨r, _, hr, hout, ?_⟩
  rw [Host.entries_eq, List.forall₂_map_right_iff, List.forall₂_same]
  exact fun file _ => host.tells_entryOf b _ file

/-- The two colliding files, up to the collision, under the names `1` and `2`. -/
def shatteredHost : Host where
  basename := basename
  fopen file :=
    if file = ['1'] then .ok ⟨.ofList shattered1, none⟩
    else if file = ['2'] then .ok ⟨.ofList shattered2, none⟩
    else .error []
  stdin := ⟨.eof, none⟩
  errno := []

@[simp] theorem content_shattered1 : shatteredHost.content ['1'] = some ⟨.ofList shattered1, none⟩ := rfl

@[simp] theorem content_shattered2 : shatteredHost.content ['2'] = some ⟨.ofList shattered2, none⟩ := rfl

theorem reached_shattered : (shatteredHost.reached [['1'], ['2']]).filter shatteredHost.reads =
    [['1'], ['2']] := by
  have hreads1 : shatteredHost.reads ['1'] = true := by simp [Host.reads]
  have hreads2 : shatteredHost.reads ['2'] = true := by simp [Host.reads]
  rw [show shatteredHost.reached [['1'], ['2']] = [['1'], ['2']] from rfl, List.filter_cons, if_pos hreads1,
    List.filter_cons, if_pos hreads2, List.filter_nil]

theorem main_lines_shattered : ∃ r es, main portable shatteredHost shatteredCtx [['s'], ['1'], ['2']] = .ok r ∧
    r.2.stdout = es.flatMap Entry.line ∧
      List.Forall₂ (shatteredHost.Tells portable (isPartial ['s'])) [['1'], ['2']] es :=
  have ⟨r, es, hr, hout, htells⟩ := main_lines portable shatteredHost shatteredCtx [['s'], ['1'], ['2']]
    (by decide)
  ⟨r, es, hr, hout, reached_shattered ▸ htells⟩

/-! ### The name of the tool -/

/-- A line of a tool that looks for less and one of a tool that looks for more. -/
structure Entry.Le (e e' : Entry) : Prop where
  file : e.file = e'.file
  collision : e.collision = true → e'.collision = true
  eq : e'.collision = false → e = e'

theorem Host.entryOf_le (b b' : Build) (host : Host) (h : reduced = true → reduced' = true)
    (file : CString) : (host.entryOf b reduced file).Le (host.entryOf b' reduced' file) := by
  have hle : Settings.Le (toolSettings b reduced 0) (toolSettings b' reduced' 0) := ⟨id, id, h⟩
  have hagree := Machine.agree_runBlocks hle (messageBlocks (pad (host.bytes file)))
  rw [entryOf, entryOf]
  dsimp only [toolMachine]
  refine ⟨rfl, fun hfound => ?_, fun hnone => ?_⟩
  · by_contra hnone
    obtain ⟨hnone', -⟩ := hagree (Bool.eq_false_iff.mpr hnone)
    exact Bool.false_ne_true (hnone'.symm.trans hfound)
  · obtain ⟨hnone', hcv⟩ := hagree hnone
    dsimp only at hnone
    rw [hnone, hnone', hcv]

theorem File.isError_result (b : Build) (reduced : Bool) (errno : CString) (f : File) :
    (f.result b reduced errno).isError = (f.error || f.source.err.isSome || f.closing.isSome) := by
  rw [File.result]
  split
  · next herror => rw [herror]; rfl
  · next herror =>
    rw [Bool.eq_false_iff.mpr herror]
    cases f.closing <;> rfl

theorem File.isUnlisted_result (b : Build) (reduced : Bool) (errno : CString) (f : File) :
    (f.result b reduced errno).isUnlisted = (f.error || f.source.err.isSome) := by
  rw [File.result]
  split
  · next herror => rw [herror]; rfl
  · next herror =>
    rw [Bool.eq_false_iff.mpr herror]
    cases f.closing <;> rfl

/-- What goes into the exit status does not depend on the hash. -/
theorem Host.flags_result (b b' : Build) (host : Host) (reduced reduced' : Bool) (file : CString) :
    (host.result b reduced file).isError = (host.result b' reduced' file).isError ∧
      (host.result b reduced file).isUnlisted = (host.result b' reduced' file).isUnlisted := by
  rw [Host.result, Host.result]
  split
  · exact ⟨rfl, rfl⟩
  · rw [File.isError_result, File.isError_result, File.isUnlisted_result, File.isUnlisted_result]
    exact ⟨rfl, rfl⟩

/-- Of two runs over the same files the one that looks for more marks every file that the other marks; the
lines of the files that it does not mark are the same, and so is the exit status. -/
theorem main_partial (b b' : Build) (host : Host) (ctx₀ ctx₀' : Ctx) (argv argv' : List CString)
    (hfiles : (parseArgv host argv).2 = (parseArgv host argv').2)
    (hcount : (parseArgv host argv).2.count ['-'] ≤ 1)
    (hname : isPartial (parseArgv host argv).1 = true → isPartial (parseArgv host argv').1 = true) :
    ∃ r r' es es', main b host ctx₀ argv = .ok r ∧ main b' host ctx₀' argv' = .ok r' ∧ r.1 = r'.1 ∧
      r.2.stdout = es.flatMap Entry.line ∧ r'.2.stdout = es'.flatMap Entry.line ∧
      List.Forall₂ Entry.Le es es' := by
  obtain ⟨r, hr, hout, -, hstatus⟩ := wp_main b host ctx₀ argv hcount
  obtain ⟨r', hr', hout', -, hstatus'⟩ := wp_main b' host ctx₀' argv' (hfiles ▸ hcount)
  rw [Host.stdout_eq] at hout hout'
  refine ⟨r, r', _, _, hr, hr', ?_, hout, hout', ?_⟩
  · have hflags := host.flags_result b b' (isPartial (parseArgv host argv).1)
      (isPartial (parseArgv host argv').1)
    rw [hstatus, hstatus', ← hfiles]
    simp only [hflags]
  · rw [Host.entries_eq, Host.entries_eq, ← hfiles, List.forall₂_map_left_iff, List.forall₂_map_right_iff,
      List.forall₂_same]
    exact fun file _ => host.entryOf_le b b' hname file

theorem main_partial_shattered : ∃ r r' es es',
    main portable shatteredHost shatteredCtx [['s'], ['1'], ['2']] = .ok r ∧
    main portable shatteredHost shatteredCtx ["partial".toList, ['1'], ['2']] = .ok r' ∧ r.1 = r'.1 ∧
      r.2.stdout = es.flatMap Entry.line ∧ r'.2.stdout = es'.flatMap Entry.line ∧
      List.Forall₂ Entry.Le es es' :=
  main_partial portable portable shatteredHost shatteredCtx shatteredCtx [['s'], ['1'], ['2']]
    ["partial".toList, ['1'], ['2']] rfl (by decide) (fun h => absurd h (by decide))

/-! ### The two halves of an attack -/

/-- Two files that meet as a block and its twin, which the filter lets through, are marked wherever they are
listed; without safe hashing their lines have the same hash if they go on in the same way. -/
theorem main_twins (b : Build) (host : Host) (ctx₀ : Ctx) (argv : List CString)
    (hcount : (parseArgv host argv).2.count ['-'] ≤ 1)
    (h : Twins k (messageBlocks (pad (host.bytes file))) (messageBlocks (pad (host.bytes file'))) j B B')
    (hubc : Possible ubcs (expand B).seq k) :
    ∃ (r : Nat × Tool) (es : List Entry), main b host ctx₀ argv = .ok r ∧
      r.2.stdout = es.flatMap Entry.line ∧
      es.map Entry.file = (host.reached (parseArgv host argv).2).filter host.reads ∧
      (∀ e ∈ es, e.file = file ∨ e.file = file' → e.collision = true) ∧
      (b.doSafeHashDefault = false →
        (messageBlocks (pad (host.bytes file))).drop (j + 1) =
          (messageBlocks (pad (host.bytes file'))).drop (j + 1) →
        ∀ e ∈ es, ∀ e' ∈ es, e.file = file → e'.file = file' → e.hash = e'.hash) := by
  obtain ⟨r, hr, hout, -⟩ := wp_main b host ctx₀ argv hcount
  rw [Host.stdout_eq] at hout
  rw [Host.entries_eq] at hout
  have hubc' : Possible ubcs (expand B').seq k := by rwa [h.expand_eq, possible_twinOf]
  refine ⟨r, _, hr, hout, ?_, ?_, ?_⟩
  · rw [List.map_map]
    exact List.map_id _
  · intro e he hname
    obtain ⟨name, -, rfl⟩ := List.mem_map.mp he
    rcases hname with rfl | rfl
    · exact h.found rfl fun _ => hubc
    · exact h.symm.found rfl fun _ => hubc'
  · intro hplain hdrop e he e' he' hname hname'
    obtain ⟨name, -, rfl⟩ := List.mem_map.mp he
    obtain ⟨name', -, rfl⟩ := List.mem_map.mp he'
    subst hname hname'
    rw [(host.tells_entryOf b _ _).hash (.inr hplain), (host.tells_entryOf b _ _).hash (.inr hplain)]
    exact congrArg digest (h.foldl_eq hdrop)

theorem possible_shattered : Possible ubcs (expand shatteredBlock).seq 27 := by
  have hmask : (do
      let r ← portable.addBlockExpandingSaving shatteredCtx shatteredBlock
      let dvs ← ubcCheckBaseline .little ubcs r.2.1
      return dvBit dvs 27) = (.ok true : Chk Bool) := by decide +kernel
  obtain ⟨dvs, hdvs, hbit⟩ := wp_ubcCheckBaseline .little (by decide) valid_ubcs (expand shatteredBlock)
  rw [addBlockExpandingSaving_eq, ok_bind, hdvs, ok_bind] at hmask
  exact (hbit 27 (by decide)).mp (Except.ok.inj hmask)

theorem main_twins_shattered : ∃ (r : Nat × Tool) (es : List Entry),
    main portable shatteredHost shatteredCtx [['s'], ['1'], ['2']] = .ok r ∧
      r.2.stdout = es.flatMap Entry.line ∧ es.map Entry.file = [['1'], ['2']] ∧
      ∀ e ∈ es, e.file = ['1'] ∨ e.file = ['2'] → e.collision = true := by
  have htwins := shattered_twins
  rw [List.flatten_singleton, List.flatten_singleton] at htwins
  have hbytes1 : shatteredHost.bytes ['1'] = shattered1 := by simp [Host.bytes]
  have hbytes2 : shatteredHost.bytes ['2'] = shattered2 := by simp [Host.bytes]
  rw [← hbytes1, ← hbytes2] at htwins
  obtain ⟨r, es, hr, hout, hnames, hmarks, -⟩ := main_twins portable shatteredHost shatteredCtx
    [['s'], ['1'], ['2']] (by decide) htwins possible_shattered
  exact ⟨r, es, hr, hout, hnames.trans reached_shattered, hmarks⟩

end Sha1dc
