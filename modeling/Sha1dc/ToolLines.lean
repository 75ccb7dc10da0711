import Sha1dc.ToolSim

/-!
# Reading the lines of the tool back

A line has a hash of fixed width, a mark of fixed width and a name that ends at the newline. So what a run
has written to `stdout` says which files it has listed, with which hashes and marks, unless there is a
newline in a name, which the tool writes as it is (`main_stdout_injective`).
-/

namespace Sha1dc
open Checked Fips

/-! ### Lines -/

theorem hexDigit_injective {n n' : Nat} (hn : n < 16) (hn' : n' < 16) (h : hexDigit n = hexDigit n') :
    n = n' := by
  have hall : ∀ n < 16, ∀ n' < 16, hexDigit n = hexDigit n' → n = n' := by decide
  exact hall n hn n' hn' h

theorem hexByte_injective {x y : Byte} (h : hexByte x = hexByte y) : x = y := by
  have hx := x.isLt
  have hy := y.isLt
  simp only [hexByte, List.cons.injEq, and_true] at h
  obtain ⟨hhigh, hlow⟩ := h
  have hdiv := hexDigit_injective (by omega) (by omega) hhigh
  have hmod := hexDigit_injective (Nat.mod_lt _ (by decide)) (Nat.mod_lt _ (by decide)) hlow
  exact BitVec.eq_of_toNat_eq (by omega)

theorem hexBytes_injective {l l' : List Byte} (hlen : l.length = l'.length)
    (h : l.flatMap hexByte = l'.flatMap hexByte) : l = l' := by
  induction l generalizing l' with
  | nil => exact (List.eq_nil_of_length_eq_zero hlen.symm).symm
  | cons x l ih =>
    cases l' with
    | nil => exact absurd hlen (Nat.succ_ne_zero _)
    | cons y l' =>
      rw [List.flatMap_cons, List.flatMap_cons] at h
      obtain ⟨hbyte, hrest⟩ := List.append_inj h rfl
      rw [hexByte_injective hbyte, ih (Nat.succ.inj hlen) hrest]

theorem length_hexBytes (l : List Byte) : (l.flatMap hexByte).length = 2 * l.length := by
  induction l with
  | nil => rfl
  | cons x l ih =>
    rw [List.flatMap_cons, List.length_append, ih, hexByte, List.length_cons]
    simp
    omega

/-- A name without a newline ends where its line does. -/
theorem newline_inj {l l' r r' : CString} (hl : '\n' ∉ l) (hl' : '\n' ∉ l')
    (h : l ++ '\n' :: r = l' ++ '\n' :: r') : l = l' ∧ r = r' := by
  induction l generalizing l' with
  | nil =>
    cases l' with
    | nil => exact ⟨rfl, (List.cons.inj h).2⟩
    | cons y l' => exact absurd (List.cons.inj h).1 (fun heq => hl' (heq ▸ List.mem_cons_self))
  | cons x l ih =>
    cases l' with
    | nil => exact absurd (List.cons.inj h).1 (fun heq => hl (heq ▸ List.mem_cons_self))
    | cons y l' =>
      obtain ⟨rfl, htail⟩ := List.cons.inj h
      obtain ⟨rfl, rfl⟩ := ih (fun hx => hl (List.mem_cons_of_mem _ hx))
        (fun hx => hl' (List.mem_cons_of_mem _ hx)) htail
      exact ⟨rfl, rfl⟩

/-- What a line says. -/
structure Entry where
  hash : List Byte
  collision : Bool
  file : CString

namespace Entry

def line (e : Entry) : CString := sumLine e.hash e.collision e.file

/-- The line has the width of a hash and is one line. -/
structure Plain (e : Entry) : Prop where
  length : e.hash.length = 20
  file : '\n' ∉ e.file

theorem lines_injective {es es' : List Entry} (hes : ∀ e ∈ es, e.Plain) (hes' : ∀ e ∈ es', e.Plain)
    (h : es.flatMap line = es'.flatMap line) : es = es' := by
  induction es generalizing es' with
  | nil =>
    cases es' with
    | nil => rfl
    | cons e' es' => simp [line, sumLine] at h
  | cons e es ih =>
    cases es' with
    | nil => simp [line, sumLine] at h
    | cons e' es' =>
      have he := hes e List.mem_cons_self
      have he' := hes' e' List.mem_cons_self
      simp only [List.flatMap_cons, line, sumLine, List.append_assoc] at h
      obtain ⟨hhash, h⟩ := List.append_inj h (by
        rw [length_hexBytes, length_hexBytes, he.length, he'.length])
      obtain ⟨hmark, h⟩ := List.append_inj h (by cases e.collision <;> cases e'.collision <;> simp)
      obtain ⟨hfile, h⟩ := newline_inj he.file he'.file h
      have hcollision : e.collision = e'.collision := by
        cases hc : e.collision <;> cases hc' : e'.collision <;> rw [hc, hc'] at hmark <;>
          first | rfl | exact absurd hmark (by decide)
      have heq : e = e' := by
        obtain ⟨hash, collision, file⟩ := e
        obtain ⟨hash', collision', file'⟩ := e'
        obtain rfl : hash = hash' := hexBytes_injective (he.length.trans he'.length.symm) hhash
        obtain rfl : collision = collision' := hcollision
        obtain rfl : file = file' := hfile
        rfl
      rw [heq, ih (fun e he => hes e (List.mem_cons_of_mem _ he))
        (fun e he => hes' e (List.mem_cons_of_mem _ he)) h]

end Entry

def FileResult.entry (file : CString) : FileResult → Option Entry
  | unclosed _ hash collision => some ⟨hash, collision, file⟩
  | listed hash collision => some ⟨hash, collision, file⟩
  | _ => none

/-- The entries of a run, from file to file. -/
def Host.entries (b : Build) (host : Host) (self : CString) (files : List CString) : List Entry :=
  (host.reached files).filterMap fun file => (host.result b (isPartial self) file).entry file

variable {file : CString}

theorem length_digest (cv : ChainingValue) : (digest cv).length = 20 := rfl

theorem File.entry_plain (b : Build) (reduced : Bool) (errno : CString) (f : File) (hfile : '\n' ∉ file)
    {e : Entry} (h : (f.result b reduced errno).entry file = some e) : e.Plain := by
  rw [File.result] at h
  split at h
  · exact absurd h (by simp [FileResult.entry])
  · cases hclosing : f.closing <;> rw [hclosing] at h <;> obtain rfl := Option.some.inj h <;>
      exact ⟨length_digest _, hfile⟩

theorem Host.entry_plain (b : Build) (host : Host) (reduced : Bool) (hfile : '\n' ∉ file) {e : Entry}
    (h : (host.result b reduced file).entry file = some e) : e.Plain := by
  rw [Host.result] at h
  split at h
  · exact absurd h (by simp [FileResult.entry])
  · exact File.entry_plain b reduced [] _ hfile h

theorem FileResult.stdout_eq (file : CString) (result : FileResult) :
    result.stdout file = (result.entry file).toList.flatMap Entry.line := by
  cases result <;> simp [stdout, entry, Entry.line]

theorem Host.stdout_eq (b : Build) (host : Host) (self : CString) (files : List CString) :
    (host.reached files).flatMap (fun file => (host.result b (isPartial self) file).stdout file) =
      (host.entries b self files).flatMap Entry.line := by
  rw [Host.entries]
  induction host.reached files with
  | nil => rfl
  | cons file files ih =>
    rw [List.flatMap_cons, ih, FileResult.stdout_eq, List.filterMap_cons]
    cases (host.result b (isPartial self) file).entry file <;> simp

theorem Host.entries_plain (b : Build) (host : Host) (self : CString) {files : List CString}
    (h : ∀ file ∈ files, '\n' ∉ file) : ∀ e ∈ host.entries b self files, e.Plain := by
  have hreached : ∀ files : List CString, host.reached files ⊆ files := by
    intro files
    induction files with
    | nil => exact List.Subset.refl _
    | cons file files ih =>
      rw [Host.reached]
      split
      · exact List.cons_subset_cons file ih
      · exact List.cons_subset_cons file (List.nil_subset _)
  intro e he
  obtain ⟨file, hfile, hentry⟩ := List.mem_filterMap.mp he
  exact Host.entry_plain b host _ (h file (hreached files hfile)) hentry

/-- Two runs that write the same to `stdout` have listed the same files with the same hashes and marks, in
the same order. -/
theorem main_stdout_injective (b b' : Build) (host host' : Host) (ctx₀ ctx₀' : Ctx)
    (argv argv' : List CString) (hcount : (parseArgv host argv).2.count ['-'] ≤ 1)
    (hcount' : (parseArgv host' argv').2.count ['-'] ≤ 1)
    (hfiles : ∀ file ∈ (parseArgv host argv).2, '\n' ∉ file)
    (hfiles' : ∀ file ∈ (parseArgv host' argv').2, '\n' ∉ file) :
    ∃ r r', main b host ctx₀ argv = .ok r ∧ main b' host' ctx₀' argv' = .ok r' ∧
      (r.2.stdout = r'.2.stdout →
        host.entries b (parseArgv host argv).1 (parseArgv host argv).2 =
          host'.entries b' (parseArgv host' argv').1 (parseArgv host' argv').2) := by
  obtain ⟨r, hr, hout, -⟩ := wp_main b host ctx₀ argv hcount
  obtain ⟨r', hr', hout', -⟩ := wp_main b' host' ctx₀' argv' hcount'
  refine ⟨r, r', hr, hr', fun h => ?_⟩
  rw [hout, hout', Host.stdout_eq, Host.stdout_eq] at h
  exact Entry.lines_injective (Host.entries_plain b host _ hfiles) (Host.entries_plain b' host' _ hfiles') h

theorem main_stdout_injective_abc : ∃ r r', main portable exampleHost shatteredCtx
    ["sha1dcsum".toList, "abc".toList] = .ok r ∧
    main accelerated exampleHost shatteredCtx ["partial".toList, "abc".toList] = .ok r' ∧
      (r.2.stdout = r'.2.stdout → exampleHost.entries portable "sha1dcsum".toList ["abc".toList] =
        exampleHost.entries accelerated "partial".toList ["abc".toList]) :=
  main_stdout_injective portable accelerated exampleHost exampleHost shatteredCtx shatteredCtx
    ["sha1dcsum".toList, "abc".toList] ["partial".toList, "abc".toList] (by decide) (by decide) (by decide)
    (by decide)

end Sha1dc
