import RestScaffold.Emission.Emitter
import RestScaffold.Proofs.Disk.Write

/-! # Files emitted one after the other

A run that emits files leaves each place with what was last written there, and every other file as
it was. The same files can then be emitted again, and the disk stays as it is.
-/
namespace RestScaffold
open Disk

namespace Emitter

section Steps
variable {σ : Type} [MonadDisk (StateM σ)] {e e' : Emitter} {f : OutputFile} {s s' : σ}

theorem createDir_eq (e : Emitter) (below : Path) (s : σ) :
    (e.createDir below : StateM σ _) s =
      match (ensureDir (e.root.join below) : StateM σ _) s with
      | (.ok (), s') => (.ok (), s')
      | (.error fault, s') => (.error (.disk (e.root.join below) fault), s') := by
  unfold createDir
  rw [stateM_bind]
  obtain ⟨result,s'⟩ := (ensureDir (e.root.join below) : StateM σ _) s
  cases result with
  | ok _ => rfl
  | error fault => rfl

theorem emit_eq (e : Emitter) (f : OutputFile) (s : σ) : (e.emit f : StateM σ _) s =
    match (f.writeTo e.root : StateM σ _) s with
    | (.ok result, s') => ((e.note (f.fullPath e.root) result, .ok result), s')
    | (.error fault, s') => ((e, .error (.disk (f.fullPath e.root) fault)), s') := by
  unfold emit
  rw [stateM_bind]
  obtain ⟨result,s'⟩ := (f.writeTo e.root : StateM σ _) s
  cases result with
  | ok result => rfl
  | error fault => rfl

theorem emitAll_cons_eq (e : Emitter) (f : OutputFile) (rest : List OutputFile) (s : σ) :
    (e.emitAll (f :: rest) : StateM σ _) s =
      match (e.emit f : StateM σ _) s with
      | ((e', .ok _), s') => (e'.emitAll rest : StateM σ _) s'
      | ((e', .error cause), s') => ((e', .error cause), s') := by
  rw [emitAll, stateM_bind]
  obtain ⟨⟨e',result⟩,s'⟩ := (e.emit f : StateM σ _) s
  cases result with
  | ok result => rfl
  | error cause => rfl

theorem note_root (e : Emitter) (p : Path) (result : WriteResult) :
    (e.note p result).root = e.root := by
  cases result <;> rfl

/-- Files that are emitted one after the other, each with what became of it. -/
inductive Emits : Emitter → σ → List (OutputFile × WriteResult) → Emitter → σ → Prop where
  | nil (e : Emitter) (s : σ) : Emits e s [] e s
  | cons {e e₁ e' : Emitter} {s s₁ s' : σ} {f : OutputFile} {result : WriteResult}
      {done : List (OutputFile × WriteResult)}
      (first : (e.emit f : StateM σ _) s = ((e₁, .ok result), s₁)) (rest : Emits e₁ s₁ done e' s') :
      Emits e s ((f, result) :: done) e' s'

/-- A run emits its files one after the other, to the last or up to one that fails. -/
theorem emitAll_cases (e : Emitter) (files : List OutputFile) (s : σ) :
    ∃ done e' s₁, Emits e s done e' s₁ ∧
      (files = done.map Prod.fst ∧ (e.emitAll files : StateM σ _) s = ((e', .ok ()), s₁) ∨
        ∃ f rest cause s', files = done.map Prod.fst ++ f :: rest ∧
          (e'.emit f : StateM σ _) s₁ = ((e', .error cause), s') ∧
          (e.emitAll files : StateM σ _) s = ((e', .error cause), s')) := by
  induction files generalizing e s with
  | nil => exact ⟨[],e,s,.nil e s,Or.inl ⟨rfl,rfl⟩⟩
  | cons f rest ih =>
    rw [emitAll_cons_eq]
    cases hf : (e.emit f : StateM σ _) s with
    | mk outcome s₁ =>
      obtain ⟨e₁,result⟩ := outcome
      cases result with
      | ok result =>
        obtain ⟨done,e',s₂,hdone,hend⟩ := ih e₁ s₁
        refine ⟨(f,result) :: done,e',s₂,.cons hf hdone,?_⟩
        rcases hend with ⟨hfiles,hrun⟩ | ⟨g,others,cause,s',hfiles,hg,hrun⟩
        · exact Or.inl ⟨by rw [hfiles]; rfl,hrun⟩
        · exact Or.inr ⟨g,others,cause,s',by rw [hfiles]; rfl,hg,hrun⟩
      | error cause =>
        have he : e₁ = e := by
          rw [emit_eq] at hf
          split at hf
          · cases hf
          · cases hf
            rfl
        subst he
        exact ⟨[],e₁,s,.nil e₁ s,Or.inr ⟨f,rest,cause,s₁,rfl,hf,rfl⟩⟩

/-- Whatever comes after a file that fails is not looked at. -/
theorem Emits.emitAll_stop {done : List (OutputFile × WriteResult)} {s₁ : σ}
    {cause : GenerationError} (h : Emits e s done e' s₁)
    (hf : (e'.emit f : StateM σ _) s₁ = ((e', .error cause), s')) (others : List OutputFile) :
    (e.emitAll (done.map Prod.fst ++ f :: others) : StateM σ _) s = ((e', .error cause), s') := by
  induction h with
  | nil e s =>
    rw [List.map_nil, List.nil_append, emitAll_cons_eq, hf]
  | cons first rest ih =>
    rw [List.map_cons, List.cons_append, emitAll_cons_eq, first]
    exact ih hf

end Steps

/-- The files of some that were emitted with a given result. -/
def withResult (result : WriteResult) (done : List (OutputFile × WriteResult)) : List OutputFile :=
  (done.filter fun d => d.2 = result).map Prod.fst

/-- The emitter after some files, each with what became of it. -/
def noteResults (e : Emitter) (done : List (OutputFile × WriteResult)) : Emitter :=
  done.foldl (fun e d => e.note (d.1.fullPath e.root) d.2) e

/-- The emitter after it has written some files. -/
def noteAll (e : Emitter) (files : List OutputFile) : Emitter :=
  e.noteResults (files.map fun f => (f, .written))

/-- A file of a run, and the place and the bytes that were written for it. -/
structure Wrote (d : Disk) (root : Path) (f : OutputFile) (w : Place × Entry) : Prop where
  ready : Ready d (f.fullPath root) w.1
  bytes : w.2 = .file f.content.toUTF8

/-- What a run of the emitter leaves behind: each place holds what was last written there, and
nothing was written anywhere else. -/
structure Emitted (d d' : Disk) (root : Path) (files : List OutputFile)
    (writes : List (Place × Entry)) : Prop where
  grows : Grows d d'
  wrote : List.Forall₂ (Wrote d' root) files writes
  last : ∀ place entry, writes.reverse.lookup place = some entry → d'.entry? place = some entry
  rest : ∀ place, place ∉ writes.map Prod.fst → d'.file? place = d.file? place

section Effects
variable {d d' middle : Disk} {root : Path} {f : OutputFile} {files : List OutputFile}
  {writes : List (Place × Entry)} {place : Place}

theorem file?_put_self (d : Disk) (h : place ≠ []) (bytes : ByteArray) :
    (d.put place (.file bytes)).file? place = some bytes :=
  file?_eq_some_iff.mpr (entry?_put_self d h _)

theorem file?_put_of_ne (d : Disk) {other : Place} (h : other ≠ place) (entry : Entry) :
    (d.put place entry).file? other = d.file? other := by
  rw [file?, file?, entry?_put_of_ne d h]

theorem Wrote.mono {w : Place × Entry} (h : Wrote d root f w) (hg : Grows d d') :
    Wrote d' root f w :=
  ⟨h.ready.mono hg,h.bytes⟩

theorem Emitted.nil (d : Disk) (root : Path) : Emitted d d root [] [] :=
  ⟨.refl d,.nil,fun _ _ h => (nomatch h),fun _ _ => rfl⟩

theorem Emitted.after (h : Emitted middle d' root files writes)
    (hadds : AddsDirectories d middle) : Emitted d d' root files writes :=
  ⟨hadds.grows.trans h.grows,h.wrote,h.last,fun place hp => (h.rest place hp).trans
    (hadds.files place)⟩

theorem Emitted.before (h : Emitted d middle root files writes)
    (hadds : AddsDirectories middle d') : Emitted d d' root files writes := by
  refine ⟨h.grows.trans hadds.grows,h.wrote.imp fun _ _ hw => hw.mono hadds.grows,?_,?_⟩
  · intro place entry hl
    have hentry := h.last place entry hl
    cases entry with
    | directory => exact hadds.grows.directory place hentry
    | file bytes =>
      rw [← file?_eq_some_iff, hadds.files]
      exact file?_eq_some_iff.mpr hentry
  · exact fun place hp => (hadds.files place).trans (h.rest place hp)

/-- A place that is written again holds what is written then. -/
theorem Emitted.cons (hfree : d.entry? place ≠ some .directory)
    (hready : Ready (d.put place (.file f.content.toUTF8)) (f.fullPath root) place)
    (h : Emitted (d.put place (.file f.content.toUTF8)) d' root files writes) :
    Emitted d d' root (f :: files) ((place, .file f.content.toUTF8) :: writes) := by
  have hplace := hready.file.ne_nil
  refine ⟨(grows_put_file hfree _).trans h.grows,.cons ⟨hready.mono h.grows,rfl⟩ h.wrote,?_,?_⟩
  · intro k entry hl
    rw [List.reverse_cons, List.lookup_append] at hl
    cases hr : writes.reverse.lookup k with
    | some later =>
      rw [hr] at hl
      rw [h.last k later hr]
      exact hl
    | none =>
      -- no later write went to this place, so what was put there is still there
      rw [hr, Option.none_or] at hl
      by_cases hk : k = place
      · subst hk
        have hsame := h.rest k (lookup_reverse_eq_none_iff.mp hr)
        rw [file?_put_self d hplace] at hsame
        rw [List.lookup_cons_self] at hl
        rw [← Option.some.inj hl]
        exact file?_eq_some_iff.mp hsame
      · have hne : (k == place) = false := by simpa using hk
        simp [List.lookup_cons, hne] at hl
  · intro k hk
    obtain ⟨hkplace,hk⟩ := List.ne_and_not_mem_of_not_mem_cons hk
    rw [h.rest k hk, file?_put_of_ne d hkplace]

end Effects

section Runs
variable {σ : Type} [MonadDisk (StateM σ)] [HasDisk σ] {e e' : Emitter} {f : OutputFile}
  {s s' : σ} {done : List (OutputFile × WriteResult)}
open HasDisk

theorem createDir_spec {below : Path} {result : Except GenerationError Unit}
    (h : (e.createDir below : StateM σ _) s = (result, s')) :
    AddsDirectories (disk s) (disk s') ∧
      (result = .ok () → Settled (disk s') (e.root.join below)) ∧
      ∀ cause, result = .error cause → ∃ fault, cause = .disk (e.root.join below) fault := by
  rw [createDir_eq] at h
  cases he : (ensureDir (e.root.join below) : StateM σ _) s with
  | mk ensured middle =>
    obtain ⟨hadds,hsettled⟩ := ensureDir_spec he
    rw [he] at h
    cases ensured with
    | ok _ =>
      cases h
      exact ⟨hadds,fun _ => hsettled rfl,fun cause hc => nomatch hc⟩
    | error fault =>
      cases h
      exact ⟨hadds,(fun hr => nomatch hr),fun cause hc => ⟨fault,(Except.error.inj hc).symm⟩⟩

theorem emit_eq_ok {result : WriteResult}
    (h : (e.emit f : StateM σ _) s = ((e', .ok result), s')) :
    e' = e.note (f.fullPath e.root) result ∧ WriteCase f.rules.overwrite (f.fullPath e.root)
      f.content (disk s) (disk s') (.ok result) := by
  rw [emit_eq] at h
  cases hw : (f.writeTo e.root : StateM σ _) s with
  | mk wrote after =>
    rw [hw] at h
    cases wrote with
    | ok _ =>
      cases h
      exact ⟨rfl,writeWith_case hw⟩
    | error fault => cases h

theorem emit_eq_error {cause : GenerationError}
    (h : (e.emit f : StateM σ _) s = ((e', .error cause), s')) :
    e' = e ∧ (∃ fault, cause = .disk (f.fullPath e.root) fault) ∧
      AddsDirectories (disk s) (disk s') := by
  rw [emit_eq] at h
  cases hw : (f.writeTo e.root : StateM σ _) s with
  | mk wrote after =>
    rw [hw] at h
    cases wrote with
    | ok _ => cases h
    | error fault =>
      cases h
      cases writeWith_case hw with
      | failed hadds => exact ⟨rfl,⟨fault,rfl⟩,hadds⟩

/-- What files emitted one after the other leave behind. -/
theorem Emits.emitted (h : Emits e s done e' s') : e' = e.noteResults done ∧
    ∃ writes, Emitted (disk s) (disk s') e.root (withResult .written done) writes := by
  -- the writes are put together from the last file to the first, as `Emitted.cons` needs them
  induction h with
  | nil e s => exact ⟨rfl,[],.nil (disk s) e.root⟩
  | @cons e e₁ e' s s₁ s' f result done first _ ih =>
    obtain ⟨rfl,hcase⟩ := emit_eq_ok first
    obtain ⟨he,writes,hemitted⟩ := ih
    refine ⟨he,?_⟩
    rw [note_root] at hemitted
    cases hcase with
    | written _ hadds hfree hput hready =>
      rw [hput] at hemitted hready
      exact ⟨_,(hemitted.cons hfree hready).after hadds⟩
    | skipped _ _ hsame =>
      rw [hsame] at hemitted
      exact ⟨writes,hemitted⟩

/-- A file that is always overwritten is never skipped. -/
theorem Emits.written_of_always {result : WriteResult} (h : Emits e s done e' s')
    (hin : (f, result) ∈ done) (hrule : f.rules.overwrite = .always) : result = .written := by
  induction h with
  | nil => exact absurd hin List.not_mem_nil
  | cons emitted _ ih =>
    rcases List.mem_cons.mp hin with he | hin
    · cases he
      cases (emit_eq_ok emitted).2 with
      | written _ _ _ _ _ => rfl
      | skipped hskip _ _ =>
        rw [hrule] at hskip
        cases hskip
    · exact ih hin

theorem Emits.all_written (h : Emits e s done e' s')
    (hf : ∀ f ∈ done.map Prod.fst, f.rules.overwrite = .always) :
    (done.map Prod.fst).map (fun f => (f, .written)) = done := by
  have hresult : ∀ d ∈ done, (d.1, WriteResult.written) = d := by
    intro d hd
    rw [← h.written_of_always hd (hf d.1 (List.mem_map_of_mem hd))]
  rw [List.map_map]
  exact (List.map_congr_left hresult).trans (List.map_id' done)

theorem withResult_written (files : List OutputFile) :
    withResult .written (files.map fun f => (f, .written)) = files := by
  simp [withResult, List.filter_map, Function.comp_def]

theorem emitAll_spec {files : List OutputFile} (hf : ∀ f ∈ files, f.rules.overwrite = .always)
    (h : (e.emitAll files : StateM σ _) s = ((e', .ok ()), s')) :
    e' = e.noteAll files ∧ ∃ writes, Emitted (disk s) (disk s') e.root files writes := by
  obtain ⟨done,e₁,s₁,hdone,⟨hfiles,hrun⟩ | ⟨f,rest,cause,s₂,_,_,hrun⟩⟩ := emitAll_cases e files s
  · cases hrun.symm.trans h
    rw [hfiles] at hf
    have hspec := hdone.emitted
    rw [← hdone.all_written hf, ← hfiles, withResult_written] at hspec
    exact hspec
  · cases hrun.symm.trans h

end Runs

section Again
variable {d d' : Disk} {e : Emitter} {files : List OutputFile}

theorem createDir_of_settled {below : Path} (h : Settled d (e.root.join below)) :
    (e.createDir below : StateM Disk _) d = (.ok (), d) := by
  rw [createDir_eq, ensureDir_of_settled h]

theorem emit_of_ready {f : OutputFile} {place : Place} (hf : f.rules.overwrite = .always)
    (h : Ready d (f.fullPath e.root) place) : (e.emit f : StateM Disk _) d =
      ((e.note (f.fullPath e.root) .written, .ok .written),
        d.put place (.file f.content.toUTF8)) := by
  rw [emit_eq, OutputFile.writeTo, hf, writeWith, writeNew_eq, writeFile_of_ready h]

/-- Files that were emitted are put in their places once more. -/
theorem emitAll_of_wrote {root : Path} (hroot : e.root = root)
    (hf : ∀ f ∈ files, f.rules.overwrite = .always) {writes : List (Place × Entry)}
    (h : List.Forall₂ (Wrote d root) files writes) : (e.emitAll files : StateM Disk _) d =
      ((e.noteAll files, .ok ()), { d with entries := putAll writes d.entries }) := by
  induction files generalizing e d writes with
  | nil =>
    cases h
    rfl
  | cons f rest ih =>
    obtain ⟨hfirst,hf⟩ := List.forall_mem_cons.mp hf
    obtain ⟨⟨place,entry⟩,writes,⟨hready,hbytes⟩,hrest,rfl⟩ := List.forall₂_cons_left_iff.mp h
    simp only at hready hbytes
    subst hroot hbytes
    obtain ⟨bytes,hfile⟩ := hready.file.file
    have hdir : d.entry? place ≠ some .directory := by
      rw [hfile]
      simp
    have hgrows := grows_put_file hdir f.content.toUTF8
    rw [emitAll_cons_eq, emit_of_ready hfirst hready]
    exact ih (e := e.note (f.fullPath e.root) .written) rfl hf
      (hrest.imp fun _ _ hw => hw.mono hgrows)

theorem Emitted.again {root : Path} {writes : List (Place × Entry)} (hroot : e.root = root)
    (hf : ∀ f ∈ files, f.rules.overwrite = .always) (h : Emitted d d' root files writes) :
    (e.emitAll files : StateM Disk _) d' = ((e.noteAll files, .ok ()), d') := by
  rw [emitAll_of_wrote hroot hf h.wrote]
  have hsame : putAll writes d'.entries = d'.entries := by
    refine putAll_eq_self ?_
    intro place entry hl
    have hin : place ∈ writes.map Prod.fst := by
      by_contra hnot
      rw [lookup_reverse_eq_none_iff.mpr hnot] at hl
      cases hl
    obtain ⟨w,hw,rfl⟩ := List.mem_map.mp hin
    obtain ⟨f,_,hwrote⟩ := exists_of_mem_right h.wrote hw
    rw [← entry?_of_ne_nil d' hwrote.ready.file.ne_nil]
    exact h.last w.1 entry hl
  rw [hsame]

end Again

end Emitter
end RestScaffold
