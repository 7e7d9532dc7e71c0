import RestScaffold.Generation.Run
import RestScaffold.Proofs.Emission.Account
import RestScaffold.Proofs.Generation.Paths
import RestScaffold.Proofs.Output.File

/-! # What a run leaves on the disk

A run that succeeds leaves every file of its preview at the place of its path, the last one where
several go to the same place, and every other file as it was. So the same run succeeds again and
does nothing. A run whose preview fails does nothing at all.

Files at one place have one path as long as no variable leads out of the directory of the handlers.
A policy may give such a variable, and a handler file can then replace one of another path.
-/
namespace RestScaffold
open Disk
variable {d d' : Disk} {policy : NamingPolicy} {schemas : List Schema} {models : List Model}

namespace Emitter
variable {e e' : Emitter} {files : List OutputFile}

section Steps
variable {σ : Type} [MonadDisk (StateM σ)]

theorem writeFiles_eq (e : Emitter) (files : List OutputFile) (s : σ) :
    (e.writeFiles files : StateM σ _) s =
      match (e.createDir ⟨"handlers"⟩ : StateM σ _) s with
      | (.error cause, s') => ((e, .error cause), s')
      | (.ok (), s') =>
        match (e.createDir ⟨""⟩ : StateM σ _) s' with
        | (.error cause, s') => ((e, .error cause), s')
        | (.ok (), s') => (e.emitAll files : StateM σ _) s' := by
  unfold writeFiles
  rw [stateM_bind]
  obtain ⟨first,middle⟩ := (e.createDir ⟨"handlers"⟩ : StateM σ _) s
  cases first with
  | error cause => rfl
  | ok _ =>
    simp only
    rw [stateM_bind]
    obtain ⟨second,last⟩ := (e.createDir ⟨""⟩ : StateM σ _) middle
    cases second with
    | error cause => rfl
    | ok _ => rfl

/-- Files are only written once both directories are there. -/
theorem writeFiles_eq_ok {s s' : σ}
    (h : (e.writeFiles files : StateM σ _) s = ((e', .ok ()), s')) : ∃ s₁ s₂,
    (e.createDir ⟨"handlers"⟩ : StateM σ _) s = (.ok (), s₁) ∧
      (e.createDir ⟨""⟩ : StateM σ _) s₁ = (.ok (), s₂) ∧
      (e.emitAll files : StateM σ _) s₂ = ((e', .ok ()), s') := by
  rw [writeFiles_eq] at h
  cases hfirst : (e.createDir ⟨"handlers"⟩ : StateM σ _) s with
  | mk first middle =>
    rw [hfirst] at h
    cases first with
    | error cause => cases h
    | ok _ =>
      simp only at h
      cases hsecond : (e.createDir ⟨""⟩ : StateM σ _) middle with
      | mk second last =>
        rw [hsecond] at h
        cases second with
        | error cause => cases h
        | ok _ => exact ⟨middle,last,rfl,hsecond,h⟩

/-- Nothing but a step on the disk can stop the writing. -/
theorem writeFiles_error [HasDisk σ] {s s' : σ} {cause : GenerationError}
    (h : (e.writeFiles files : StateM σ _) s = ((e', .error cause), s')) :
    ∃ path fault, cause = .disk path fault := by
  rw [writeFiles_eq] at h
  cases hfirst : (e.createDir ⟨"handlers"⟩ : StateM σ _) s with
  | mk first middle =>
    rw [hfirst] at h
    cases first with
    | error cause =>
      cases h
      exact ⟨_,(createDir_spec hfirst).2.2 cause rfl⟩
    | ok _ =>
      simp only at h
      cases hsecond : (e.createDir ⟨""⟩ : StateM σ _) middle with
      | mk second last =>
        rw [hsecond] at h
        cases second with
        | error cause =>
          cases h
          exact ⟨_,(createDir_spec hsecond).2.2 cause rfl⟩
        | ok _ =>
          obtain ⟨_,_,_,_,⟨_,hrun⟩ | ⟨f,_,_,_,_,hf,hrun⟩⟩ := emitAll_cases e files last
          · cases hrun.symm.trans h
          · cases hrun.symm.trans h
            exact ⟨_,(emit_eq_error hf).2.1⟩

end Steps

/-- A run that writes all its files finds their directories there the next time. -/
theorem writeFiles_spec (hf : ∀ f ∈ files, f.rules.overwrite = .always)
    (h : (e.writeFiles files : StateM Disk _) d = ((e', .ok ()), d')) :
    e' = e.noteAll files ∧ (∃ writes, Emitted d d' e.root files writes) ∧
      (e.writeFiles files : StateM Disk _) d' = ((e.noteAll files, .ok ()), d') := by
  obtain ⟨middle,last,hfirst,hsecond,hrun⟩ := writeFiles_eq_ok h
  obtain ⟨hadds,hsettled,_⟩ := createDir_spec hfirst
  obtain ⟨hadds',hsettled',_⟩ := createDir_spec hsecond
  obtain ⟨he,writes,hemitted⟩ := emitAll_spec hf hrun
  refine ⟨he,⟨writes,hemitted.after (hadds.trans hadds')⟩,?_⟩
  have hdir : Settled d' (e.root.join ⟨"handlers"⟩) :=
    (hsettled rfl).mono (hadds'.grows.trans hemitted.grows)
  have hdir' : Settled d' (e.root.join ⟨""⟩) := (hsettled' rfl).mono hemitted.grows
  rw [writeFiles_eq, createDir_of_settled hdir]
  simp only
  rw [createDir_of_settled hdir']
  exact hemitted.again rfl hf

/-- The files written are reported once each, in the order of their first mention. -/
theorem noteAll_eq (root : Path) (files : List OutputFile) :
    (new root).noteAll files = ⟨root,listed root files,[]⟩ := by
  have hskipped : withResult .skipped (files.map fun f => (f, .written)) = [] := by
    simp [withResult, List.filter_map, Function.comp_def]
  rw [noteAll, noteResults_new, withResult_written, hskipped]
  rfl

theorem noteAll_new {root : Path} (h : ∀ f ∈ files, ∀ g ∈ files,
      (f.fullPath root).sameAs (g.fullPath root) = true ↔ f.path = g.path) :
    (new root).noteAll files =
      ⟨root,(files.map OutputFile.path).eraseDups.map root.join,[]⟩ := by
  have hpaths : ∀ p ∈ files.map OutputFile.path, ∀ q ∈ files.map OutputFile.path,
      (root.join p).sameAs (root.join q) = (p == q) := by
    intro p hp q hq
    obtain ⟨f,hf,rfl⟩ := List.mem_map.mp hp
    obtain ⟨g,hg,rfl⟩ := List.mem_map.mp hq
    rw [Bool.eq_iff_iff, beq_iff_eq]
    exact h f hf g hg
  rw [noteAll_eq, ← eraseDupsBy_map hpaths, List.map_map]
  rfl

end Emitter

/-- A file that goes below the output directory under some names. -/
structure OutputFile.Under (f : OutputFile) (names : List String) : Prop where
  path : f.path = (⟨""⟩ : Path).below names
  fileNames : ∀ s ∈ names, FileName s
  ne_nil : names ≠ []

namespace OutputFile.Under
variable {f g : OutputFile} {names others : List String} {root : Path}

theorem normal (h : f.Under names) : f.path.Normal := by
  rw [h.path]
  exact Path.normal_below h.fileNames h.ne_nil

theorem path_sameAs_iff (hf : f.Under names) (hg : g.Under others) :
    f.path.sameAs g.path = true ↔ f.path = g.path := by
  rw [hf.path, hg.path,
    Path.below_sameAs_below ⟨""⟩ hf.fileNames hg.fileNames hf.ne_nil hg.ne_nil]
  constructor
  · rintro rfl
    rfl
  · intro he
    rw [← Path.steps_below hf.fileNames hf.ne_nil, he, Path.steps_below hg.fileNames hg.ne_nil]

theorem fullPath_sameAs_iff (hf : f.Under names) (hg : g.Under others) (root : Path) :
    (f.fullPath root).sameAs (g.fullPath root) = true ↔ f.path = g.path := by
  rw [OutputFile.fullPath, OutputFile.fullPath, Path.sameAs_join root hf.normal hg.normal]
  exact hf.path_sameAs_iff hg

end OutputFile.Under

/-- Files that go below the output directory are at one place only if their paths are the same. -/
theorem fullPaths_sameAs_iff {files : List OutputFile} (hu : ∀ f ∈ files, ∃ names, f.Under names)
    (root : Path) : ∀ f ∈ files, ∀ g ∈ files,
      (f.fullPath root).sameAs (g.fullPath root) = true ↔ f.path = g.path := by
  intro f hf g hg
  obtain ⟨names,hfn⟩ := hu f hf
  obtain ⟨others,hgn⟩ := hu g hg
  exact hfn.fullPath_sameAs_iff hgn root

/-- What a run leaves on the disk and says of its files. -/
structure Ran (files : List OutputFile) (output : Path) (d d' : Disk) (report : Report) : Prop where
  /-- A file stays if no later one goes to its place. -/
  last : ∀ earlier f later, files = earlier ++ f :: later →
    (∀ g ∈ later, d'.resolve (output.join g.path) ≠ d'.resolve (output.join f.path)) →
    d'.held? (output.join f.path) = some f.content.toUTF8
  rest : ∀ place, (∀ f ∈ files, d'.resolve (output.join f.path) ≠ .ok place) →
    d'.file? place = d.file? place
  /-- The paths that were written, each once and in the order of their first mention. -/
  written : report.written = Emitter.listed output files
  skipped : report.skipped = []

/-- Each path of some files holds the last file of that path, however it is spelled. -/
def HoldsLast (files : List OutputFile) (output : Path) (d : Disk) : Prop :=
  ∀ earlier f later, files = earlier ++ f :: later → (∀ g ∈ later, g.path.sameAs f.path = false) →
    ∀ g ∈ files, g.path.sameAs f.path = true →
      d.held? (output.join g.path) = some f.content.toUTF8

theorem Emitter.Emitted.holdsLast {root : Path} {files : List OutputFile}
    {writes : List (Place × Entry)} (h : Emitted d d' root files writes)
    (hn : ∀ f ∈ files, f.path.Normal) : HoldsLast files root d' := by
  have hjoin : ∀ f ∈ files, ∀ g ∈ files,
      (f.fullPath root).sameAs (g.fullPath root) = f.path.sameAs g.path :=
    fun f hf g hg => Path.sameAs_join root (hn f hf) (hn g hg)
  intro earlier f later hs hlast g hg hsame
  have hf : f ∈ files := by simp [hs]
  refine h.held?_eq hn hs ?_ hg ((hjoin g hg f hf).trans hsame)
  intro k hk
  exact (hjoin k (by simp [hs, hk]) f hf).trans (hlast k hk)

theorem rules_eq_generated {layout : Layout} {f : GeneratedFile} (hf : f ∈ filesOf layout models) :
    f.rules = .generated := by
  rcases mem_filesOf_cases hf with rfl | rfl | ⟨_,_,rfl⟩ | ⟨_,_,rfl⟩ <;> rfl

namespace Job
variable {j : Job} {files : List OutputFile} {output : Path} {report : Report}

section Steps
variable {σ : Type} [MonadDisk (StateM σ)]

theorem generate_of_error {cause : GenerationError} (h : j.render = .error cause) (output : Path)
    (s : σ) : (j.generate output : StateM σ _) s = (.error ⟨[],cause⟩, s) := by
  unfold generate
  rw [h]
  rfl

theorem generate_of_ok (h : j.render = .ok files) (output : Path) (s : σ) :
    (j.generate output : StateM σ _) s =
      match ((Emitter.new output).writeFiles files : StateM σ _) s with
      | ((e, .ok ()), s') => (.ok e.finish, s')
      | ((e, .error cause), s') => (.error (e.fail cause), s') := by
  unfold generate
  rw [h]
  simp only
  rw [stateM_bind]
  obtain ⟨⟨e,result⟩,s'⟩ := ((Emitter.new output).writeFiles files : StateM σ _) s
  cases result with
  | ok _ => rfl
  | error cause => rfl

/-- A run that succeeds has rendered its files and written them. -/
theorem generate_eq_ok {s s' : σ}
    (h : (j.generate output : StateM σ _) s = (.ok report, s')) : ∃ files e,
    j.render = .ok files ∧ report = e.finish ∧
      ((Emitter.new output).writeFiles files : StateM σ _) s = ((e, .ok ()), s') := by
  cases hr : j.render with
  | error cause =>
    rw [generate_of_error hr] at h
    cases h
  | ok files =>
    rw [generate_of_ok hr] at h
    cases hw : ((Emitter.new output).writeFiles files : StateM σ _) s with
    | mk outcome last =>
      rw [hw] at h
      obtain ⟨e,result⟩ := outcome
      cases result with
      | error cause => cases h
      | ok _ =>
        cases h
        exact ⟨files,e,rfl,rfl,hw⟩

end Steps

theorem generate_of_writeFiles (h : j.render = .ok files) {e : Emitter}
    (hw : ((Emitter.new output).writeFiles files : StateM Disk _) d = ((e, .ok ()), d')) :
    (j.generate output : StateM Disk _) d = (.ok e.finish, d') := by
  rw [generate_of_ok h, hw]

theorem exists_generate (h : j.render = .ok files) {e : Emitter}
    (hw : (((Emitter.new output).writeFiles files : StateM Disk _) d).1 = (e, .ok ())) :
    ∃ d', (j.generate output : StateM Disk _) d = (.ok e.finish, d') :=
  ⟨_,generate_of_writeFiles h (Prod.ext hw rfl)⟩

theorem always_of_render (h : j.render = .ok files) :
    ∀ f ∈ files, f.rules.overwrite = .always := by
  obtain ⟨models,_,he⟩ := bind_eq_ok_iff.mp h
  cases he
  intro f hf
  obtain ⟨g,hg,rfl⟩ := List.mem_map.mp hf
  change g.rules.overwrite = .always
  rw [rules_eq_generated hg]
  rfl

theorem under_of_namesFiles (hv : j.policy.NamesFiles j.schemas) (h : j.render = .ok files) :
    ∀ f ∈ files, ∃ names, f.Under names := by
  obtain ⟨models,hm,he⟩ := bind_eq_ok_iff.mp h
  cases he
  intro f hf
  obtain ⟨g,hg,rfl⟩ := List.mem_map.mp hf
  exact ⟨g.steps,path_finish g,fileName_steps_of_namesFiles hv hm hg,steps_ne_nil hg⟩

theorem under_of_render (hl : j.policy.LowersNames) (h : j.render = .ok files) :
    ∀ f ∈ files, f.rules.overwrite = .always ∧ ∃ names, f.Under names := by
  obtain ⟨_,hm,_⟩ := bind_eq_ok_iff.mp h
  intro f hf
  exact ⟨always_of_render h f hf,under_of_namesFiles (namesFiles_of_lowersNames hl hm) h f hf⟩

theorem ran_of_writeFiles (ha : ∀ f ∈ files, f.rules.overwrite = .always) {e : Emitter}
    (h : ((Emitter.new output).writeFiles files : StateM Disk _) d = ((e, .ok ()), d')) :
    Ran files output d d' e.finish ∧
      ((∀ f ∈ files, f.path.Normal) → HoldsLast files output d') ∧
      ((Emitter.new output).writeFiles files : StateM Disk _) d' = ((e, .ok ()), d') := by
  obtain ⟨rfl,⟨writes,hemitted⟩,hagain⟩ := Emitter.writeFiles_spec ha h
  refine ⟨⟨?_,?_,?_,?_⟩,hemitted.holdsLast,hagain⟩
  · intro earlier f later hs hlast
    exact hemitted.held?_last hs hlast
  · intro place hp
    exact hemitted.file?_eq hp
  · rw [Emitter.noteAll_eq]
    rfl
  · rw [Emitter.noteAll_eq]
    rfl

/-- A run whose files cannot be rendered leaves the disk alone. One that comes to its end leaves
every file at its place, the last one of those that go there, and a second one changes nothing.
Where all paths go down name by name, the files of one place are those of one path. They do if each
variable names a file, as those do that are made by lower case. -/
theorem generate_spec (schemas : List Schema) (policy : NamingPolicy) (layout : Layout)
    (output : Path) (d : Disk) :
    (∀ cause, (⟨schemas,policy,layout⟩ : Job).render = .error cause →
      ((⟨schemas,policy,layout⟩ : Job).generate output : StateM Disk _) d =
        (.error ⟨[],cause⟩, d)) ∧
    (∀ report d',
      ((⟨schemas,policy,layout⟩ : Job).generate output : StateM Disk _) d = (.ok report, d') →
      ∃ files, (⟨schemas,policy,layout⟩ : Job).render = .ok files ∧
        Ran files output d d' report ∧
        ((⟨schemas,policy,layout⟩ : Job).generate output : StateM Disk _) d' =
          (.ok report, d') ∧
        ((∀ f ∈ files, f.path.Normal) → HoldsLast files output d') ∧
        (policy.NamesFiles schemas → ∀ f ∈ files, f.path.Normal ∧
          ∀ g ∈ files, f.path.sameAs g.path = true → f.path = g.path) ∧
        (policy.LowersNames → policy.NamesFiles schemas)) := by
  refine ⟨fun cause h => generate_of_error h output d,?_⟩
  intro report d' h
  obtain ⟨files,e,hr,rfl,hw⟩ := generate_eq_ok h
  obtain ⟨hran,hlast,hagain⟩ := ran_of_writeFiles (always_of_render hr) hw
  obtain ⟨_,hm,_⟩ := bind_eq_ok_iff.mp hr
  refine ⟨files,hr,hran,generate_of_writeFiles hr hagain,hlast,?_,
    fun hl => namesFiles_of_lowersNames hl hm⟩
  intro hv f hf
  have hunder := under_of_namesFiles hv hr
  obtain ⟨names,hfn⟩ := hunder f hf
  refine ⟨hfn.normal,?_⟩
  intro g hg hsame
  obtain ⟨others,hgn⟩ := hunder g hg
  exact (hfn.path_sameAs_iff hgn).mp hsame

/-- Two models of one variable name end a run before it starts. Two that get along have a router
each, and the one of the second stays. -/
theorem main_models_generated :
    ((⟨[keyOnlySchema "Main", keyOnlySchema "MAIN"],.naive,.perModel⟩ : Job).generate ⟨"out"⟩ :
        StateM Disk _) .empty =
      (.error ⟨[],.model "MAIN" (.duplicateName .varName "main" "Main")⟩, .empty) ∧
    ∃ files report d',
      (⟨[keyOnlySchema "Main", keyOnlySchema "Models"],.naive,.perModel⟩ : Job).render =
        .ok files ∧
      report.written = [⟨"out/models.rs"⟩, ⟨"out/handlers/mod.rs"⟩, ⟨"out/handlers/main.rs"⟩,
        ⟨"out/main.rs"⟩, ⟨"out/handlers/models.rs"⟩] ∧
      Ran files ⟨"out"⟩ .empty d' report ∧ HoldsLast files ⟨"out"⟩ d' ∧
      ((⟨[keyOnlySchema "Main", keyOnlySchema "Models"],.naive,.perModel⟩ : Job).generate ⟨"out"⟩ :
        StateM Disk _) d' = (.ok report, d') := by
  have hclash : modelsOf .naive [keyOnlySchema "Main", keyOnlySchema "MAIN"] =
      .error (.model "MAIN" (.duplicateName .varName "main" "Main")) := by
    decide +kernel
  have hm : modelsOf .naive [keyOnlySchema "Main", keyOnlySchema "Models"] =
      .ok [keyOnlyModel "Main" "main" "main" "mains",
        keyOnlyModel "Models" "models" "models" "modelss"] := by
    decide +kernel
  have hrender : (⟨[keyOnlySchema "Main", keyOnlySchema "Models"],.naive,.perModel⟩ : Job).render =
      .ok _ := render_of_models hm
  have hok : (((Emitter.new ⟨"out"⟩).writeFiles ((filesOf .perModel
        [keyOnlyModel "Main" "main" "main" "mains",
          keyOnlyModel "Models" "models" "models" "modelss"]).map GeneratedFile.finish) :
        StateM Disk _) .empty).1 =
      (⟨⟨"out"⟩,[⟨"out/models.rs"⟩, ⟨"out/handlers/mod.rs"⟩, ⟨"out/handlers/main.rs"⟩,
        ⟨"out/main.rs"⟩, ⟨"out/handlers/models.rs"⟩],[]⟩, .ok ()) := by
    decide +kernel
  obtain ⟨d',hgen⟩ := exists_generate hrender hok
  have hfail := generate_spec [keyOnlySchema "Main", keyOnlySchema "MAIN"] .naive .perModel ⟨"out"⟩
    .empty
  have hspec := generate_spec [keyOnlySchema "Main", keyOnlySchema "Models"] .naive .perModel
    ⟨"out"⟩ .empty
  obtain ⟨files,hr,hran,hagain,hlast,hpaths,hnames⟩ := hspec.2 _ _ hgen
  have hnormal : ∀ f ∈ files, f.path.Normal :=
    fun f hf => (hpaths (hnames PluralPolicy.naive.lowersNames) f hf).1
  exact ⟨hfail.1 _ (render_of_refusal hclash),files,_,d',hr,rfl,hran,hlast hnormal,hagain⟩

/-- A policy whose variables lead back out of the directory of the handlers. -/
def strayPolicy : NamingPolicy := { NamingPolicy.naive with varName := fun _ => "../models" }

/-- The model of a post under such a policy, its files and the disk that a run leaves. -/
def strayModel : Model := keyOnlyModel "Post" "../models" "../models" "posts"

def strayFiles : List OutputFile := (filesOf .combined [strayModel]).map GeneratedFile.finish

def strayDisk : Disk := (((Emitter.new ⟨"out"⟩).writeFiles strayFiles : StateM Disk _) .empty).2

theorem writeFiles_strayFiles :
    ((Emitter.new ⟨"out"⟩).writeFiles strayFiles : StateM Disk _) .empty =
      ((⟨⟨"out"⟩,[⟨"out/models.rs"⟩, ⟨"out/handlers/mod.rs"⟩, ⟨"out/handlers/../models.rs"⟩,
        ⟨"out/main.rs"⟩],[]⟩, .ok ()), strayDisk) := by
  have hfirst : (((Emitter.new ⟨"out"⟩).writeFiles strayFiles : StateM Disk _) .empty).1 =
      (⟨⟨"out"⟩,[⟨"out/models.rs"⟩, ⟨"out/handlers/mod.rs"⟩, ⟨"out/handlers/../models.rs"⟩,
        ⟨"out/main.rs"⟩],[]⟩, .ok ()) := by
    decide +kernel
  rw [← hfirst, strayDisk]
  exact Prod.mk.eta.symm

theorem resolve_strayDisk :
    strayDisk.resolve ⟨"out/models.rs"⟩ = strayDisk.resolve ⟨"out/handlers/../models.rs"⟩ ∧
      strayDisk.resolve ⟨"out/main.rs"⟩ ≠ strayDisk.resolve ⟨"out/handlers/../models.rs"⟩ := by
  decide +kernel

theorem held?_strayDisk : strayDisk.held? ⟨"out/models.rs"⟩ =
    some strayModel.handlerFile.finish.content.toUTF8 := by
  have halways : ∀ f ∈ strayFiles, f.rules.overwrite = .always := by decide +kernel
  obtain ⟨hran,_⟩ := ran_of_writeFiles halways writeFiles_strayFiles
  have hsplit : strayFiles = [(recordsFile [strayModel]).finish, (handlerIndex [strayModel]).finish]
      ++ strayModel.handlerFile.finish :: [(routerFile [strayModel]).finish] := rfl
  have hhandler : (⟨"out"⟩ : Path).join strayModel.handlerFile.finish.path =
      ⟨"out/handlers/../models.rs"⟩ := by
    decide +kernel
  have hmain : (⟨"out"⟩ : Path).join (routerFile [strayModel]).finish.path = ⟨"out/main.rs"⟩ := by
    decide +kernel
  have hlast := hran.last _ _ _ hsplit
  rw [hhandler] at hlast
  rw [held?_congr resolve_strayDisk.1]
  refine hlast ?_
  intro g hg
  rw [List.mem_singleton.mp hg, hmain]
  exact resolve_strayDisk.2

theorem eq_recordsFile_of_path {f : OutputFile} (hf : f ∈ strayFiles)
    (hp : f.path = ⟨"models.rs"⟩) : f = (recordsFile [strayModel]).finish := by
  obtain ⟨g,hg,rfl⟩ := List.mem_map.mp hf
  rcases mem_filesOf_cases hg with rfl | rfl | ⟨m,hm,rfl⟩ | ⟨routed,_,rfl⟩
  · rfl
  · exact absurd hp (by decide +kernel)
  · rw [List.mem_singleton.mp hm] at hp
    exact absurd hp (by decide +kernel)
  · rw [path_routerFile] at hp
    exact absurd hp (by decide)

/-- Both start with their imports, and these differ. -/
theorem content_strayModel_ne :
    strayModel.handlerFile.finish.content ≠ (recordsFile [strayModel]).finish.content := by
  have hhandler : strayModel.handlerFile.source.codeLines.head? =
      some (.text 0 "use axum::Json;") := by
    decide +kernel
  have hrecords : (recordsFile [strayModel]).source.codeLines.head? =
      some (.text 0 "use serde::\x7bDeserialize, Serialize\x7d;") := by
    decide +kernel
  obtain ⟨code,hcode⟩ := content_of_head rfl hhandler
  obtain ⟨records,hrest⟩ := content_of_head rfl hrecords
  intro he
  rw [content_finish, content_finish, hcode, hrest] at he
  have hchar := congrArg (fun s : String => s.toList[4]?) ((String.append_right_inj _).mp he)
  simp [String.toList_append] at hchar

/-- The handler file of such a post takes the place of the records, whose path is another one. And
whatever the policy, the paths that a run has written are those of its preview only below the output
directory. -/
theorem stray_variable_replaces_records :
    (∃ files report d',
      (⟨[keyOnlySchema "Post"],strayPolicy,.combined⟩ : Job).render = .ok files ∧
      ((⟨[keyOnlySchema "Post"],strayPolicy,.combined⟩ : Job).generate ⟨"out"⟩ : StateM Disk _)
        .empty = (.ok report, d') ∧
      (∃ f ∈ files, f.path = ⟨"models.rs"⟩) ∧
      ∀ f ∈ files, f.path = ⟨"models.rs"⟩ →
        d'.held? ⟨"out/models.rs"⟩ ≠ some f.content.toUTF8) ∧
    ∃ files report d',
      (⟨[keyOnlySchema "Post"],.naive,.combined⟩ : Job).render = .ok files ∧
      ((⟨[keyOnlySchema "Post"],.naive,.combined⟩ : Job).generate ⟨"out"⟩ : StateM Disk _)
        .empty = (.ok report, d') ∧
      report.written ≠ (files.map OutputFile.path).eraseDups := by
  refine ⟨?_,?_⟩
  · have hm : modelsOf strayPolicy [keyOnlySchema "Post"] = .ok [strayModel] := by
      decide +kernel
    have hrender : (⟨[keyOnlySchema "Post"],strayPolicy,.combined⟩ : Job).render = .ok strayFiles :=
      render_of_models hm
    have hrecords : (recordsFile [strayModel]).finish.path = ⟨"models.rs"⟩ := by decide +kernel
    refine ⟨_,_,_,hrender,generate_of_writeFiles hrender writeFiles_strayFiles,
      ⟨_,List.mem_cons_self,hrecords⟩,?_⟩
    intro f hf hp he
    rw [eq_recordsFile_of_path hf hp] at he
    have hbytes := Option.some.inj (held?_strayDisk.symm.trans he)
    rw [String.toUTF8_eq_toByteArray, String.toUTF8_eq_toByteArray, String.toByteArray_inj] at hbytes
    exact content_strayModel_ne hbytes
  · have hm : modelsOf .naive [keyOnlySchema "Post"] =
        .ok [keyOnlyModel "Post" "post" "post" "posts"] := by
      decide +kernel
    have hrender : (⟨[keyOnlySchema "Post"],.naive,.combined⟩ : Job).render = .ok _ :=
      render_of_models hm
    have hrun : (((Emitter.new ⟨"out"⟩).writeFiles ((filesOf .combined
          [keyOnlyModel "Post" "post" "post" "posts"]).map GeneratedFile.finish) :
          StateM Disk _) .empty).1 =
        (⟨⟨"out"⟩,[⟨"out/models.rs"⟩, ⟨"out/handlers/mod.rs"⟩, ⟨"out/handlers/post.rs"⟩,
          ⟨"out/main.rs"⟩],[]⟩, .ok ()) := by
      decide +kernel
    obtain ⟨d',hgen⟩ := exists_generate hrender hrun
    exact ⟨_,_,d',hrender,hgen,by decide +kernel⟩

end Job
end RestScaffold
