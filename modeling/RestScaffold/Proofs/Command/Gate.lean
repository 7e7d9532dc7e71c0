import RestScaffold.Command.Run
import RestScaffold.Proofs.Generation.Run

/-! # A check before a run

A check, a preview and a run open the same manifest and render the same models. Neither the layout
nor the output directory has a say in whether that succeeds, so a check tells beforehand whether a
run gets as far as the disk.
-/
namespace RestScaffold
open Disk

/-- Batches are rendered in one layout exactly if they are in the other. -/
theorem Job.render_cases (schemas : List Schema) (policy : NamingPolicy) :
    (∀ layout, ∃ files, (⟨schemas,policy,layout⟩ : Job).render = .ok files) ∨
      ∃ cause, ∀ layout, (⟨schemas,policy,layout⟩ : Job).render = .error cause := by
  cases hm : modelsOf policy schemas with
  | ok models => exact Or.inl fun layout => ⟨_,render_of_models hm⟩
  | error cause => exact Or.inr ⟨cause,fun layout => render_of_refusal hm⟩

section Opening
variable {σ : Type} [MonadDisk (StateM σ)]

theorem openManifest_eq (path : Path) (s : σ) : (openManifest path : StateM σ _) s =
    match (MonadDisk.load path : StateM σ _) s with
    | (.error fault, s') => (.error (.unreadable path fault), s')
    | (.ok content, s') =>
      ((Manifest.ofText path.text content).map fun manifest => ⟨path, content, manifest⟩, s') := by
  unfold openManifest
  rw [stateM_bind]
  obtain ⟨result,s'⟩ := (MonadDisk.load path : StateM σ _) s
  cases result with
  | error fault => rfl
  | ok content => rfl

theorem openModels_eq (config : Path) (s : σ) : (openModels config : StateM σ _) s =
    match (openManifest config : StateM σ _) s with
    | (.error error, s') => (.error error, s')
    | (.ok file, s') => (file.manifest.schemas.map fun schemas => (file, schemas), s') := by
  unfold openModels
  rw [stateM_bind]
  obtain ⟨result,s'⟩ := (openManifest config : StateM σ _) s
  cases result with
  | error error => rfl
  | ok file => rfl

theorem runCheck_eq (config : Path) (s : σ) : (runCheck config : StateM σ _) s =
    match (openModels config : StateM σ _) s with
    | (.error error, s') => (.error (.manifest error), s')
    | (.ok (file, schemas), s') =>
      (match (file.manifest.job schemas).render with
        | .error error => .error (.rendering error)
        | .ok files => .ok (.checked config schemas files.length), s') := by
  unfold runCheck
  rw [stateM_bind]
  obtain ⟨result,s'⟩ := (openModels config : StateM σ _) s
  cases result with
  | error error => rfl
  | ok opened =>
    simp only
    cases (opened.1.manifest.job opened.2).render with
    | error error => rfl
    | ok files => rfl

theorem runGenerate_eq (o : GenerateOptions) (s : σ) : (runGenerate o : StateM σ _) s =
    match (openModels o.config : StateM σ _) s with
    | (.error error, s') => (.error (.manifest error), s')
    | (.ok (file, schemas), s') =>
      if o.dryRun then
        (match ((o.plan file schemas).job file).render with
          | .error error => .error (.rendering error)
          | .ok files => .ok (.previewed files), s')
      else
        match (((o.plan file schemas).job file).generate (o.plan file schemas).output :
          StateM σ _) s' with
        | (.error failure, s'') => (.error (.generation failure), s'')
        | (.ok report, s'') => (.ok (.generated (o.plan file schemas) report), s'') := by
  unfold runGenerate
  rw [stateM_bind]
  obtain ⟨result,s'⟩ := (openModels o.config : StateM σ _) s
  cases result with
  | error error => rfl
  | ok opened =>
    obtain ⟨file,schemas⟩ := opened
    simp only
    split
    · cases ((o.plan file schemas).job file).render with
      | error error => rfl
      | ok files => rfl
    · rw [stateM_bind]
      obtain ⟨result,s''⟩ := (((o.plan file schemas).job file).generate
        (o.plan file schemas).output : StateM σ _) s'
      cases result with
      | error failure => rfl
      | ok report => rfl

variable [HasDisk σ]
open HasDisk

theorem openManifest_disk {path : Path} {s s' : σ} {result : Except ManifestError OpenManifest}
    (h : (openManifest path : StateM σ _) s = (result, s')) : disk s' = disk s := by
  rw [openManifest_eq] at h
  cases hl : (MonadDisk.load path : StateM σ _) s with
  | mk loaded middle =>
    have hdisk := HasDisk.load path hl
    rw [hl] at h
    cases loaded with
    | error fault =>
      cases h
      exact hdisk
    | ok content =>
      cases h
      exact hdisk

theorem openModels_disk {config : Path} {s s' : σ}
    {result : Except ManifestError (OpenManifest × List Schema)}
    (h : (openModels config : StateM σ _) s = (result, s')) : disk s' = disk s := by
  rw [openModels_eq] at h
  cases ho : (openManifest config : StateM σ _) s with
  | mk opened middle =>
    have hdisk := openManifest_disk ho
    rw [ho] at h
    cases opened with
    | error error =>
      cases h
      exact hdisk
    | ok file =>
      cases h
      exact hdisk

end Opening

/-- A run of a job whose files can be rendered is stopped by the disk or not at all. -/
theorem Job.generate_cases {σ : Type} [MonadDisk (StateM σ)] [HasDisk σ] {j : Job}
    {files : List OutputFile} (h : j.render = .ok files) (output : Path) (s : σ) :
    ∃ s', (∃ report, (j.generate output : StateM σ _) s = (.ok report, s')) ∨
      ∃ written path fault,
        (j.generate output : StateM σ _) s = (.error ⟨written,.disk path fault⟩, s') := by
  rw [generate_of_ok h]
  cases hw : ((Emitter.new output).writeFiles files : StateM σ _) s with
  | mk outcome s' =>
    obtain ⟨e,result⟩ := outcome
    cases result with
    | ok _ => exact ⟨s',Or.inl ⟨e.finish,rfl⟩⟩
    | error cause =>
      obtain ⟨path,fault,rfl⟩ := Emitter.writeFiles_error hw
      exact ⟨s',Or.inr ⟨e.written,path,fault,rfl⟩⟩

open HasDisk in
/-- A check and a preview leave the disk alone, and one succeeds exactly if the other does. After a
check that succeeds a run can be stopped by the disk only, and after one that fails a run fails as
well and leaves the disk alone. -/
theorem check_gates_generate {σ : Type} [MonadDisk (StateM σ)] [HasDisk σ] (config : Path)
    (output : Option Path) (router : Option Layout) (s : σ) :
    ∃ checked previewed ran s₁ s₂,
      ((Command.check config).run : StateM σ Outcome) s = (checked, s₁) ∧
      ((Command.generate ⟨config,output,router,true⟩).run : StateM σ Outcome) s =
        (previewed, s₁) ∧
      ((Command.generate ⟨config,output,router,false⟩).run : StateM σ Outcome) s = (ran, s₂) ∧
      disk s₁ = disk s ∧
      (checked.exitCode = 0 ↔ previewed.exitCode = 0) ∧
      (∀ error, checked = .error error → previewed = .error error) ∧
      (checked.exitCode = 0 → ran.exitCode = 0 ∨
        ∃ written path fault, ran = .error (.generation ⟨written,.disk path fault⟩)) ∧
      (checked.exitCode ≠ 0 → ran.exitCode ≠ 0 ∧ disk s₂ = disk s ∧
        ∀ failure, ran = .error (.generation failure) → failure.written = []) := by
  change ∃ checked previewed ran s₁ s₂,
    (runCheck config : StateM σ Outcome) s = (checked, s₁) ∧
    (runGenerate ⟨config,output,router,true⟩ : StateM σ Outcome) s = (previewed, s₁) ∧
    (runGenerate ⟨config,output,router,false⟩ : StateM σ Outcome) s = (ran, s₂) ∧ _
  rw [runCheck_eq, runGenerate_eq, runGenerate_eq]
  cases hopen : (openModels config : StateM σ _) s with
  | mk opened s₁ =>
    have hdisk := openModels_disk hopen
    cases opened with
    | error error =>
      refine ⟨_,_,_,s₁,s₁,rfl,rfl,rfl,hdisk,Iff.rfl,fun _ h => h,?_,?_⟩
      · intro h
        cases h
      · intro _
        exact ⟨Nat.one_ne_zero,hdisk,fun failure h => nomatch h⟩
    | ok opened =>
      obtain ⟨file,schemas⟩ := opened
      simp only [Bool.false_eq_true, ↓reduceIte]
      -- the jobs of the three commands differ in their layouts only
      let dry := GenerateOptions.plan ⟨config,output,router,true⟩ file schemas
      let plan := GenerateOptions.plan ⟨config,output,router,false⟩ file schemas
      rcases Job.render_cases schemas file.manifest.policy with hall | ⟨cause,hall⟩
      · obtain ⟨files,hcheck⟩ : ∃ files, (file.manifest.job schemas).render = .ok files := hall _
        obtain ⟨shown,hdry⟩ : ∃ shown, (dry.job file).render = .ok shown := hall _
        have hplan : (plan.job file).render = .ok shown := hdry
        obtain ⟨s₂,hran⟩ := Job.generate_cases hplan plan.output s₁
        rw [hcheck, hdry]
        rcases hran with ⟨report,hran⟩ | ⟨written,path,fault,hran⟩
        · rw [hran]
          exact ⟨_,_,_,s₁,s₂,rfl,rfl,rfl,hdisk,Iff.rfl,(fun _ h => nomatch h),
            fun _ => Or.inl rfl,fun h => absurd rfl h⟩
        · rw [hran]
          exact ⟨_,_,_,s₁,s₂,rfl,rfl,rfl,hdisk,Iff.rfl,(fun _ h => nomatch h),
            fun _ => Or.inr ⟨written,path,fault,rfl⟩,fun h => absurd rfl h⟩
      · have hcheck : (file.manifest.job schemas).render = .error cause := hall _
        have hdry : (dry.job file).render = .error cause := hall _
        have hplan : (plan.job file).render = .error cause := hall _
        rw [hcheck, hdry, Job.generate_of_error hplan]
        refine ⟨_,_,_,s₁,s₁,rfl,rfl,rfl,hdisk,Iff.rfl,fun _ h => h,?_,?_⟩
        · intro h
          cases h
        · intro _
          refine ⟨Nat.one_ne_zero,hdisk,?_⟩
          intro failure h
          cases h
          rfl

end RestScaffold
