import RestScaffold.Proofs.Command.Gate

/-! # Files counted beforehand

A check and a preview count the files that are rendered, and a run the paths that it wrote. Where
there is a router for each model they all have one path, and the handler file of a model called `mod`
has the path of the handler index. A run writes fewer files than were announced by as many as are
replaced in these two ways.
-/
namespace RestScaffold
open Disk
variable {policy : NamingPolicy} {schemas : List Schema} {models : List Model}

/-- How many routers of so many models are replaced by a later one. -/
def Layout.replacedRouters : Layout → Nat → Nat
  | combined, _ => 0
  | perModel, n => n - 1

/-- How many files of a batch are replaced by a later one with the same path. -/
def replacedFiles (layout : Layout) (schemas : List Schema) : Nat :=
  layout.replacedRouters schemas.length + (schemas.any fun s => lowercase s.name == "mod").toNat

theorem replacedFiles_eq_zero_iff {layout : Layout} : replacedFiles layout schemas = 0 ↔
    (layout = .combined ∨ schemas.length ≤ 1) ∧ ∀ s ∈ schemas, lowercase s.name ≠ "mod" := by
  have hmod : (schemas.any fun s => lowercase s.name == "mod").toNat = 0 ↔
      ∀ s ∈ schemas, lowercase s.name ≠ "mod" := by
    rw [Bool.toNat_eq_zero]
    simp
  rw [replacedFiles, Nat.add_eq_zero_iff, hmod]
  cases layout with
  | combined => simp [Layout.replacedRouters]
  | perModel => simp [Layout.replacedRouters, Nat.sub_eq_zero_iff_le]

theorem eq_iff_of_replaced {layout : Layout} {rendered written : Nat}
    (h : rendered = written + replacedFiles layout schemas) : rendered = written ↔
      (layout = .combined ∨ schemas.length ≤ 1) ∧ ∀ s ∈ schemas, lowercase s.name ≠ "mod" := by
  rw [← replacedFiles_eq_zero_iff]
  omega

theorem getLast?_lines_checked (config : Path) (schemas : List Schema) (count : Nat) :
    (CommandReport.checked config schemas count).lines.getLast? = some (countLine count) := by
  rw [CommandReport.lines, List.getLast?_append]
  rfl

theorem getLast?_lines_previewed (files : List OutputFile) :
    (CommandReport.previewed files).lines.getLast? = some (countLine files.length) := by
  rw [CommandReport.lines, List.getLast?_append]
  rfl

section Counting

/-- The ways to the handlers and to their index. -/
def handlerWays (models : List Model) : Finset (List String) :=
  (["handlers", "mod.rs"] :: models.map handlerSteps).toFinset

theorem card_handlerWays (hl : policy.LowersNames) (h : modelsOf policy schemas = .ok models) :
    (handlerWays models).card + (schemas.any fun s => lowercase s.name == "mod").toNat =
      schemas.length + 1 := by
  have hlength : schemas.length = models.length := (modelsOf_eq_ok_iff.mp h).1.length_eq
  have hiff := nodup_handlers_iff hl h
  cases hmod : schemas.any fun s => lowercase s.name == "mod" with
  | false =>
    have hnodup := hiff.mpr (by simpa using hmod)
    rw [handlerWays, List.toFinset_card_of_nodup hnodup, hlength]
    simp
  | true =>
    obtain ⟨s,hs,he⟩ := List.any_eq_true.mp hmod
    have hdup : ¬(["handlers", "mod.rs"] :: models.map handlerSteps).Nodup :=
      fun hnodup => hiff.mp hnodup s hs (by simpa using he)
    -- without the index the ways are distinct, so it is the index that comes twice
    have hin : ["handlers", "mod.rs"] ∈ models.map handlerSteps := by
      by_contra hnot
      exact hdup (List.nodup_cons.mpr ⟨hnot,nodup_handlerSteps h⟩)
    rw [handlerWays, List.toFinset_cons, Finset.insert_eq_of_mem (List.mem_toFinset.mpr hin),
      List.toFinset_card_of_nodup (nodup_handlerSteps h), List.length_map, hlength]
    rfl

theorem records_notMem_handlerWays (models : List Model) : ["models.rs"] ∉ handlerWays models := by
  simp [handlerWays, handlerSteps]

theorem main_notMem_handlerWays (models : List Model) : ["main.rs"] ∉ handlerWays models := by
  simp [handlerWays, handlerSteps]

/-- However many routers there are, they all have one way. -/
theorem mem_routed_iff (hmodels : models ≠ []) {steps : List String} :
    steps ∈ (models.flatMap fun m => [handlerSteps m, ["main.rs"]]) ↔
      steps = ["main.rs"] ∨ steps ∈ models.map handlerSteps := by
  obtain ⟨first,hfirst⟩ := List.exists_mem_of_ne_nil models hmodels
  rw [List.mem_flatMap, List.mem_map]
  constructor
  · rintro ⟨m,hm,hsteps⟩
    rcases List.mem_pair.mp hsteps with rfl | rfl
    · exact Or.inr ⟨m,hm,rfl⟩
    · exact Or.inl rfl
  · rintro (rfl | ⟨m,hm,rfl⟩)
    · exact ⟨first,hfirst,by simp⟩
    · exact ⟨m,hm,by simp⟩

theorem toFinset_steps {layout : Layout} (hrouter : layout = .combined ∨ models ≠ []) :
    ((filesOf layout models).map GeneratedFile.steps).toFinset =
      insert ["models.rs"] (insert ["main.rs"] (handlerWays models)) := by
  ext steps
  simp only [handlerWays, List.mem_toFinset, Finset.mem_insert, List.mem_cons]
  cases layout with
  | combined =>
    simp only [map_steps_combined, List.mem_cons, List.mem_append, List.not_mem_nil, or_false]
    tauto
  | perModel =>
    have hmodels : models ≠ [] := hrouter.resolve_left Layout.noConfusion
    simp only [map_steps_perModel, List.mem_cons, mem_routed_iff hmodels]
    tauto

theorem length_filesOf (layout : Layout) (models : List Model) : (filesOf layout models).length =
    match layout with
    | .combined => models.length + 3
    | .perModel => 2 * models.length + 2 := by
  cases layout with
  | combined => simp [filesOf_combined]
  | perModel =>
    rw [← List.length_map GeneratedFile.steps, map_steps_perModel]
    simp [Nat.mul_comm]

theorem length_filesOf_eq (hl : policy.LowersNames) (h : modelsOf policy schemas = .ok models)
    (layout : Layout) : (filesOf layout models).length =
      ((filesOf layout models).map GeneratedFile.steps).eraseDups.length +
        replacedFiles layout schemas := by
  have hlength : schemas.length = models.length := (modelsOf_eq_ok_iff.mp h).1.length_eq
  by_cases hrouter : layout = .combined ∨ models ≠ []
  · have hways := card_handlerWays hl h
    have hcard : ((filesOf layout models).map GeneratedFile.steps).toFinset.card =
        (handlerWays models).card + 2 := by
      rw [toFinset_steps hrouter, Finset.card_insert_of_notMem, Finset.card_insert_of_notMem]
      · exact main_notMem_handlerWays models
      · simp [records_notMem_handlerWays]
    rw [length_eraseDups, hcard, length_filesOf, replacedFiles]
    cases layout with
    | combined =>
      simp only [Layout.replacedRouters]
      omega
    | perModel =>
      have hpos : models.length ≠ 0 := by
        simpa using hrouter.resolve_left Layout.noConfusion
      simp only [Layout.replacedRouters]
      omega
  · -- without models there is no router in this layout
    obtain ⟨hlayout,hmodels⟩ := not_or.mp hrouter
    obtain rfl := not_not.mp hmodels
    obtain rfl := List.length_eq_zero_iff.mp hlength
    cases layout with
    | combined => exact absurd rfl hlayout
    | perModel => rfl

end Counting

/-- Files of an accepted batch have the same path only if they go the same way. -/
theorem eraseDups_paths (hl : policy.LowersNames) (h : modelsOf policy schemas = .ok models)
    (layout : Layout) :
    (((filesOf layout models).map GeneratedFile.finish).map OutputFile.path).eraseDups =
      ((filesOf layout models).map GeneratedFile.steps).eraseDups.map (⟨""⟩ : Path).below := by
  have hpaths : ((filesOf layout models).map GeneratedFile.finish).map OutputFile.path =
      ((filesOf layout models).map GeneratedFile.steps).map (⟨""⟩ : Path).below := by
    rw [List.map_map, List.map_map]
    rfl
  rw [hpaths]
  refine eraseDupsBy_map ?_
  intro way hway other hother
  obtain ⟨f,hf,rfl⟩ := List.mem_map.mp hway
  obtain ⟨g,hg,rfl⟩ := List.mem_map.mp hother
  rw [Bool.eq_iff_iff, beq_iff_eq, beq_iff_eq]
  constructor
  · intro he
    rw [← Path.steps_below (fileName_steps hl h hf) (steps_ne_nil hf), he,
      Path.steps_below (fileName_steps hl h hg) (steps_ne_nil hg)]
  · intro he
    rw [he]

section Runs
variable {σ : Type} [MonadDisk (StateM σ)] [HasDisk σ]

/-- A run that writes files that are always overwritten has written them all. -/
theorem Emitter.noteAll_of_writeFiles {e e' : Emitter} {files : List OutputFile} {s s' : σ}
    (hf : ∀ f ∈ files, f.rules.overwrite = .always)
    (h : (e.writeFiles files : StateM σ _) s = ((e', .ok ()), s')) : e' = e.noteAll files := by
  obtain ⟨_,_,_,_,hrun⟩ := writeFiles_eq_ok h
  exact (emitAll_spec hf hrun).1

/-- A run that succeeds has written each path of its preview once. -/
theorem Job.report_of_generate {j : Job} (hl : j.policy.LowersNames) {output : Path}
    {report : Report} {s s' : σ} (h : (j.generate output : StateM σ _) s = (.ok report, s')) :
    ∃ files, j.render = .ok files ∧
      report = ⟨(files.map OutputFile.path).eraseDups.map output.join,[]⟩ := by
  obtain ⟨files,e,hr,rfl,hw⟩ := generate_eq_ok h
  have hunder := under_of_render hl hr
  have hpaths := fullPaths_sameAs_iff (fun f hf => (hunder f hf).2) output
  refine ⟨files,hr,?_⟩
  rw [Emitter.noteAll_of_writeFiles (fun f hf => (hunder f hf).1) hw, Emitter.noteAll_new hpaths]
  rfl

theorem Job.length_of_generate {j : Job} (hl : j.policy.LowersNames) {output : Path}
    {report : Report} {s s' : σ} (h : (j.generate output : StateM σ _) s = (.ok report, s')) :
    ∃ files, j.render = .ok files ∧ report.skipped = [] ∧
      files.length = report.written.length + replacedFiles j.layout j.schemas := by
  obtain ⟨files,hr,rfl⟩ := report_of_generate hl h
  refine ⟨files,hr,rfl,?_⟩
  obtain ⟨models,hm,he⟩ := bind_eq_ok_iff.mp hr
  cases he
  simp only [List.length_map, eraseDups_paths hl hm]
  exact length_filesOf_eq hl hm j.layout

omit [HasDisk σ] in
/-- A run that succeeds has opened a manifest and generated what it plans. -/
theorem generate_of_runGenerate {o : GenerateOptions} (hwet : o.dryRun = false) {plan : Plan}
    {report : Report} {s s' : σ}
    (h : (runGenerate o : StateM σ Outcome) s = (.ok (.generated plan report), s')) :
    ∃ file schemas s₁, (openModels o.config : StateM σ _) s = (.ok (file, schemas), s₁) ∧
      o.plan file schemas = plan ∧
      ((plan.job file).generate plan.output : StateM σ _) s₁ = (.ok report, s') := by
  rw [runGenerate_eq] at h
  cases hopen : (openModels o.config : StateM σ _) s with
  | mk opened s₁ =>
    rw [hopen] at h
    cases opened with
    | error error => cases h
    | ok opened =>
      obtain ⟨file,schemas⟩ := opened
      simp only [hwet, Bool.false_eq_true, ↓reduceIte] at h
      cases hgen : (((o.plan file schemas).job file).generate (o.plan file schemas).output :
          StateM σ _) s₁ with
      | mk result s₂ =>
        rw [hgen] at h
        cases result with
        | error failure => cases h
        | ok report =>
          cases h
          exact ⟨file,schemas,s₁,rfl,rfl,hgen⟩

/-- How many files a check and a preview announce for a plan, and how many a run writes. A check
counts them in the layout of the manifest. -/
structure FileCounts (layout : Layout) (plan : Plan) (checked previewed : Nat) (report : Report) :
    Prop where
  checked : plan.layout = layout → checked = previewed
  skipped : report.skipped = []
  /-- What a later file replaces is counted beforehand and not afterwards. -/
  replaced : previewed = report.written.length + replacedFiles plan.layout plan.schemas
  exact : previewed = report.written.length ↔
    (plan.layout = .combined ∨ plan.schemas.length ≤ 1) ∧
      ∀ s ∈ plan.schemas, lowercase s.name ≠ "mod"

/-- Before a run that succeeds a check and a preview succeed as well, and announce as many files as
the run writes exactly if there is one router at most and no model is called `mod`. -/
theorem generate_announced (config : Path) (output : Option Path) (router : Option Layout) (s s' : σ)
    (plan : Plan) (report : Report)
    (h : ((Command.generate ⟨config,output,router,false⟩).run : StateM σ Outcome) s =
      (.ok (.generated plan report), s')) :
    ∃ file s₁ files count,
      (openModels config : StateM σ _) s = (.ok (file, plan.schemas), s₁) ∧
      plan = GenerateOptions.plan ⟨config,output,router,false⟩ file plan.schemas ∧
      ((Command.generate ⟨config,output,router,true⟩).run : StateM σ Outcome) s =
        (.ok (.previewed files), s₁) ∧
      (CommandReport.previewed files).lines.getLast? = some (countLine files.length) ∧
      ((Command.check config).run : StateM σ Outcome) s =
        (.ok (.checked config plan.schemas count), s₁) ∧
      (CommandReport.checked config plan.schemas count).lines.getLast? = some (countLine count) ∧
      FileCounts file.manifest.project.router plan count files.length report := by
  obtain ⟨file,schemas,s₁,hopen,rfl,hgen⟩ := generate_of_runGenerate rfl h
  obtain ⟨files,hrender,hskipped,hlength⟩ :=
    Job.length_of_generate file.manifest.policy.lowersNames hgen
  obtain ⟨models,hm,_⟩ := bind_eq_ok_iff.mp hrender
  obtain ⟨shown,hcheck⟩ : ∃ shown, (file.manifest.job schemas).render = .ok shown :=
    ⟨_,render_of_models hm⟩
  have hdry : ((GenerateOptions.plan ⟨config,output,router,true⟩ file schemas).job file).render =
      .ok files := hrender
  refine ⟨file,s₁,files,shown.length,hopen,rfl,?_,getLast?_lines_previewed files,?_,
    getLast?_lines_checked config schemas _,?_,hskipped,hlength,eq_iff_of_replaced hlength⟩
  · change (runGenerate ⟨config,output,router,true⟩ : StateM σ Outcome) s = _
    rw [runGenerate_eq, hopen]
    simp only [↓reduceIte, hdry]
  · change (runCheck config : StateM σ Outcome) s = _
    rw [runCheck_eq, hopen]
    simp only [hcheck]
    rfl
  · intro hown
    have hjob : (GenerateOptions.plan ⟨config,output,router,false⟩ file schemas).job file =
        file.manifest.job schemas := by
      rw [Plan.job, hown]
      rfl
    rw [hjob, hcheck] at hrender
    rw [Except.ok.inj hrender]

end Runs

theorem exists_of_fst_eq {α β : Type} {x : α × β} {a : α} (h : x.1 = a) : ∃ b, x = (a, b) :=
  ⟨x.2,Prod.ext h rfl⟩

/-- A disk with a manifest of two models. -/
def blogDisk (router : String) : Disk :=
  ⟨[([manifestFile], .file ("[project]\nrouter = \"" ++ router ++ "\"\n" ++
    "[[models.Post.fields]]\nname = \"ID\"\ntype = \"int\"\n" ++
    "[[models.Tag.fields]]\nname = \"ID\"\ntype = \"int\"\n").toUTF8)], []⟩

def blogSchemas : List Schema := [keyOnlySchema "Post", keyOnlySchema "Tag"]

/-- With one router a check announces the five files that a run writes. -/
theorem blog_announced : ∃ report s',
    ((Command.generate ⟨⟨manifestFile⟩,none,none,false⟩).run : StateM Disk Outcome)
        (blogDisk "combined") =
      (.ok (.generated ⟨blogSchemas,⟨"api/rest"⟩,.combined⟩ report), s') ∧
    report.written.length = 5 ∧
    ∃ s₁, ((Command.check ⟨manifestFile⟩).run : StateM Disk Outcome) (blogDisk "combined") =
      (.ok (.checked ⟨manifestFile⟩ blogSchemas 5), s₁) := by
  have hrun : (((Command.generate ⟨⟨manifestFile⟩,none,none,false⟩).run : StateM Disk Outcome)
        (blogDisk "combined")).1 =
      .ok (.generated ⟨blogSchemas,⟨"api/rest"⟩,.combined⟩ ⟨[⟨"api/rest/models.rs"⟩,
        ⟨"api/rest/handlers/mod.rs"⟩, ⟨"api/rest/handlers/post.rs"⟩, ⟨"api/rest/handlers/tag.rs"⟩,
        ⟨"api/rest/main.rs"⟩],[]⟩) := by
    decide +kernel
  have hnames : ∀ schema ∈ blogSchemas, lowercase schema.name ≠ "mod" := by decide +kernel
  obtain ⟨s',hrun⟩ := exists_of_fst_eq hrun
  obtain ⟨file,s₁,files,count,_,hplan,_,_,hcheck,_,hcounts⟩ :=
    generate_announced ⟨manifestFile⟩ none none (blogDisk "combined") s' _ _ hrun
  have hlayout : Layout.combined = file.manifest.project.router := congrArg Plan.layout hplan
  have hcount : count = 5 := (hcounts.checked hlayout).trans (hcounts.exact.mpr ⟨Or.inl rfl,hnames⟩)
  rw [hcount] at hcheck
  exact ⟨_,s',hrun,rfl,s₁,hcheck⟩

/-- With a router for each model a check announces six files, and a run writes five. -/
theorem blog_announced_too_many : ∃ s₁ s',
    ((Command.check ⟨manifestFile⟩).run : StateM Disk Outcome) (blogDisk "per-model") =
      (.ok (.checked ⟨manifestFile⟩ blogSchemas 6), s₁) ∧
    ((Command.generate ⟨⟨manifestFile⟩,none,none,false⟩).run : StateM Disk Outcome)
        (blogDisk "per-model") =
      (.ok (.generated ⟨blogSchemas,⟨"api/rest"⟩,.perModel⟩ ⟨[⟨"api/rest/models.rs"⟩,
        ⟨"api/rest/handlers/mod.rs"⟩, ⟨"api/rest/handlers/post.rs"⟩, ⟨"api/rest/main.rs"⟩,
        ⟨"api/rest/handlers/tag.rs"⟩],[]⟩), s') := by
  have hcheck : (((Command.check ⟨manifestFile⟩).run : StateM Disk Outcome)
      (blogDisk "per-model")).1 = .ok (.checked ⟨manifestFile⟩ blogSchemas 6) := by
    decide +kernel
  have hrun : (((Command.generate ⟨⟨manifestFile⟩,none,none,false⟩).run : StateM Disk Outcome)
        (blogDisk "per-model")).1 =
      .ok (.generated ⟨blogSchemas,⟨"api/rest"⟩,.perModel⟩ ⟨[⟨"api/rest/models.rs"⟩,
        ⟨"api/rest/handlers/mod.rs"⟩, ⟨"api/rest/handlers/post.rs"⟩, ⟨"api/rest/main.rs"⟩,
        ⟨"api/rest/handlers/tag.rs"⟩],[]⟩) := by
    decide +kernel
  obtain ⟨s₁,hcheck⟩ := exists_of_fst_eq hcheck
  obtain ⟨s',hrun⟩ := exists_of_fst_eq hrun
  exact ⟨s₁,s',hcheck,hrun⟩

end RestScaffold
