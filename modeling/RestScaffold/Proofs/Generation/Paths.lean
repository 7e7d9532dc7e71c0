import RestScaffold.Proofs.Disk.Path
import RestScaffold.Proofs.Generation.Batch
import RestScaffold.Proofs.Text.Identifier

/-! # Where the files of a run go

The place of a handler file follows from the name of its model, and all other places are fixed. A
model whose name is `mod` in lower case takes the place of the handler index; no other name leads to
a place that is taken.
-/
namespace RestScaffold
variable {policy : NamingPolicy} {schemas : List Schema} {models : List Model}

/-- A policy that makes variables of names by lower case alone. -/
def NamingPolicy.LowersNames (p : NamingPolicy) : Prop := ∀ name, p.varName name = lowercase name

theorem PluralPolicy.lowersNames (p : PluralPolicy) : p.naming.LowersNames := fun _ => rfl

/-- No two files of a run go to the same place. -/
def DistinctPlaces (files : List OutputFile) : Prop :=
  files.Pairwise fun f g => f.path.sameAs g.path = false

def mainPath : Path := ⟨"main.rs"⟩

theorem path_routerFile (models : List Model) : (routerFile models).finish.path = mainPath :=
  (by decide : (⟨""⟩ : Path).below ["main.rs"] = mainPath)

/-- A policy that gives some schemas variables without a separator, so that each names a file. -/
def NamingPolicy.NamesFiles (p : NamingPolicy) (schemas : List Schema) : Prop :=
  ∀ s ∈ schemas, '/' ∉ (p.varName s.name).toList

theorem isIdentifier_varName (hl : policy.LowersNames) {c : Convention} {s : Schema} {m : Model}
    (h : ModelTies policy c s m) : isIdentifier m.varName = true := by
  rw [h.varName, hl]
  exact isIdentifier_lowercase h.name_identifier

/-- Nothing but a separator keeps a variable from naming a file. -/
theorem fileName_of_noSlash {v : String} (h : '/' ∉ v.toList) : FileName (v ++ ".rs") := by
  have hlen : 3 ≤ (v ++ ".rs").toList.length := by
    have hrs : ".rs".toList.length = 3 := by decide
    simp only [String.toList_append, List.length_append]
    omega
  constructor
  · rw [String.toList_append, List.mem_append]
    rintro (hm | hm)
    · exact h hm
    · exact absurd hm (by decide)
  all_goals
    intro he
    rw [he] at hlen
    exact absurd hlen (by decide)

/-- The steps to the handler file of a model. -/
def handlerSteps (m : Model) : List String := ["handlers", m.varName ++ ".rs"]

theorem below_handlerSteps_eq_join (m : Model) : (⟨""⟩ : Path).below (handlerSteps m) =
    (⟨"handlers"⟩ : Path).join ⟨m.varName ++ ".rs"⟩ := by
  have hdir : (⟨""⟩ : Path).join ⟨"handlers"⟩ = ⟨"handlers"⟩ := by decide
  rw [← hdir]
  rfl

theorem below_handlerSteps {m : Model} (h : isIdentifier m.varName = true) :
    (⟨""⟩ : Path).below (handlerSteps m) = ⟨"handlers/" ++ m.varName ++ ".rs"⟩ := by
  have hfile := Path.isAbsolute_ofName
    (fileName_of_noSlash ((isIdentifier_chars h).notMem (by decide)))
  rw [below_handlerSteps_eq_join, Path.join_of_open hfile (by decide) (by decide),
    ← String.append_assoc]
  rfl

theorem map_steps_combined (models : List Model) :
    (filesOf .combined models).map GeneratedFile.steps =
      ["models.rs"] :: ["handlers", "mod.rs"] :: (models.map handlerSteps ++ [["main.rs"]]) := by
  rw [filesOf_combined]
  simp only [List.map_cons, List.map_append, List.map_map, List.map_nil]
  rfl

theorem map_steps_perModel (models : List Model) :
    (filesOf .perModel models).map GeneratedFile.steps =
      ["models.rs"] :: ["handlers", "mod.rs"] ::
        models.flatMap fun m => [handlerSteps m, ["main.rs"]] := by
  rw [filesOf_perModel]
  simp only [List.map_cons, List.map_flatMap, List.map_nil]
  rfl

theorem steps_cases {layout : Layout} {f : GeneratedFile} (hf : f ∈ filesOf layout models) :
    f.steps = ["models.rs"] ∨ f.steps = ["handlers", "mod.rs"] ∨ f.steps = ["main.rs"] ∨
      ∃ m ∈ models, f.steps = handlerSteps m := by
  rcases mem_filesOf_cases hf with rfl | rfl | ⟨m,hm,rfl⟩ | ⟨routed,_,rfl⟩
  · exact Or.inl rfl
  · exact Or.inr (Or.inl rfl)
  · exact Or.inr (Or.inr (Or.inr ⟨m,hm,rfl⟩))
  · exact Or.inr (Or.inr (Or.inl rfl))

theorem fileName_fixed : FileName "models.rs" ∧ FileName "main.rs" ∧ FileName "handlers" ∧
    FileName "mod.rs" := by decide

theorem isIdentifier_of_lowersNames (hl : policy.LowersNames)
    (h : modelsOf policy schemas = .ok models) :
    ∀ s ∈ schemas, isIdentifier (policy.varName s.name) = true := by
  intro s hs
  obtain ⟨m,_,had⟩ := exists_of_mem_right (modelsOf_eq_ok_iff.mp h).1.flip hs
  rw [← had.ties.varName]
  exact isIdentifier_varName hl had.ties

theorem namesFiles_of_lowersNames (hl : policy.LowersNames)
    (h : modelsOf policy schemas = .ok models) : policy.NamesFiles schemas :=
  fun s hs => (isIdentifier_chars (isIdentifier_of_lowersNames hl h s hs)).notMem (by decide)

/-- The steps to a file of an accepted batch are names if the variables are. -/
theorem fileName_steps_of_namesFiles (hv : policy.NamesFiles schemas)
    (h : modelsOf policy schemas = .ok models) {layout : Layout} {f : GeneratedFile}
    (hf : f ∈ filesOf layout models) : ∀ s ∈ f.steps, FileName s := by
  obtain ⟨hmodels,hmain,hdir,hmod⟩ := fileName_fixed
  rcases steps_cases hf with he | he | he | ⟨m,hm,he⟩
  · simpa [he] using hmodels
  · simpa [he] using And.intro hdir hmod
  · simpa [he] using hmain
  · obtain ⟨s,hs,had⟩ := exists_admitted_of_mem h hm
    have hslash : '/' ∉ m.varName.toList := by
      rw [had.ties.varName]
      exact hv s hs
    simpa [he, handlerSteps] using And.intro hdir (fileName_of_noSlash hslash)

theorem fileName_steps (hl : policy.LowersNames) (h : modelsOf policy schemas = .ok models)
    {layout : Layout} {f : GeneratedFile} (hf : f ∈ filesOf layout models) :
    ∀ s ∈ f.steps, FileName s :=
  fileName_steps_of_namesFiles (namesFiles_of_lowersNames hl h) h hf

theorem steps_ne_nil {layout : Layout} {f : GeneratedFile} (hf : f ∈ filesOf layout models) :
    f.steps ≠ [] := by
  rcases steps_cases hf with he | he | he | ⟨m,_,he⟩ <;> simp [he, handlerSteps]

theorem path_finish (f : GeneratedFile) : f.finish.path = (⟨""⟩ : Path).below f.steps := rfl

/-- Files of accepted batches go to the same place exactly if they take the same steps. -/
theorem finish_sameAs_finish (hl : policy.LowersNames) (h : modelsOf policy schemas = .ok models)
    {layout : Layout} {f g : GeneratedFile} (hf : f ∈ filesOf layout models)
    (hg : g ∈ filesOf layout models) :
    f.finish.path.sameAs g.finish.path = true ↔ f.steps = g.steps :=
  Path.below_sameAs_below ⟨""⟩ (fileName_steps hl h hf) (fileName_steps hl h hg) (steps_ne_nil hf)
    (steps_ne_nil hg)

theorem distinctPlaces_iff_nodup (hl : policy.LowersNames)
    (h : modelsOf policy schemas = .ok models) {layout : Layout} {files : List GeneratedFile}
    (hfiles : files.Sublist (filesOf layout models)) :
    DistinctPlaces (files.map GeneratedFile.finish) ↔ (files.map GeneratedFile.steps).Nodup := by
  rw [DistinctPlaces, List.nodup_iff_pairwise_ne, List.pairwise_map, List.pairwise_map]
  refine List.Pairwise.iff_of_mem ?_
  intro f g hf hg
  rw [← Bool.not_eq_true, finish_sameAs_finish hl h (hfiles.subset hf) (hfiles.subset hg)]

theorem handlerSteps_injective {m n : Model} (h : handlerSteps m = handlerSteps n) :
    m.varName = n.varName := by
  have he : m.varName ++ ".rs" = n.varName ++ ".rs" := (List.cons.inj (List.cons.inj h).2).1
  exact (String.append_left_inj ".rs").mp he

theorem handlerSteps_eq_index_iff {m : Model} :
    handlerSteps m = ["handlers", "mod.rs"] ↔ m.varName = "mod" := by
  constructor
  · intro h
    exact handlerSteps_injective (n := { m with varName := "mod" }) h
  · intro h
    rw [handlerSteps, h]
    rfl

theorem nodup_handlerSteps (h : modelsOf policy schemas = .ok models) :
    (models.map handlerSteps).Nodup := by
  have hn := varNames_nodup h
  rw [List.nodup_iff_pairwise_ne, List.pairwise_map] at hn ⊢
  exact hn.imp fun hne he => hne (handlerSteps_injective he)

/-- The index and the handler files have places of their own unless a model is called `mod`. -/
theorem nodup_handlers_iff (hl : policy.LowersNames) (h : modelsOf policy schemas = .ok models) :
    (["handlers", "mod.rs"] :: models.map handlerSteps).Nodup ↔
      ∀ s ∈ schemas, lowercase s.name ≠ "mod" := by
  have hvar : (∀ s ∈ schemas, lowercase s.name ≠ "mod") ↔ ∀ m ∈ models, m.varName ≠ "mod" := by
    refine forall_mem_iff_of_forall₂ (modelsOf_eq_ok_iff.mp h).1 ?_
    intro s m had
    rw [had.ties.varName, hl]
  rw [List.nodup_cons, hvar]
  constructor
  · rintro ⟨hnot,_⟩ m hm he
    exact hnot (List.mem_map.mpr ⟨m,hm,handlerSteps_eq_index_iff.mpr he⟩)
  · intro hmod
    refine ⟨?_,nodup_handlerSteps h⟩
    intro hin
    obtain ⟨m,hm,he⟩ := List.mem_map.mp hin
    exact hmod m hm (handlerSteps_eq_index_iff.mp he)

theorem nodup_combined_iff : ((filesOf .combined models).map GeneratedFile.steps).Nodup ↔
    (["handlers", "mod.rs"] :: models.map handlerSteps).Nodup := by
  rw [map_steps_combined]
  have hmain : ["main.rs"] ∉ ["handlers", "mod.rs"] :: models.map handlerSteps := by
    simp [handlerSteps]
  have hrecords : ["models.rs"] ∉
      (["handlers", "mod.rs"] :: models.map handlerSteps).concat ["main.rs"] := by
    simp [handlerSteps]
  rw [List.nodup_cons, ← List.cons_append, ← List.concat_eq_append, List.nodup_concat]
  exact ⟨fun hn => hn.2.2, fun hn => ⟨hrecords,hmain,hn⟩⟩

theorem steps_besides_main : ((filesOf .perModel models).filter fun f =>
      decide (f.steps ≠ ["main.rs"])).map GeneratedFile.steps =
    ["models.rs"] :: ["handlers", "mod.rs"] :: models.map handlerSteps := by
  have hfilter : ∀ l : List GeneratedFile,
      (l.filter fun f => decide (f.steps ≠ ["main.rs"])).map GeneratedFile.steps =
        (l.map GeneratedFile.steps).filter fun steps => decide (steps ≠ ["main.rs"]) := by
    intro l
    rw [List.filter_map]
    rfl
  have hmodels : (models.flatMap fun m => [handlerSteps m, ["main.rs"]]).filter
      (fun steps => decide (steps ≠ ["main.rs"])) = models.map handlerSteps := by
    rw [List.filter_flatMap, List.map_eq_flatMap]
    rfl
  rw [hfilter, map_steps_perModel, List.filter_cons_of_pos (by decide),
    List.filter_cons_of_pos (by decide), hmodels]

/-- The files of an accepted batch have places of their own, in either layout and apart from the
routers of the one that has many, exactly if no schema is called `mod` in lower case. -/
theorem render_distinctPlaces_iff (policy : PluralPolicy) (schemas : List Schema)
    (models : List Model) (h : modelsOf policy schemas = .ok models) :
    ∃ combined perModel,
      (⟨schemas,policy,.combined⟩ : Job).render = .ok combined ∧
      (⟨schemas,policy,.perModel⟩ : Job).render = .ok perModel ∧
      (DistinctPlaces combined ↔ ∀ s ∈ schemas, lowercase s.name ≠ "mod") ∧
      (DistinctPlaces (perModel.filter fun f => !f.path.sameAs mainPath) ↔
        ∀ s ∈ schemas, lowercase s.name ≠ "mod") := by
  have hl := policy.lowersNames
  refine ⟨_,_,render_of_models h,render_of_models h,?_,?_⟩
  · rw [distinctPlaces_iff_nodup hl h (List.Sublist.refl _), nodup_combined_iff,
      nodup_handlers_iff hl h]
  · have hfilter : ((filesOf .perModel models).map GeneratedFile.finish).filter
          (fun f => !f.path.sameAs mainPath) =
        ((filesOf .perModel models).filter fun f => decide (f.steps ≠ ["main.rs"])).map
          GeneratedFile.finish := by
      rw [List.filter_map]
      congr 1
      refine List.filter_congr ?_
      intro f hf
      have hmain : ∀ s ∈ ["main.rs"], FileName s := by simpa using fileName_fixed.2.1
      have hsame := Path.below_sameAs_below ⟨""⟩ (fileName_steps hl h hf) hmain (steps_ne_nil hf)
        (by simp)
      change f.finish.path.sameAs mainPath = true ↔ f.steps = ["main.rs"] at hsame
      rw [Bool.eq_iff_iff, Function.comp_apply, decide_eq_true_eq, Ne, ← hsame, Bool.not_eq_true,
        Bool.not_eq_true']
    have hrecords : ["models.rs"] ∉ ["handlers", "mod.rs"] :: models.map handlerSteps := by
      simp [handlerSteps]
    rw [hfilter, distinctPlaces_iff_nodup hl h List.filter_sublist, steps_besides_main,
      List.nodup_cons, nodup_handlers_iff hl h]
    exact ⟨fun hn => hn.2, fun hn => ⟨hrecords,hn⟩⟩

/-- A schema with nothing but an identifier. -/
def keyOnlySchema (name : String) : Schema := ⟨name,none,[⟨"ID",.int,"id"⟩]⟩

/-- The model of such a schema under plurals without exceptions. -/
def keyOnlyModel (name varName varIdent plural : String) : Model where
  name := name
  varName := varName
  varNamePlural := plural
  varIdent := varIdent
  varIdentPlural := plural
  pathPlural := plural
  tableName := plural
  fields := [⟨"ID","id","id",.int,"id"⟩]
  identifier := ⟨"ID","id","id",.int,"id"⟩

/-- Names of fixed files are free in the directory of the handlers. -/
theorem main_models_distinctPlaces :
    modelsOf PluralPolicy.naive [keyOnlySchema "Main", keyOnlySchema "Models"] =
        .ok [keyOnlyModel "Main" "main" "main" "mains",
          keyOnlyModel "Models" "models" "models" "modelss"] ∧
      ∃ combined perModel,
        (⟨[keyOnlySchema "Main", keyOnlySchema "Models"],.naive,.combined⟩ : Job).render =
          .ok combined ∧
        (⟨[keyOnlySchema "Main", keyOnlySchema "Models"],.naive,.perModel⟩ : Job).render =
          .ok perModel ∧
        DistinctPlaces combined ∧
        DistinctPlaces (perModel.filter fun f => !f.path.sameAs mainPath) := by
  have hm : modelsOf PluralPolicy.naive [keyOnlySchema "Main", keyOnlySchema "Models"] =
      .ok [keyOnlyModel "Main" "main" "main" "mains",
        keyOnlyModel "Models" "models" "models" "modelss"] := by
    decide +kernel
  have hnames : ∀ s ∈ [keyOnlySchema "Main", keyOnlySchema "Models"],
      lowercase s.name ≠ "mod" := by
    decide +kernel
  obtain ⟨combined,perModel,hc,hp,hcd,hpd⟩ := render_distinctPlaces_iff .naive _ _ hm
  exact ⟨hm,combined,perModel,hc,hp,hcd.mpr hnames,hpd.mpr hnames⟩

/-- A model called `mod` is accepted, and its handler file goes where the index is. -/
theorem mod_takes_place_of_index : ∃ files,
    (⟨[keyOnlySchema "Mod"],.naive,.combined⟩ : Job).render = .ok files ∧
      ¬ DistinctPlaces files := by
  have hm : modelsOf PluralPolicy.naive [keyOnlySchema "Mod"] =
      .ok [keyOnlyModel "Mod" "mod" "r#mod" "mods"] := by
    decide +kernel
  refine ⟨_,render_of_models hm,?_⟩
  rw [distinctPlaces_iff_nodup PluralPolicy.naive.lowersNames hm (List.Sublist.refl _),
    nodup_combined_iff]
  decide +kernel

end RestScaffold
