import RestScaffold.Output.Records
import RestScaffold.Proofs.Output.Router

/-! # What stands in generated files

The lines of an import, of a function or of a record stand together in the file they belong to,
whatever characters the names have that were spliced into them.
-/
namespace RestScaffold
open Fragment

/-- A text stands somewhere in another. -/
def Occurs (part text : String) : Prop := ∃ before after, text = before ++ part ++ after

namespace Occurs
variable {part text whole : String}

theorem trans (h : Occurs part text) (h' : Occurs text whole) : Occurs part whole := by
  obtain ⟨before,after,rfl⟩ := h
  obtain ⟨front,back,rfl⟩ := h'
  exact ⟨front ++ before,after ++ back,by simp only [String.append_assoc]⟩

theorem append_left (h : Occurs part text) (before : String) : Occurs part (before ++ text) := by
  refine h.trans ⟨before,"",?_⟩
  rw [String.append_empty]

theorem append_right (h : Occurs part text) (after : String) : Occurs part (text ++ after) := by
  refine h.trans ⟨"",after,?_⟩
  rw [String.empty_append]

theorem refl (text : String) : Occurs text text :=
  ⟨"","",by rw [String.empty_append, String.append_empty]⟩

theorem unlines {lines all : List String} (h : lines <:+: all) :
    Occurs (unlines lines) (unlines all) := by
  obtain ⟨front,back,rfl⟩ := h
  exact ⟨_,_,by rw [unlines_append, unlines_append]⟩

theorem of_mem {line : String} {lines : List String} (hl : line ∈ lines) (h : Occurs part line) :
    Occurs part (RestScaffold.unlines lines) := by
  obtain ⟨front,back,rfl⟩ := List.append_of_mem hl
  rw [unlines_append, unlines_cons]
  exact ((h.append_right "\n").append_right _).append_left _

end Occurs

theorem Source.infix_codeLines {s : Source} {part : List Fragment} (h : part ∈ s.sections) :
    linesOfAll 0 part <:+: s.codeLines := by
  obtain ⟨front,back,hsections⟩ := List.append_of_mem h
  obtain ⟨before,rest,hlines,_⟩ := sectionLines_append_cons front part back
  rw [codeLines, hsections, hlines]
  exact ⟨before,rest,List.append_assoc ..⟩

variable {f : GeneratedFile}

theorem occurs_codeLines (hr : f.rules = .generated) :
    Occurs (unlines (written f.source.codeLines)) f.content := by
  by_cases hempty : f.source.codeLines = []
  · rw [hempty]
    exact ⟨f.content,"",by simp [written]⟩
  · rw [content_of_generated hr hempty]
    exact (Occurs.refl _).append_left _

/-- The lines of a section stand together in its file. -/
theorem occurs_section (hr : f.rules = .generated) {part : List Fragment}
    (h : part ∈ f.source.sections) : Occurs (unlines (written (linesOfAll 0 part))) f.content :=
  (Occurs.unlines ((Source.infix_codeLines h).map _)).trans (occurs_codeLines hr)

theorem occurs_item (hr : f.rules = .generated) {n : Node} (h : n ∈ f.source.items) :
    Occurs (unlines (written (linesOfAll 0 n.toFragments))) f.content := by
  refine occurs_section hr ?_
  rw [Source.sections_eq]
  exact List.mem_append_right _ (List.mem_map_of_mem h)

theorem occurs_import (hr : f.rules = .generated) {g : ImportGroup}
    (h : g ∈ f.source.imports.groups) : Occurs g.statement f.content := by
  have hpart : f.source.imports.fragments ∈ f.source.sections := by
    have hne : f.source.imports.isEmpty = false := by
      cases hgroups : f.source.imports.groups with
      | nil =>
        rw [hgroups] at h
        exact absurd h List.not_mem_nil
      | cons first rest => rw [Imports.isEmpty, hgroups, List.isEmpty_cons]
    rw [Source.sections_eq, Source.preface, hne]
    simp
  refine Occurs.trans ?_ (occurs_section hr hpart)
  rw [Imports.linesOfAll_fragments]
  refine Occurs.of_mem (List.mem_map_of_mem (List.mem_map_of_mem h)) ?_
  rw [written_text_zero]
  exact .refl _

theorem occurs_written (depth : Nat) (content : String) :
    Occurs content ((CodeLine.text depth content).written .standard) :=
  (Occurs.refl content).append_left _

theorem occurs_of_mem_lines {part content : String} {depth : Nat} {lines : List CodeLine}
    (hl : .text depth content ∈ lines) (h : Occurs part content) :
    Occurs part (unlines (written lines)) :=
  Occurs.of_mem (List.mem_map_of_mem hl) (h.trans (occurs_written depth content))

section Functions
variable {g : FunctionItem} {part : String}

/-- The documentation of a function stands right in front of its name. -/
theorem occurs_heading (hr : f.rules = .generated) (h : .function g ∈ f.source.items)
    {text : String} (hdoc : g.doc = some text) (htext : text ≠ "") (hattributes : g.attributes = []) :
    Occurs ("/// " ++ text ++ "\n" ++ g.header ++ "(") f.content := by
  refine Occurs.trans ?_ (occurs_item hr h)
  obtain ⟨rest,hopening⟩ := opening_eq g
  have hcomment : commentLine "///" text = "/// " ++ text := by
    have hmark : "/// " = "///" ++ " " := by decide
    rw [commentLine, if_neg (by simpa using htext), hmark]
  have hintro : g.introLines = [.text 0 ("/// " ++ text)] := by
    rw [FunctionItem.introLines, hdoc, hattributes, ← hcomment]
    rfl
  have hlines : linesOfAll 0 (Node.function g).toFragments = _ := g.linesOfAll_fragments
  rw [hlines, hintro, hopening, List.singleton_append, written_cons, written_cons,
    written_text_zero, written_text_zero, unlines_cons, unlines_cons]
  refine ⟨"",rest ++ "\n" ++ unlines (written (g.parameterLines ++
    (g.bodyLines ++ [.text 0 "\x7d"]))),?_⟩
  simp only [String.empty_append, String.append_assoc]

theorem occurs_in_body (hr : f.rules = .generated) (h : .function g ∈ f.source.items)
    {line : String} (hl : line ∈ written g.bodyLines) (hp : Occurs part line) :
    Occurs part f.content := by
  refine Occurs.trans ?_ (occurs_item hr h)
  have hlines : linesOfAll 0 (Node.function g).toFragments = _ := g.linesOfAll_fragments
  rw [hlines]
  refine Occurs.of_mem ?_ hp
  simp only [written_append, written_cons, List.mem_append, List.mem_cons]
  exact Or.inr (Or.inr (Or.inr (Or.inl hl)))

theorem Occurs.intercalate {sep t : String} {parts : List String} (ht : t ∈ parts)
    (h : Occurs part t) : Occurs part (String.intercalate sep parts) := by
  induction parts with
  | nil => exact absurd ht List.not_mem_nil
  | cons first rest ih =>
    cases rest with
    | nil =>
      rw [List.mem_singleton.mp ht] at h
      simpa using h
    | cons second rest =>
      rw [String.intercalate_cons_cons]
      rcases List.mem_cons.mp ht with rfl | ht
      · exact (h.append_right _).append_right _
      · exact (ih ht).append_left _

/-- A parameter stands in the signature, on one line with the others or on a line of its own. -/
theorem occurs_in_signature {p : Parameter} (hp : p ∈ g.parameters) :
    Occurs p.text (unlines (g.opening :: written g.parameterLines)) := by
  by_cases hwidth : g.inlineSignature.utf8ByteSize ≤ FunctionItem.maxSignatureWidth
  · have hlist : Occurs p.text (String.intercalate ", " (g.parameters.map Parameter.text)) :=
      Occurs.intercalate (List.mem_map_of_mem hp) (.refl p.text)
    refine Occurs.of_mem List.mem_cons_self ?_
    rw [FunctionItem.opening, if_pos hwidth]
    exact (((hlist.append_left _).append_right _).append_right _).append_right _
  · have hin : .text 1 (p.text ++ ",") ∈ g.parameterLines := by
      rw [FunctionItem.parameterLines, if_neg hwidth]
      exact List.mem_append_left _ (List.mem_map_of_mem hp)
    rw [unlines_cons]
    exact (occurs_of_mem_lines hin ((Occurs.refl _).append_right _)).append_left _

theorem occurs_parameter (hr : f.rules = .generated) (h : .function g ∈ f.source.items)
    {p : Parameter} (hp : p ∈ g.parameters) : Occurs p.text f.content := by
  have hlines : written (linesOfAll 0 (Node.function g).toFragments) = written g.introLines ++
      ((g.opening :: written g.parameterLines) ++ (written g.bodyLines ++ ["\x7d"])) := by
    have hitem : linesOfAll 0 (Node.function g).toFragments = _ := g.linesOfAll_fragments
    rw [hitem, written_append, written_cons, written_text_zero, written_append, written_append]
    rfl
  refine (occurs_in_signature hp).trans (Occurs.trans ?_ (occurs_item hr h))
  rw [hlines]
  exact Occurs.unlines ⟨written g.introLines,written g.bodyLines ++ ["\x7d"],List.append_assoc ..⟩

end Functions

variable {m : Model} {models : List Model}

theorem handler_mem (m : Model) (o : Operation) :
    .function (m.handler o) ∈ m.handlerFile.source.items := by
  refine List.mem_map_of_mem (List.mem_cons_of_mem _ (List.mem_map_of_mem ?_))
  cases o <;> decide

theorem pathParameter_text (m : Model) :
    m.pathParameter.text = "Path(id): Path<" ++ m.identifier.type.targetType ++ ">" := by
  have hlead : "Path(id): Path<" = "Path(id)" ++ (": " ++ "Path<") := by decide
  rw [hlead]
  simp only [Parameter.text, Model.pathParameter, String.append_assoc]

/-- Each handler is headed by its method and route. -/
theorem occurs_handler (m : Model) (o : Operation) :
    Occurs ("/// " ++ m.handlerDoc o ++ "\npub async fn " ++ m.handlerName o ++ "(")
      m.handlerFile.content := by
  have hne : m.handlerDoc o ≠ "" := by
    cases o <;> simp [Model.handlerDoc]
  have hdoc : (m.handler o).doc = some (m.handlerDoc o) := rfl
  have hheading := occurs_heading rfl (handler_mem m o) hdoc hne rfl
  have hheader : (m.handler o).header = "pub async fn " ++ m.handlerName o := rfl
  have hlead : "\npub async fn " = "\n" ++ "pub async fn " := by decide
  rw [hheader] at hheading
  rw [hlead]
  simp only [String.append_assoc] at hheading ⊢
  exact hheading

theorem bodyLines_handler (m : Model) (o : Operation) : (m.handler o).bodyLines =
    linesOfAll 1 (m.preamble o) ++ linesOfAll 1 (m.query o).fragments ++ [.blank] ++
      linesOfAll 1 (m.outcome o).fragments := by
  rw [FunctionItem.bodyLines, Model.handler, linesOfAll_append, linesOfAll_append,
    linesOfAll_append, linesOfAll_singleton, linesAt]

theorem occurs_queryCall (m : Model) (o : Operation) :
    Occurs (m.queryCall o) m.handlerFile.content := by
  refine occurs_in_body rfl (handler_mem m o) (List.mem_map_of_mem ?_)
    (((Occurs.refl _).append_left "let result = ").trans (occurs_written 1 _))
  rw [bodyLines_handler, Model.linesOfAll_query]
  simp

/-- A statement is quoted in the handler that sends it. -/
theorem occurs_statement (m : Model) (o : Operation) :
    Occurs ("\"" ++ m.statement o ++ "\"") m.handlerFile.content := by
  refine Occurs.trans ?_ (occurs_queryCall m o)
  unfold Model.queryCall
  split
  · exact ⟨"sqlx::query_as::<_, " ++ m.name ++ ">(",")",by simp [← String.toList_inj]⟩
  · exact ⟨"sqlx::query(",")",by simp [← String.toList_inj]⟩

/-- The router nests the group of each model under its path. -/
theorem occurs_nest (hm : m ∈ models) :
    Occurs (nestLine m.pathPlural m.routesName) (routerFile models).content := by
  have hin : .function (routerFunction models) ∈ (routerFile models).source.items :=
    List.mem_map_of_mem (List.mem_cons_of_mem _ List.mem_cons_self)
  refine occurs_in_body rfl hin ?_ (.refl _)
  change _ ∈ written (linesOfAll 1 (routerChain models).fragments)
  rw [written_router, routerLines]
  exact List.mem_append_left _ (List.mem_cons_of_mem _ (List.mem_map_of_mem hm))

/-- A record stands in the file of records, its fields between its braces. -/
theorem occurs_record (hm : m ∈ models) (hne : m.fields ≠ []) :
    Occurs (unlines (("pub struct " ++ m.name ++ " \x7b") ::
      (written (m.record.fields.flatMap (RecordField.lines 1)) ++ ["\x7d"])))
      (recordsFile models).content := by
  have hin : .record m.record ∈ (recordsFile models).source.items :=
    List.mem_append_right _ (List.mem_map_of_mem hm)
  have hfields : m.record.fields ≠ [] := mt List.map_eq_nil_iff.mp hne
  have hitem : linesOfAll 0 (Node.record m.record).toFragments = _ :=
    m.record.linesOfAll_fragments 0 hfields
  refine Occurs.trans (Occurs.unlines ⟨written (linesOfAll 0 (docFragments m.record.doc ++
    m.record.deriveFragments)),[],?_⟩) (occurs_item rfl hin)
  rw [hitem, written_append, written_cons, written_append, written_text_zero, List.append_nil]
  rfl

/-- The records have a field of its type for each field of a model. -/
theorem occurs_recordField (hm : m ∈ models) {mf : ModelField} (hf : mf ∈ m.fields) :
    Occurs ("pub " ++ mf.ident ++ ": " ++ mf.type.targetType ++ ",")
      (recordsFile models).content := by
  have hline : .text 1 ("pub " ++ mf.ident ++ ": " ++ mf.type.targetType ++ ",") ∈
      m.record.fields.flatMap (RecordField.lines 1) :=
    List.mem_flatMap.mpr ⟨mf.recordField,List.mem_map_of_mem hf,
      List.mem_append_right _ List.mem_cons_self⟩
  refine Occurs.trans ?_ (occurs_record hm (List.ne_nil_of_mem hf))
  rw [unlines_cons, unlines_append]
  exact ((occurs_of_mem_lines hline (.refl _)).append_right _).append_left _

end RestScaffold
