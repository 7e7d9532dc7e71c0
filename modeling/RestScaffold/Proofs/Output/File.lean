import RestScaffold.Output.File
import RestScaffold.Proofs.Code.Declarations

/-! # Generated files read line by line

What a reader finds in a generated file whose items are functions: the modules that are declared,
the names of the functions under each lead, and the body of each function.
-/
namespace RestScaffold
open Fragment

namespace Source

theorem mem_sectionLines {sections : List (List Fragment)} {line : CodeLine}
    (h : line ∈ sectionLines sections) :
    line = .blank ∨ ∃ s ∈ sections, line ∈ linesOfAll 0 s := by
  cases sections with
  | nil => exact absurd h List.not_mem_nil
  | cons first rest =>
    rw [sectionLines_cons] at h
    rcases List.mem_append.mp h with h | h
    · exact Or.inr ⟨first,List.mem_cons_self,h⟩
    · obtain ⟨s,hs,h⟩ := List.mem_flatMap.mp h
      rcases List.mem_cons.mp h with rfl | h
      · exact Or.inl rfl
      · exact Or.inr ⟨s,List.mem_cons_of_mem first hs,h⟩

/-- The lines of a section stand together, and only earlier sections are in front of them. -/
theorem sectionLines_append_cons (front : List (List Fragment)) (s : List Fragment)
    (back : List (List Fragment)) : ∃ before rest,
    sectionLines (front ++ s :: back) = before ++ (linesOfAll 0 s ++ rest) ∧
      ∀ line ∈ before, line = .blank ∨ ∃ p ∈ front, line ∈ linesOfAll 0 p := by
  cases front with
  | nil => exact ⟨[],_,sectionLines_cons s back,fun _ h => absurd h List.not_mem_nil⟩
  | cons first front =>
    refine ⟨linesOfAll 0 first ++ (front.flatMap fun part => .blank :: linesOfAll 0 part) ++
      [.blank],back.flatMap fun part => .blank :: linesOfAll 0 part,?_,?_⟩
    · rw [List.cons_append, sectionLines_cons, List.flatMap_append, List.flatMap_cons]
      simp
    · intro line hline
      rcases List.mem_append.mp hline with hline | hline
      · have hin : line ∈ sectionLines (first :: front) := by
          rw [sectionLines_cons]
          exact hline
        exact mem_sectionLines hin
      · exact Or.inl (List.mem_singleton.mp hline)

/-- The sections in front of the items. -/
def preface (s : Source) : List (List Fragment) :=
  (if s.modules.isEmpty then [] else [s.modules.map fun d => .line d.text])
    ++ if s.imports.isEmpty then [] else [s.imports.fragments]

theorem sections_eq (s : Source) : s.sections = s.preface ++ s.items.map Node.toFragments := rfl

/-- Items that are added stand behind the others, each after a blank line. -/
theorem codeLines_addAll {s : Source} (h : s.sections ≠ []) (items : List Node) :
    (s.addAll items).codeLines =
      s.codeLines ++ items.flatMap fun n => .blank :: linesOfAll 0 n.toFragments := by
  obtain ⟨first,rest,hsections⟩ := List.exists_cons_of_ne_nil h
  have hall : (s.addAll items).sections = first :: (rest ++ items.map Node.toFragments) := by
    rw [sections_eq, addAll, List.map_append, ← List.append_assoc, ← List.cons_append, ← hsections,
      sections_eq]
    rfl
  rw [codeLines, codeLines, hall, hsections, sectionLines_cons, sectionLines_cons,
    List.flatMap_append, List.flatMap_map, List.append_assoc]

theorem mem_preface {s : Source} {part : List Fragment} (hp : part ∈ s.preface) {line : CodeLine}
    (h : line ∈ linesOfAll 0 part) : (∃ d ∈ s.modules, line = .text 0 d.text) ∨
      ∃ g ∈ s.imports.groups, line = .text 0 g.statement := by
  rcases List.mem_append.mp hp with hp | hp
  · split at hp
    · exact absurd hp List.not_mem_nil
    rw [List.mem_singleton.mp hp, linesOfAll_map_line] at h
    obtain ⟨d,hd,rfl⟩ := List.mem_map.mp h
    exact Or.inl ⟨d,hd,rfl⟩
  · split at hp
    · exact absurd hp List.not_mem_nil
    rw [List.mem_singleton.mp hp, Imports.linesOfAll_fragments] at h
    obtain ⟨g,hg,rfl⟩ := List.mem_map.mp h
    exact Or.inr ⟨g,hg,rfl⟩

theorem unbroken_preface {s : Source} (hm : ∀ d ∈ s.modules, OneLine d.name)
    (hi : s.imports.Whole) {part : List Fragment} (hp : part ∈ s.preface) :
    Unbroken (linesOfAll 0 part) := by
  intro line hline
  rcases mem_preface hp hline with ⟨d,hd,rfl⟩ | ⟨g,hg,rfl⟩
  · simp only [CodeLine.content, ModuleDeclaration.text, oneLine_append]
    refine ⟨⟨?_,hm d hd⟩,by decide⟩
    split <;> decide
  · refine hi.unbroken _ ?_
    rw [Imports.linesOfAll_fragments]
    exact List.mem_map_of_mem hg

theorem unbroken_codeLines {s : Source} (hm : ∀ d ∈ s.modules, OneLine d.name)
    (hi : s.imports.Whole) (hitems : ∀ n ∈ s.items, Unbroken (linesOfAll 0 n.toFragments)) :
    Unbroken s.codeLines := by
  intro line hline
  rcases mem_sectionLines hline with rfl | ⟨sec,hsec,hline⟩
  · decide
  rw [sections_eq] at hsec
  rcases List.mem_append.mp hsec with hsec | hsec
  · exact unbroken_preface hm hi hsec line hline
  · obtain ⟨n,hn,rfl⟩ := List.mem_map.mp hsec
    exact hitems n hn line hline

end Source

/-- A generated file of functions whose lines are whole. -/
structure FunctionFile (f : GeneratedFile) (functions : List FunctionItem) : Prop where
  rules : f.rules = .generated
  items : f.source.items = functions.map .function
  unbroken : Unbroken f.source.codeLines
  names : ∀ g ∈ functions, '(' ∉ g.name.toList

variable {f : GeneratedFile} {functions : List FunctionItem} {lead : String} {stop : Char}

theorem content_finish (f : GeneratedFile) : f.finish.content = f.content := rfl

theorem render_eq (s : Source) : s.render = unlines (written s.codeLines) :=
  s.renderWith_eq .standard

theorem content_of_generated (hr : f.rules = .generated) (hne : f.source.codeLines ≠ []) :
    f.content = generatedHeader ++ "\n\n" ++ unlines (written f.source.codeLines) := by
  obtain ⟨first,rest,hl⟩ := List.exists_cons_of_ne_nil hne
  have hempty : (unlines (written f.source.codeLines)).isEmpty = false := by
    rw [hl, written_cons, unlines_cons]
    simp [String.append_eq_empty_iff]
  rw [GeneratedFile.content, hr, render_eq]
  simp only [FileRules.apply, FileRules.generated, hempty, Bool.false_eq_true, ↓reduceIte]

/-- The first line of the source follows the header. -/
theorem content_of_head (hr : f.rules = .generated) {line : String}
    (h : f.source.codeLines.head? = some (.text 0 line)) :
    ∃ rest, f.content = generatedHeader ++ "\n\n" ++ (line ++ rest) := by
  obtain ⟨lines,hl⟩ := List.head?_eq_some_iff.mp h
  have hne : f.source.codeLines ≠ [] := by
    rw [hl]
    exact List.cons_ne_nil _ _
  rw [content_of_generated hr hne, hl, written_cons, written_text_zero, unlines_cons]
  exact ⟨"\n" ++ unlines (written lines),by simp only [String.append_assoc]⟩

/-- The lines of a generated file are those of its source, with a header before them. -/
theorem linesOf_content (hr : f.rules = .generated) (hu : Unbroken f.source.codeLines) :
    ∃ intro, (∀ line ∈ intro, Aside line) ∧
      linesOf f.content = intro ++ written f.source.codeLines := by
  by_cases hempty : f.source.codeLines = []
  · refine ⟨[generatedHeader],by decide,?_⟩
    have he : f.content = unlines [generatedHeader] := by
      rw [GeneratedFile.content, hr, render_eq, hempty]
      rfl
    rw [he, hempty, linesOf_unlines (by decide)]
    rfl
  · refine ⟨[generatedHeader,""],by decide,?_⟩
    have he : f.content =
        unlines ([generatedHeader,""] ++ written f.source.codeLines) := by
      rw [content_of_generated hr hempty, unlines_append]
      rfl
    rw [he, linesOf_unlines]
    rw [List.forall_mem_append]
    refine ⟨by decide,?_⟩
    intro line hline
    obtain ⟨l,hl,rfl⟩ := List.mem_map.mp hline
    exact oneLine_written_iff.mpr (hu l hl)

theorem declared_flatMap {α : Type} (xs : List α) (g : α → List String) :
    declared lead stop (xs.flatMap g) = xs.flatMap fun x => declared lead stop (g x) := by
  induction xs with
  | nil => rfl
  | cons x rest ih => rw [List.flatMap_cons, declared_append, ih, List.flatMap_cons]

/-- The blank lines between sections declare nothing. -/
theorem declared_sectionLines (hl : LowerLead lead) (sections : List (List Fragment)) :
    declared lead stop (written (Source.sectionLines sections)) =
      sections.flatMap fun s => declared lead stop (written (linesOfAll 0 s)) := by
  cases sections with
  | nil => rfl
  | cons first rest =>
    have hblank : ∀ s, declared lead stop (written (.blank :: linesOfAll 0 s)) =
        declared lead stop (written (linesOfAll 0 s)) := by
      intro s
      have hnone : after? lead "" = none := after?_of_aside hl (by decide)
      simp [written, declared, CodeLine.written, hnone]
    rw [Source.sectionLines_cons, written_append, declared_append, List.flatMap_cons]
    congr 1
    rw [written, List.map_flatMap, declared_flatMap]
    exact congrArg (rest.flatMap ·) (funext hblank)

/-- What a file declares is declared by its modules, its imports or its items. -/
theorem declared_content (hr : f.rules = .generated) (hu : Unbroken f.source.codeLines)
    (hl : LowerLead lead) : declared lead stop (linesOf f.content) =
      declared lead stop (f.source.modules.map ModuleDeclaration.text) ++
        declared lead stop (f.source.imports.groups.map ImportGroup.statement) ++
        f.source.items.flatMap fun n =>
        declared lead stop (written (linesOfAll 0 n.toFragments)) := by
  obtain ⟨intro,hintro,he⟩ := linesOf_content hr hu
  have hmodules : written (linesOfAll 0 (f.source.modules.map fun d => .line d.text)) =
      f.source.modules.map ModuleDeclaration.text := by
    rw [linesOfAll_map_line, written, List.map_map]
    exact List.map_congr_left fun d _ => written_text_zero d.text
  have himports : written (linesOfAll 0 f.source.imports.fragments) =
      f.source.imports.groups.map ImportGroup.statement := by
    rw [Imports.linesOfAll_fragments, written, List.map_map]
    exact List.map_congr_left fun g _ => written_text_zero g.statement
  rw [he, declared_append, declared_of_aside hl hintro, List.nil_append, Source.codeLines,
    declared_sectionLines hl, Source.sections, List.flatMap_append, List.flatMap_append,
    List.flatMap_map]
  congr 1
  congr 1
  · cases hm : f.source.modules with
    | nil => rfl
    | cons d rest => simpa [hm] using congrArg (declared lead stop) hmodules
  · cases hi : f.source.imports.isEmpty with
    | true =>
      have hg : f.source.imports.groups = [] := List.isEmpty_iff.mp hi
      simp [hg, declared]
    | false => simpa using congrArg (declared lead stop) himports

theorem after?_statement (h : lead.toList.head? ≠ some 'u') (hl : LowerLead lead)
    (g : ImportGroup) : after? lead g.statement = none := by
  refine after?_eq_none_of_head ?_ hl.ne_empty
  have hhead : g.statement.toList.head? = some 'u' := by
    unfold ImportGroup.statement
    split <;> simp [String.toList_append]
  rw [hhead]
  exact h.symm

theorem after?_functionLead_module (p a : Bool) (d : ModuleDeclaration) :
    after? (functionLead p a) d.text = none := by
  cases p <;> cases a <;> cases hd : d.isPublic <;>
    simp [after?, functionLead, ModuleDeclaration.text, String.toList_append, List.isPrefixOf?, hd]

theorem head?_functionLead (p a : Bool) : (functionLead p a).toList.head? ≠ some 'u' := by
  revert p a
  decide

/-- The names under a lead are those of the functions that have it, in their order. -/
theorem FunctionFile.declared_content (h : FunctionFile f functions) (p a : Bool) :
    declared (functionLead p a) '(' (linesOf f.content) =
      (functions.filter fun g => (p,a) == (g.isPublic,g.isAsync)).map FunctionItem.name := by
  have hlead := lowerLead_functionLead p a
  have hmodules : declared (functionLead p a) '('
      (f.source.modules.map ModuleDeclaration.text) = [] := by
    refine declared_eq_nil ?_
    simpa using fun d _ => after?_functionLead_module p a d
  have himports : declared (functionLead p a) '('
      (f.source.imports.groups.map ImportGroup.statement) = [] := by
    refine declared_eq_nil ?_
    simpa using fun g _ => after?_statement (head?_functionLead p a) hlead g
  rw [RestScaffold.declared_content h.rules h.unbroken hlead, hmodules, himports, h.items,
    List.flatMap_map, List.nil_append, List.nil_append]
  have hnames := h.names
  clear h hmodules himports
  induction functions with
  | nil => rfl
  | cons g rest ih =>
    obtain ⟨hg,hrest⟩ := List.forall_mem_cons.mp hnames
    rw [List.flatMap_cons, ih hrest, Node.toFragments, declared_function p a hg, List.filter_cons]
    by_cases hflags : (p,a) = (g.isPublic,g.isAsync)
    · simp [hflags]
    · simp [hflags]

/-- The body of a function is read back if no other function has its header. -/
theorem FunctionFile.bodyOf_content (h : FunctionFile f functions)
    (hnodup : (functions.map FunctionItem.header).Nodup) {g : FunctionItem} (hg : g ∈ functions) :
    bodyOf g.header (linesOf f.content) = written g.bodyLines := by
  obtain ⟨intro,hintro,he⟩ := linesOf_content h.rules h.unbroken
  obtain ⟨front,back,rfl⟩ := List.append_of_mem hg
  have hlead : LowerLead (g.header ++ "(") := ((lowerLead_functionLead _ _).append _).append _
  have hsections : f.source.sections = (f.source.preface ++ front.map FunctionItem.fragments) ++
      g.fragments :: back.map FunctionItem.fragments := by
    rw [Source.sections_eq, h.items]
    simp [Node.toFragments, Function.comp_def]
  obtain ⟨before,rest,hlines,hbefore⟩ := Source.sectionLines_append_cons
    (f.source.preface ++ front.map FunctionItem.fragments) g.fragments
    (back.map FunctionItem.fragments)
  have hnone : ∀ line ∈ written before, after? (g.header ++ "(") line = none := by
    intro line hline
    obtain ⟨l,hl,rfl⟩ := List.mem_map.mp hline
    rcases hbefore l hl with rfl | ⟨sec,hsec,hl⟩
    · exact after?_of_aside hlead (by decide)
    rcases List.mem_append.mp hsec with hsec | hsec
    · rcases Source.mem_preface hsec hl with ⟨d,_,rfl⟩ | ⟨i,_,rfl⟩
      · rw [written_text_zero, header_eq, String.append_assoc]
        exact after?_eq_none_append (after?_functionLead_module _ _ d)
      · rw [written_text_zero, header_eq, String.append_assoc]
        exact after?_eq_none_append
          (after?_statement (head?_functionLead _ _) (lowerLead_functionLead _ _) i)
    · obtain ⟨other,hother,rfl⟩ := List.mem_map.mp hsec
      have hne : g.header ≠ other.header := by
        rw [List.map_append, List.map_cons, List.nodup_append] at hnodup
        intro heq
        exact hnodup.2.2 _ (List.mem_map_of_mem hother) _ List.mem_cons_self heq.symm
      exact after?_header_of_ne (h.names g hg) (h.names other (List.mem_append_left _ hother)) hne
        _ (List.mem_map_of_mem hl)
  rw [he, bodyOf_append fun line hline => after?_of_aside hlead (hintro line hline),
    Source.codeLines, hsections, hlines, written_append, bodyOf_append hnone, written_append,
    bodyOf_function]

end RestScaffold
