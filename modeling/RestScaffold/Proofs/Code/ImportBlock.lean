import RestScaffold.Proofs.Code.ImportCalls
import RestScaffold.Proofs.Text.ByteOrder

/-! # The block of imports

What the imports of a file are written as depends on the order in which their modules are first
mentioned and on the symbols that are added, and on nothing else of the calls that were made. In a
source file this block is a section of its own.
-/
namespace RestScaffold
open Fragment

theorem unlines_eq_intercalate {lines : List String} (h : lines ≠ []) :
    unlines lines = String.intercalate "\n" lines ++ "\n" := by
  induction lines with
  | nil => exact absurd rfl h
  | cons line rest ih =>
    cases rest with
    | nil => simp
    | cons next rest =>
      rw [unlines_cons, ih (List.cons_ne_nil next rest), String.intercalate_cons_cons]
      simp only [String.append_assoc]

/-- A line end after a text opens no further line. -/
theorem linesFrom_concat {c : Char} (hn : c ≠ '\n') (hr : c ≠ '\r') (current cs : List Char) :
    linesFrom current (cs ++ [c,'\n']) = linesFrom current (cs ++ [c]) := by
  induction cs generalizing current with
  | nil => simp [linesFrom, hn, hr]
  | cons d rest ih =>
    by_cases hd : d = '\n'
    · simp [hd, linesFrom_newline, ih]
    · simp [linesFrom_char hd, ih]

theorem linesOf_append_newline {s : String} {c : Char} (hc : s.toList.getLast? = some c)
    (hn : c ≠ '\n') (hr : c ≠ '\r') : linesOf (s ++ "\n") = linesOf s := by
  obtain ⟨front,hs⟩ := List.getLast?_eq_some_iff.mp hc
  have hlist : (s ++ "\n").toList = front ++ [c,'\n'] := by
    simp [String.toList_append, hs]
  rw [linesOf, linesOf, hlist, hs, linesFrom_concat hn hr]

theorem getLast?_intercalate_eq_some {sep : String} {c : Char} {parts : List String} (hne : parts ≠ [])
    (h : ∀ part ∈ parts, part.toList.getLast? = some c) :
    (String.intercalate sep parts).toList.getLast? = some c := by
  induction parts with
  | nil => exact absurd rfl hne
  | cons part rest ih =>
    obtain ⟨hpart,hrest⟩ := List.forall_mem_cons.mp h
    cases rest with
    | nil => simpa using hpart
    | cons next rest =>
      rw [String.intercalate_cons_cons, String.toList_append, List.getLast?_append,
        ih (List.cons_ne_nil next rest) hrest, Option.some_or]

/-- The text of some fragments that stand by themselves. -/
def partText (indent : Indent) (fragments : List Fragment) : String :=
  ((Writer.new indent).emit fragments).text

theorem partText_eq (indent : Indent) (fragments : List Fragment) : partText indent fragments =
    unlines ((linesOfAll 0 fragments).map (CodeLine.written indent)) := by
  rw [partText, Writer.emit_eq]
  exact String.empty_append

theorem partText_lines (indent : Indent) {α : Type} (text : α → String) (xs : List α) :
    partText indent (xs.map fun x => .line (text x)) = unlines (xs.map text) := by
  rw [partText_eq, linesOfAll_map_line, List.map_map]
  simp [Function.comp_def, CodeLine.written]

/-- A source file is the texts of its sections with a blank line between any two. -/
theorem Source.renderWith_eq_parts (s : Source) (indent : Indent) :
    s.renderWith indent = String.intercalate "\n" (s.sections.map (partText indent)) := by
  rw [renderWith_eq, codeLines]
  induction s.sections with
  | nil => rfl
  | cons first rest ih =>
    cases rest with
    | nil => simp [sectionLines, partText_eq]
    | cons second rest =>
      have hlines : sectionLines (first :: second :: rest) =
          linesOfAll 0 first ++ .blank :: sectionLines (second :: rest) := by
        simp [sectionLines]
      rw [hlines, List.map_append, unlines_append, ← partText_eq, List.map_cons, unlines_cons, ih]
      simp [CodeLine.written, String.append_assoc]

/-- The calls mention the same modules in the same order and add the same symbols. -/
structure AskAlike (calls others : List ImportCall) : Prop where
  modules : Imports.mentioned others = Imports.mentioned calls
  symbols : ∀ module symbol,
    Imports.Added others module symbol ↔ Imports.Added calls module symbol

/-- Under each module the symbols that some calls add, each once and in the order of their bytes. -/
structure Catalogues (calls : List ImportCall) (symbols : String → List String) : Prop where
  ascending : ∀ module, (symbols module).Pairwise fun a b => utf8 a < utf8 b
  mem_iff : ∀ module symbol, symbol ∈ symbols module ↔ Imports.Added calls module symbol

namespace Imports

theorem catalogues_symbolsOf (calls : List ImportCall) :
    Catalogues calls (ofCalls calls).symbolsOf where
  ascending module := by simpa only [utf8_lt_iff] using pairwise_symbolsOf calls module
  mem_iff _ _ := mem_symbolsOf

theorem mentioned_again {c : ImportCall} {before : List ImportCall} (h : c ∈ before)
    (after : List ImportCall) : mentioned (before ++ c :: after) = mentioned (before ++ after) := by
  have hm : c.request.module ∈ before.map fun c => c.request.module := List.mem_map_of_mem h
  simp only [mentioned, List.map_append, List.map_cons, List.eraseDups_append,
    List.cons_removeAll, List.elem_eq_mem, hm, decide_true, Bool.true_eq_false, if_false]

/-- A call that was made before changes nothing. -/
theorem ofCalls_again {c : ImportCall} {before : List ImportCall} (h : c ∈ before)
    (after : List ImportCall) : ofCalls (before ++ c :: after) = ofCalls (before ++ after) := by
  have hmem : ∀ d, d ∈ before ++ c :: after ↔ d ∈ before ++ after := by
    intro d
    by_cases hd : d = c
    · simp [hd, h]
    · simp [hd]
  refine ofCalls_congr (mentioned_again h after) ?_
  intro module symbol
  simp only [Added, hmem]

theorem isEmpty_ofCalls (calls : List ImportCall) :
    (ofCalls calls).isEmpty = calls.isEmpty := by
  rw [isEmpty, groups_ofCalls, List.isEmpty_map, mentioned]
  cases calls with
  | nil => rfl
  | cons c rest => simp [List.eraseDups_cons]

theorem text_ofCalls (calls : List ImportCall) : (ofCalls calls).text =
    String.intercalate "\n" ((mentioned calls).map fun m =>
      (⟨m,(ofCalls calls).symbolsOf m⟩ : ImportGroup).statement) := by
  rw [text, groups_ofCalls, List.map_map]
  rfl

end Imports

theorem ImportGroup.getLast?_statement (g : ImportGroup) : g.statement.toList.getLast? = some ';' := by
  unfold statement
  split <;> simp [String.toList_append, List.getLast?_append, List.getLast?_cons]

namespace Imports
variable {i : Imports}

theorem partText_fragments (indent : Indent) (h : i.isEmpty = false) :
    partText indent i.fragments = i.text ++ "\n" := by
  have hne : i.groups.map ImportGroup.statement ≠ [] := by simpa [isEmpty] using h
  rw [fragments, partText_lines, unlines_eq_intercalate hne, text]

theorem getLast?_text (h : i.isEmpty = false) : i.text.toList.getLast? = some ';' := by
  have hne : i.groups.map ImportGroup.statement ≠ [] := by simpa [isEmpty] using h
  refine getLast?_intercalate_eq_some hne ?_
  intro line hline
  obtain ⟨g,_,rfl⟩ := List.mem_map.mp hline
  exact g.getLast?_statement

/-- The lines that some imports are written as are those of their text. -/
theorem linesOf_partText (indent : Indent) (i : Imports) :
    linesOf (partText indent i.fragments) = linesOf i.text := by
  cases h : i.isEmpty with
  | false =>
    rw [partText_fragments indent h]
    exact linesOf_append_newline (getLast?_text h) (by decide) (by decide)
  | true =>
    have hnil : i.groups = [] := by simpa [isEmpty] using h
    rw [fragments, text, hnil]
    rfl

/-- The section of the imports in a source file, which is left out where there are none. -/
theorem renderWith_imports {s : Source} (hs : s.imports = i) (indent : Indent) :
    s.renderWith indent = String.intercalate "\n"
      ((if s.modules = [] then [] else [unlines (s.modules.map ModuleDeclaration.text)]) ++
        (if i.isEmpty then [] else [i.text ++ "\n"]) ++
        s.items.map fun item => partText indent item.toFragments) := by
  subst hs
  rw [Source.renderWith_eq_parts, Source.sections, List.map_append, List.map_append, List.map_map]
  congr 3
  · by_cases hm : s.modules = []
    · simp [hm]
    · rw [if_neg hm, if_neg (by simpa using hm), List.map_singleton, partText_lines]
  · cases hi : s.imports.isEmpty with
    | false => simp [partText_fragments indent hi]
    | true => rfl

/-- The block of imports is canonical: one statement for each module in the order of first mention,
with the symbols that are added to it in the order of their bytes. Calls that ask alike are written
alike, a call that was made before changes nothing, and a source file has the lines of that text. -/
theorem ofCalls_canonical (calls : List ImportCall) :
    (∃ symbols, Catalogues calls symbols ∧ (ofCalls calls).text =
      String.intercalate "\n" ((mentioned calls).map fun m =>
        (⟨m,symbols m⟩ : ImportGroup).statement)) ∧
    (∀ others, AskAlike calls others → (ofCalls others).text = (ofCalls calls).text) ∧
    (∀ before after, ∀ c ∈ before, calls = before ++ after →
      ofCalls (before ++ c :: after) = ofCalls calls) ∧
    ∀ indent,
      linesOf (partText indent (ofCalls calls).fragments) = linesOf (ofCalls calls).text ∧
      ∀ s : Source, s.imports = ofCalls calls → s.renderWith indent = String.intercalate "\n"
        ((if s.modules = [] then [] else [unlines (s.modules.map ModuleDeclaration.text)]) ++
          (if calls = [] then [] else [(ofCalls calls).text ++ "\n"]) ++
          s.items.map fun item => partText indent item.toFragments) := by
  refine ⟨⟨_,catalogues_symbolsOf calls,text_ofCalls calls⟩,?_,?_,?_⟩
  · intro others h
    rw [ofCalls_congr h.modules h.symbols]
  · rintro before after c hc rfl
    exact ofCalls_again hc after
  · intro indent
    refine ⟨linesOf_partText indent _,?_⟩
    intro s hs
    rw [renderWith_imports hs, isEmpty_ofCalls]
    simp only [List.isEmpty_iff]

def extractorCalls : List ImportCall :=
  [.add "axum::extract" "State",.add "axum::extract" "Path",.addPath "sqlx::PgPool"]

def extractorPaths : List ImportCall :=
  [.addPath "axum::extract::Path",.add "sqlx" "PgPool",.add "axum::extract" "State"]

/-- Two ways to ask for two extractors and a pool, and a file that begins with these imports. -/
theorem extractors_pool_canonical : AskAlike extractorCalls extractorPaths ∧
    (ofCalls extractorPaths).text =
      "use axum::extract::\x7bPath, State\x7d;\nuse sqlx::PgPool;" ∧
    ofCalls (extractorCalls ++ [.add "axum::extract" "Path"]) = ofCalls extractorCalls ∧
    ∀ indent, (⟨[],ofCalls extractorCalls,[]⟩ : Source).renderWith indent =
      "use axum::extract::\x7bPath, State\x7d;\nuse sqlx::PgPool;\n" := by
  have htext : (ofCalls extractorCalls).text =
      "use axum::extract::\x7bPath, State\x7d;\nuse sqlx::PgPool;" := by decide
  have halike : AskAlike extractorCalls extractorPaths := by
    have hcalls : extractorCalls.map ImportCall.request =
        [⟨"axum::extract",some "State"⟩,⟨"axum::extract",some "Path"⟩,⟨"sqlx",some "PgPool"⟩] := by
      decide
    have hpaths : extractorPaths.map ImportCall.request =
        [⟨"axum::extract",some "Path"⟩,⟨"sqlx",some "PgPool"⟩,⟨"axum::extract",some "State"⟩] := by
      decide
    refine ⟨by decide,?_⟩
    intro module symbol
    rw [added_iff, added_iff, hcalls, hpaths]
    simp only [List.mem_cons, List.not_mem_nil, or_false]
    tauto
  obtain ⟨_,hothers,hagain,hlines⟩ := ofCalls_canonical extractorCalls
  refine ⟨halike,(hothers _ halike).trans htext,?_,?_⟩
  · exact hagain extractorCalls [] (.add "axum::extract" "Path") (by decide) (by simp)
  · intro indent
    rw [(hlines indent).2 _ rfl, htext]
    simp [extractorCalls]

end Imports
end RestScaffold
