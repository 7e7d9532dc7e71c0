import RestScaffold.Proofs.Code.Comments
import RestScaffold.Proofs.Code.Flattening
import RestScaffold.Unicode.Blank

/-! # Lines of white space

A blank line is written bare at any depth, but a line whose text is empty has its indentation before
it. So a tree of fragments is written without lines of white space if and only if no text in a body
begins with a white row and no other row of a text is of white space only. Raw code brings its empty
lines into the body of a function as texts.
-/
namespace RestScaffold
open Fragment

/-- A text of white space only, such as the empty one. -/
def White (s : String) : Prop := ∀ c ∈ s.toList, Unicode.isBlank c = true

instance (s : String) : Decidable (White s) := List.decidableBAll _ s.toList

/-- Of the lines only empty ones are of white space only. -/
def NoWhiteLine (lines : List String) : Prop := ∀ line ∈ lines, White line → line = ""

instance (lines : List String) : Decidable (NoWhiteLine lines) := List.decidableBAll _ lines

theorem white_append {s t : String} : White (s ++ t) ↔ White s ∧ White t := by
  simp only [White, String.toList_append]
  exact List.forall_mem_append

namespace Indent
variable {indent : Indent}

theorem white_unit (indent : Indent) : White indent.unit := by
  unfold unit
  split <;> decide

theorem unit_ne_empty (indent : Indent) : indent.unit ≠ "" := by
  unfold unit
  split <;> decide

theorem lead_succ (indent : Indent) (depth : Nat) :
    indent.lead (depth + 1) = indent.unit ++ indent.lead depth := by
  simp [lead, List.replicate_succ]

theorem white_lead (indent : Indent) (depth : Nat) : White (indent.lead depth) := by
  induction depth with
  | zero => exact fun c hc => absurd hc List.not_mem_nil
  | succ depth ih =>
    rw [lead_succ]
    exact white_append.mpr ⟨indent.white_unit,ih⟩

theorem lead_append_eq_empty_iff {depth : Nat} {s : String} :
    indent.lead depth ++ s = "" ↔ depth = 0 ∧ s = "" := by
  cases depth with
  | zero => simp [lead]
  | succ depth => simp [lead_succ, String.append_eq_empty_iff, indent.unit_ne_empty]

end Indent

/-- No row of a line is of white space only, but for empty rows that have no indentation. -/
def CodeLine.Clear : CodeLine → Prop
  | text depth content =>
    (depth ≠ 0 → ¬White ((rows content).headD "")) ∧ NoWhiteLine (rows content)
  | blank => True

theorem CodeLine.clear_iff (indent : Indent) (line : CodeLine) :
    NoWhiteLine (rows (line.written indent)) ↔ line.Clear := by
  cases line with
  | blank => simp [written, Clear, NoWhiteLine]
  | text depth content =>
    obtain ⟨first,rest,hrows⟩ := List.exists_cons_of_ne_nil (rows_ne_nil content)
    rw [rows_written, Clear, hrows, List.modifyHead_cons, NoWhiteLine, NoWhiteLine,
      List.forall_mem_cons, List.forall_mem_cons, white_append, and_iff_right (indent.white_lead depth),
      Indent.lead_append_eq_empty_iff, List.headD_cons]
    tauto

theorem noWhiteLine_linesWritten (indent : Indent) (depth : Nat) (fs : List Fragment) :
    NoWhiteLine (linesWritten indent depth fs) ↔ ∀ line ∈ linesOfAll depth fs, line.Clear := by
  simp only [NoWhiteLine, linesWritten_eq, List.mem_flatMap, ← CodeLine.clear_iff indent]
  constructor
  · intro h line hline row hrow
    exact h row ⟨line,hline,hrow⟩
  · rintro h row ⟨line,hline,hrow⟩
    exact h line hline row hrow

namespace Fragment

mutual

/-- The texts in a fragment and in its body. -/
def texts : Fragment → List String
  | .line text => [text]
  | .blank => []
  | .block header body close => header :: (textsOf body ++ close.toList)
  | .indent body => textsOf body
  | .doc text => [text]
  | .comment text => [text]

def textsOf : List Fragment → List String
  | [] => []
  | fragment :: rest => fragment.texts ++ textsOf rest

end

theorem texts_subset {f : Fragment} {fs : List Fragment} (h : f ∈ fs) : f.texts ⊆ textsOf fs := by
  induction fs with
  | nil => exact absurd h List.not_mem_nil
  | cons g rest ih =>
    rw [textsOf]
    rcases List.mem_cons.mp h with rfl | h
    · exact List.subset_append_left _ _
    · exact List.Subset.trans (ih h) (List.subset_append_right _ _)

theorem textsOf_map_line {α : Type} (text : α → String) (xs : List α) :
    textsOf (xs.map fun x => .line (text x)) = xs.map text := by
  induction xs with
  | nil => rw [List.map_nil, textsOf, List.map_nil]
  | cons x rest ih => rw [List.map_cons, textsOf, texts, ih, List.map_cons, List.singleton_append]

theorem textsOf_body_subset (f : Fragment) : textsOf f.body ⊆ f.texts := by
  cases f with
  | block header body close =>
    rw [Fragment.body, texts]
    exact List.subset_cons_of_subset header (List.subset_append_left _ _)
  | indent body =>
    rw [Fragment.body, texts]
    exact List.Subset.refl _
  | _ => simp [Fragment.body, textsOf]

end Fragment

namespace CodeLine

/-- A line with one of some texts, bare or in a comment, or a blank one. -/
def MadeOf (texts : List String) : CodeLine → Prop
  | text _ content => content ∈ texts ∨
      ∃ t ∈ texts, ∃ f marker, IsComment t f marker ∧ content = commentLine marker t
  | blank => True

theorem MadeOf.mono {ts us : List String} {line : CodeLine} (h : line.MadeOf ts) (hs : ts ⊆ us) :
    line.MadeOf us := by
  cases line with
  | blank => trivial
  | text depth content =>
    rcases h with h | ⟨t,ht,h⟩
    · exact Or.inl (hs h)
    · exact Or.inr ⟨t,hs ht,h⟩

theorem MadeOf.deeper {ts : List String} {line : CodeLine} (h : line.MadeOf ts) :
    line.deeper.MadeOf ts := by
  cases line <;> exact h

theorem madeOf_own {f : Fragment} {line : CodeLine} (h : line ∈ f.ownLines) :
    line.MadeOf f.texts := by
  cases f with
  | line t =>
    rw [List.mem_singleton.mp h]
    exact Or.inl List.mem_cons_self
  | blank =>
    rw [List.mem_singleton.mp h]
    trivial
  | block header body close =>
    rcases List.mem_cons.mp h with rfl | h
    · exact Or.inl List.mem_cons_self
    · obtain ⟨t,ht,rfl⟩ := Option.map_eq_some_iff.mp (Option.mem_toList.mp h)
      exact Or.inl (List.mem_cons_of_mem header (List.mem_append_right _ (Option.mem_toList.mpr ht)))
  | indent body => exact absurd h List.not_mem_nil
  | doc t =>
    rw [List.mem_singleton.mp h]
    exact Or.inr ⟨t,List.mem_cons_self,_,_,.doc,rfl⟩
  | comment t =>
    rw [List.mem_singleton.mp h]
    exact Or.inr ⟨t,List.mem_cons_self,_,_,.comment,rfl⟩

theorem madeOf_of_mem {fs : List Fragment} {line : CodeLine} (h : line ∈ linesOfAll 0 fs) :
    line.MadeOf (textsOf fs) := by
  have hs := mem_linesOfAll_iff.mp h
  clear h
  induction hs with
  | own hf hline => exact (madeOf_own hline).mono (texts_subset hf)
  | @inner f _ _ hf _ ih =>
    exact (ih.mono (List.Subset.trans (textsOf_body_subset f) (texts_subset hf))).deeper

end CodeLine

/-- A text on one row is white if and only if the row is. -/
theorem white_row {s : String} (h : '\n' ∉ s.toList) : ∃ row, rows s = [row] ∧ (White row ↔ White s) := by
  refine ⟨_,rows_of_notMem h,?_⟩
  cases hs : s.toList.reverse with
  | nil =>
    have hempty : s.toList = [] := by simpa using hs
    simp [White, hempty, endedLine]
  | cons c before =>
    have hlist : s.toList = before.reverse ++ [c] := by simpa using congrArg List.reverse hs
    by_cases hc : c = '\r'
    · subst hc
      have hblank : Unicode.isBlank '\r' = true := by decide
      simp [White, hlist, endedLine, or_imp, forall_and, hblank]
    · have hne : ∀ cs, c :: before = '\r' :: cs → False := fun _ he => hc (List.cons.inj he).1
      rw [endedLine.eq_2 _ hne]
      simp [White, hlist]

theorem not_white_marker {text marker : String} {f : Fragment} (h : IsComment text f marker)
    (s : String) : ¬White (marker ++ s) := by
  have hslash : ¬White marker := by cases h <;> decide
  exact fun hw => hslash (white_append.mp hw).1

theorem commentLine_ne_empty {text marker : String} {f : Fragment} (h : IsComment text f marker) :
    commentLine marker text ≠ "" := by
  intro he
  obtain ⟨opening,hrows⟩ := rows_commentLine h.oneLine_marker text
  rw [he, rows_empty] at hrows
  have hempty : marker ++ opening = "" := (List.cons.inj hrows).1.symm
  refine not_white_marker h opening ?_
  rw [hempty]
  exact fun c hc => absurd hc List.not_mem_nil

/-- Where the texts are on one row and none is white but empty ones, a line is clear unless it is
empty and indented. -/
theorem CodeLine.MadeOf.clear_iff {texts : List String} {depth : Nat} {content : String}
    (hline : (CodeLine.text depth content).MadeOf texts)
    (h : ∀ t ∈ texts, '\n' ∉ t.toList ∧ (White t → t = "")) :
    (CodeLine.text depth content).Clear ↔ (depth ≠ 0 → content ≠ "") := by
  rcases hline with htext | ⟨t,ht,f,marker,hc,rfl⟩
  · obtain ⟨hrow,hwhite⟩ := h content htext
    by_cases hempty : content = ""
    · simp [Clear, hempty, NoWhiteLine, White]
    · obtain ⟨row,hrows,hiff⟩ := white_row hrow
      have hnot : ¬White row := fun hw => hempty (hwhite (hiff.mp hw))
      simp [Clear, NoWhiteLine, hrows, hnot, hempty]
  · obtain ⟨opening,hrows⟩ := rows_commentLine hc.oneLine_marker t
    rw [tail_rows_of_notMem (h t ht).1] at hrows
    simp [Clear, NoWhiteLine, hrows, not_white_marker hc, commentLine_ne_empty hc]

/-- The lines of a text have no rows of white space as lines in a body if and only if none of them is
white. -/
theorem clear_raw_iff (depth : Nat) (r : RawCode) :
    (∀ line ∈ linesOfAll (depth + 1) r.fragments, line.Clear) ↔ ∀ line ∈ linesOf r.text, ¬White line := by
  have hlines := linesOfAll_map_line (depth + 1) id (linesOf r.text)
  rw [RawCode.fragments]
  simp only [id_eq] at hlines
  rw [hlines, List.forall_mem_map]
  refine forall₂_congr fun line hline => ?_
  obtain ⟨row,hrows,hiff⟩ := white_row (newline_notMem_of_mem_linesOf hline)
  simp only [CodeLine.Clear, NoWhiteLine, hrows, List.headD_cons, hiff, List.forall_mem_singleton]
  constructor
  · exact fun h => h.1 (Nat.succ_ne_zero depth)
  · exact fun h => ⟨fun _ => h,fun hw => absurd hw h⟩

theorem linesOfAll_withBody (depth : Nat) (f : FunctionItem) (fs : List Fragment) : ∃ front back,
    linesOfAll depth f.fragments = front ++ back ∧
      linesOfAll depth (f.withBody fs).fragments = front ++ linesOfAll (depth + 1) fs ++ back := by
  refine ⟨linesOfAll depth (docFragments f.doc ++ f.attributes.map attributeLine ++ f.signature) ++
    linesOfAll (depth + 1) f.body,[.text depth "\x7d"],?_,?_⟩
  · rw [FunctionItem.fragments, linesOfAll_append]
    simp [linesOfAll, linesAt]
  · have hsame : (f.withBody fs).fragments =
        docFragments f.doc ++ f.attributes.map attributeLine ++ f.signature ++
          [.indent (f.body ++ fs), .line "\x7d"] := rfl
    rw [hsame, linesOfAll_append]
    simp [linesOfAll, linesAt, linesOfAll_append]

/-- Fragments are written without lines of white space if and only if every line of theirs is clear.
Among texts on one row, none of them white but empty ones, this fails only where an empty line stands
in a body. Raw code in a function's body adds white lines as soon as one of its lines is white. -/
theorem noWhiteLine_iff (indent : Indent) (fs : List Fragment) :
    (NoWhiteLine (linesWritten indent 0 fs) ↔ ∀ line ∈ linesOfAll 0 fs, line.Clear) ∧
    ((∀ text ∈ textsOf fs, '\n' ∉ text.toList ∧ (White text → text = "")) →
      (NoWhiteLine (linesWritten indent 0 fs) ↔
        ∀ depth, CodeLine.text (depth + 1) "" ∉ linesOfAll 0 fs)) ∧
    ∀ (f : FunctionItem) (r : RawCode),
      NoWhiteLine (linesWritten indent 0 (f.withBody r.fragments).fragments) ↔
        NoWhiteLine (linesWritten indent 0 f.fragments) ∧ ∀ line ∈ linesOf r.text, ¬White line := by
  refine ⟨noWhiteLine_linesWritten indent 0 fs,?_,?_⟩
  · intro h
    rw [noWhiteLine_linesWritten]
    constructor
    · intro hclear depth hmem
      have hline := (CodeLine.madeOf_of_mem hmem).clear_iff h
      exact hline.mp (hclear _ hmem) (Nat.succ_ne_zero depth) rfl
    · intro hnone line hmem
      cases line with
      | blank => trivial
      | text depth content =>
        refine ((CodeLine.madeOf_of_mem hmem).clear_iff h).mpr ?_
        rintro hdepth rfl
        obtain ⟨d,rfl⟩ := Nat.exists_eq_succ_of_ne_zero hdepth
        exact hnone d hmem
  · intro f r
    obtain ⟨front,back,hf,hbody⟩ := linesOfAll_withBody 0 f r.fragments
    rw [noWhiteLine_linesWritten, noWhiteLine_linesWritten, hf, hbody, ← clear_raw_iff 0]
    simp only [List.forall_mem_append]
    tauto

/-- A documented pair of declarations with a blank line between them, and an empty line after it. -/
def spacedModule : List Fragment :=
  [.doc "",.block "mod handlers \x7b" [.line "pub mod user;",.blank,.line "pub mod post;"]
    (some "\x7d"),.line ""]

/-- A blank line in a body and an empty line outside of one are both written as empty lines. -/
theorem spacedModule_noWhiteLine :
    (∀ text ∈ textsOf spacedModule, '\n' ∉ text.toList ∧ (White text → text = "")) ∧
    (∀ depth, CodeLine.text (depth + 1) "" ∉ linesOfAll 0 spacedModule) ∧
    ∀ indent, NoWhiteLine (linesWritten indent 0 spacedModule) := by
  have htexts : ∀ text ∈ textsOf spacedModule, '\n' ∉ text.toList ∧ (White text → text = "") := by
    decide +kernel
  have hnone : ∀ depth, CodeLine.text (depth + 1) "" ∉ linesOfAll 0 spacedModule := by
    intro depth
    simp [spacedModule, linesOfAll, linesAt]
  exact ⟨htexts,hnone,fun indent => ((noWhiteLine_iff indent spacedModule).2.1 htexts).mpr hnone⟩

/-- A function whose body is raw code with an empty line. -/
def gappedFunction : FunctionItem :=
  (FunctionItem.new "run").withBody (RawCode.fragments ⟨"open();\n\nclose();"⟩)

/-- An empty line of raw code is indented in the body of a function. -/
theorem gappedFunction_whiteLine :
    (∀ text ∈ textsOf gappedFunction.fragments, White text → text = "") ∧
    linesWritten .standard 0 gappedFunction.fragments =
      ["pub fn run() \x7b","    open();","    ","    close();","\x7d"] ∧
    ¬NoWhiteLine (linesWritten .standard 0 gappedFunction.fragments) := by
  decide +kernel

end RestScaffold
