import RestScaffold.Proofs.Code.ImportPath
import RestScaffold.Proofs.Text.Lines

/-! # The lines of each kind of item

Chains, case splits, functions and imports as the lines they are written as. None of these lines is
broken if no text that went into the item is.
-/
namespace RestScaffold
open Fragment

def CodeLine.content : CodeLine → String
  | text _ content => content
  | blank => ""

/-- Lines that are read back as they were written. -/
def Unbroken (lines : List CodeLine) : Prop := ∀ line ∈ lines, OneLine line.content

instance (lines : List CodeLine) : Decidable (Unbroken lines) := List.decidableBAll _ lines

theorem unbroken_append {a b : List CodeLine} : Unbroken (a ++ b) ↔ Unbroken a ∧ Unbroken b :=
  List.forall_mem_append

theorem unbroken_cons {line : CodeLine} {lines : List CodeLine} :
    Unbroken (line :: lines) ↔ OneLine line.content ∧ Unbroken lines :=
  List.forall_mem_cons

theorem unbroken_text_cons {depth : Nat} {text : String} {lines : List CodeLine} :
    Unbroken (.text depth text :: lines) ↔ OneLine text ∧ Unbroken lines :=
  List.forall_mem_cons

theorem unbroken_nil : Unbroken [] := fun _ h => absurd h List.not_mem_nil

theorem oneLine_written_iff {line : CodeLine} :
    OneLine (line.written .standard) ↔ OneLine line.content := by
  cases line with
  | text depth content =>
    have hunit : OneLine Indent.standard.unit := by decide
    rw [CodeLine.written, oneLine_append]
    exact and_iff_right (hunit.join_replicate depth)
  | blank => exact Iff.rfl

theorem oneLine_commentLine {marker text : String} (hm : OneLine marker) (ht : OneLine text) :
    OneLine (commentLine marker text) := by
  unfold commentLine
  split
  · exact hm
  · exact oneLine_append.mpr ⟨oneLine_append.mpr ⟨hm,by decide⟩,ht⟩

theorem linesOfAll_singleton (depth : Nat) (f : Fragment) :
    linesOfAll depth [f] = f.linesAt depth := by
  rw [linesOfAll, linesOfAll, List.append_nil]

theorem linesOfAll_flatMap {α : Type} (depth : Nat) (g : α → List Fragment) (xs : List α) :
    linesOfAll depth (xs.flatMap g) = xs.flatMap fun x => linesOfAll depth (g x) := by
  induction xs with
  | nil => exact linesOfAll.eq_1 depth
  | cons x rest ih => rw [List.flatMap_cons, List.flatMap_cons, linesOfAll_append, ih]

theorem linesOfAll_docFragments (depth : Nat) (doc : Option String) :
    linesOfAll depth (docFragments doc) =
      (doc.map fun text => .text depth (commentLine "///" text)).toList := by
  cases doc with
  | none => exact linesOfAll.eq_1 depth
  | some text => exact linesOfAll_singleton depth (.doc text)

theorem linesOfAll_attributes (depth : Nat) (attributes : List String) :
    linesOfAll depth (attributes.map attributeLine) =
      attributes.map fun content => .text depth ("#[" ++ content ++ "]") :=
  linesOfAll_map_line depth (fun content => "#[" ++ content ++ "]") attributes

namespace Chain

theorem callEach_eq (c : Chain) (name : String) (args : List String) :
    c.callEach name args = { c with calls := c.calls ++ args.map fun arg => ⟨name,[arg]⟩ } := by
  induction args generalizing c with
  | nil => simp [callEach]
  | cons arg rest ih =>
    have hrest := ih (c.callArg name arg)
    unfold callEach at hrest ⊢
    rw [List.foldl_cons, hrest]
    simp [callArg, callArgs]

theorem linesOfAll_fragments (depth : Nat) (c : Chain) (h : c.calls ≠ []) :
    linesOfAll depth c.fragments =
      .text depth c.head :: c.callLines.map (.text (depth + 1)) := by
  have he : c.calls.isEmpty = false := by simpa using h
  have hcalls := linesOfAll_map_line (depth + 1) id c.callLines
  simp only [fragments, he, Bool.false_eq_true, ↓reduceIte, linesOfAll, linesAt]
  simpa using hcalls

theorem endLast_concat (suffix line : String) (lines : List String) :
    endLast suffix (lines ++ [line]) = lines ++ [line ++ suffix] := by
  induction lines with
  | nil => rfl
  | cons first rest ih =>
    obtain ⟨second,others,ho⟩ := List.exists_cons_of_ne_nil
      (List.append_ne_nil_of_right_ne_nil rest (List.cons_ne_nil line []))
    rw [List.cons_append, ho, endLast, ← ho, ih, List.cons_append]
    exact List.cons_ne_nil second others

theorem endLast_empty (lines : List String) : endLast "" lines = lines := by
  rcases List.eq_nil_or_concat lines with rfl | ⟨front,last,rfl⟩
  · rfl
  · rw [List.concat_eq_append, endLast_concat, String.append_empty]

end Chain

namespace CaseSplit

theorem linesOfAll_fragments (depth : Nat) (s : CaseSplit) : linesOfAll depth s.fragments =
    .text depth s.header ::
      ((s.arms.map fun a => .text (depth + 1) (a.pattern ++ " => " ++ a.value ++ ",")) ++
        [.text depth s.close]) := by
  rw [fragments, linesOfAll_singleton, linesAt,
    linesOfAll_map_line (depth + 1) fun a : Arm => a.pattern ++ " => " ++ a.value ++ ","]
  rfl

theorem unbroken (depth : Nat) {s : CaseSplit} (ht : ∀ t ∈ s.target, OneLine t)
    (hs : OneLine s.scrutinee) (ha : ∀ a ∈ s.arms, OneLine a.pattern ∧ OneLine a.value) :
    Unbroken (linesOfAll depth s.fragments) := by
  have hheader : OneLine s.header := by
    unfold header
    cases htarget : s.target with
    | none =>
      simp only [oneLine_append]
      exact ⟨⟨by decide,hs⟩,by decide⟩
    | some target =>
      simp only [oneLine_append]
      exact ⟨⟨⟨ht target htarget,by decide⟩,hs⟩,by decide⟩
  have hclose : OneLine s.close := by
    unfold close
    split <;> decide
  rw [linesOfAll_fragments]
  refine unbroken_cons.mpr ⟨hheader,unbroken_append.mpr ⟨?_,?_⟩⟩
  · intro line hline
    obtain ⟨a,harm,rfl⟩ := List.mem_map.mp hline
    simp only [CodeLine.content, oneLine_append]
    exact ⟨⟨⟨(ha a harm).1,by decide⟩,(ha a harm).2⟩,by decide⟩
  · exact unbroken_cons.mpr ⟨hclose,unbroken_nil⟩

end CaseSplit

namespace FunctionItem
variable {f : FunctionItem}

def introLines (f : FunctionItem) : List CodeLine :=
  (f.doc.map fun text => .text 0 (commentLine "///" text)).toList ++
    f.attributes.map fun content => .text 0 ("#[" ++ content ++ "]")

/-- The line on which the signature begins. -/
def opening (f : FunctionItem) : String :=
  if f.inlineSignature.utf8ByteSize ≤ maxSignatureWidth then f.inlineSignature
  else f.header ++ "("

/-- The lines that follow the first one of a signature. -/
def parameterLines (f : FunctionItem) : List CodeLine :=
  if f.inlineSignature.utf8ByteSize ≤ maxSignatureWidth then []
  else f.parameters.map (fun p => .text 1 (p.text ++ ",")) ++
    [.text 0 (")" ++ f.resultText ++ " \x7b")]

def bodyLines (f : FunctionItem) : List CodeLine := linesOfAll 1 f.body

/-- A signature that is too wide has a line for each parameter between its first and its last. -/
theorem linesOfAll_signature_of_wide (depth : Nat)
    (hwide : ¬ f.inlineSignature.utf8ByteSize ≤ maxSignatureWidth) : linesOfAll depth f.signature =
      .text depth (f.header ++ "(") ::
        (f.parameters.map (fun p => .text (depth + 1) (p.text ++ ",")) ++
          [.text depth (")" ++ f.resultText ++ " \x7b")]) := by
  have hparameters := linesOfAll_map_line (depth + 1) (fun p : Parameter => p.text ++ ",") f.parameters
  rw [signature, if_neg hwide]
  simp [linesOfAll, linesAt, hparameters]

theorem linesOfAll_signature_of_narrow (depth : Nat)
    (hnarrow : f.inlineSignature.utf8ByteSize ≤ maxSignatureWidth) :
    linesOfAll depth f.signature = [.text depth f.inlineSignature] := by
  rw [signature, if_pos hnarrow, linesOfAll_singleton, linesAt]

theorem linesOfAll_signature (f : FunctionItem) :
    linesOfAll 0 f.signature = .text 0 f.opening :: f.parameterLines := by
  unfold opening parameterLines
  split
  · exact linesOfAll_signature_of_narrow 0 ‹_›
  · exact linesOfAll_signature_of_wide 0 ‹_›

theorem linesOfAll_fragments (f : FunctionItem) : linesOfAll 0 f.fragments =
    f.introLines ++ .text 0 f.opening :: (f.parameterLines ++
      (f.bodyLines ++ [.text 0 "\x7d"])) := by
  rw [fragments, linesOfAll_append, linesOfAll_append, linesOfAll_append, linesOfAll_docFragments,
    linesOfAll_attributes, linesOfAll_signature]
  simp [introLines, bodyLines, linesOfAll, linesAt]

theorem oneLine_header (hname : OneLine f.name) : OneLine f.header := by
  unfold header
  simp only [oneLine_append]
  refine ⟨⟨⟨?_,?_⟩,by decide⟩,hname⟩
  · split <;> decide
  · split <;> decide

theorem oneLine_resultText (hresult : ∀ type ∈ f.result, OneLine type) :
    OneLine f.resultText := by
  unfold resultText
  cases hr : f.result with
  | none => decide
  | some type => exact oneLine_append.mpr ⟨by decide,hresult type hr⟩

theorem oneLine_inlineSignature (hname : OneLine f.name)
    (hparameters : ∀ p ∈ f.parameters, OneLine p.text) (hresult : ∀ type ∈ f.result, OneLine type) :
    OneLine f.inlineSignature := by
  have hjoined : OneLine (String.intercalate ", " (f.parameters.map Parameter.text)) := by
    refine OneLine.intercalate (by decide) ?_
    simpa using hparameters
  simp only [inlineSignature, oneLine_append]
  exact ⟨⟨⟨⟨⟨oneLine_header hname,by decide⟩,hjoined⟩,by decide⟩,oneLine_resultText hresult⟩,
    by decide⟩

/-- The lines of a function are whole if its texts and the lines of its body are. -/
theorem unbroken (hname : OneLine f.name) (hdoc : ∀ text ∈ f.doc, OneLine text)
    (hattributes : ∀ a ∈ f.attributes, OneLine a) (hparameters : ∀ p ∈ f.parameters, OneLine p.text)
    (hresult : ∀ type ∈ f.result, OneLine type) (hbody : Unbroken f.bodyLines) :
    Unbroken (linesOfAll 0 f.fragments) := by
  have hintro : Unbroken f.introLines := by
    refine unbroken_append.mpr ⟨?_,?_⟩
    · intro line hline
      obtain ⟨text,htext,rfl⟩ := Option.map_eq_some_iff.mp (Option.mem_toList.mp hline)
      exact oneLine_commentLine (by decide) (hdoc text htext)
    · intro line hline
      obtain ⟨a,ha,rfl⟩ := List.mem_map.mp hline
      simp only [CodeLine.content, oneLine_append]
      exact ⟨⟨by decide,hattributes a ha⟩,by decide⟩
  have hopening : OneLine f.opening := by
    unfold opening
    split
    · exact oneLine_inlineSignature hname hparameters hresult
    · exact oneLine_append.mpr ⟨oneLine_header hname,by decide⟩
  have hrest : Unbroken f.parameterLines := by
    unfold parameterLines
    split
    · exact unbroken_nil
    · refine unbroken_append.mpr ⟨?_,unbroken_cons.mpr ⟨?_,unbroken_nil⟩⟩
      · intro line hline
        obtain ⟨p,hp,rfl⟩ := List.mem_map.mp hline
        exact oneLine_append.mpr ⟨hparameters p hp,by decide⟩
      · simp only [CodeLine.content, oneLine_append]
        exact ⟨⟨by decide,oneLine_resultText hresult⟩,by decide⟩
  rw [linesOfAll_fragments]
  refine unbroken_append.mpr ⟨hintro,unbroken_cons.mpr ⟨hopening,?_⟩⟩
  refine unbroken_append.mpr ⟨hrest,unbroken_append.mpr ⟨hbody,?_⟩⟩
  exact unbroken_cons.mpr ⟨by decide,unbroken_nil⟩

end FunctionItem

/-- The lines of a field: its documentation, its attributes and its declaration. -/
def RecordField.lines (depth : Nat) (f : RecordField) : List CodeLine :=
  (f.doc.map fun text => .text depth (commentLine "///" text)).toList ++
    f.attributes.map (fun content => .text depth ("#[" ++ content ++ "]")) ++
    [.text depth ("pub " ++ f.name ++ ": " ++ f.type ++ ",")]

theorem RecordField.linesOfAll_fragments (depth : Nat) (f : RecordField) :
    linesOfAll depth f.fragments = f.lines depth := by
  rw [fragments, linesOfAll_append, linesOfAll_append, linesOfAll_docFragments,
    linesOfAll_attributes, linesOfAll_singleton, linesAt, lines]

/-- The lines of a record with fields: what is derived for it, and the fields between its braces. -/
theorem Record.linesOfAll_fragments (depth : Nat) (r : Record) (hne : r.fields ≠ []) :
    linesOfAll depth r.fragments = linesOfAll depth (docFragments r.doc ++ r.deriveFragments) ++
      .text depth ("pub struct " ++ r.name ++ " \x7b") ::
        (r.fields.flatMap (RecordField.lines (depth + 1)) ++ [.text depth "\x7d"]) := by
  have hfields : linesOfAll (depth + 1) (r.fields.flatMap RecordField.fragments) =
      r.fields.flatMap (RecordField.lines (depth + 1)) := by
    rw [linesOfAll_flatMap]
    exact congrArg r.fields.flatMap (funext (RecordField.linesOfAll_fragments (depth + 1)))
  rw [fragments, if_neg (by simpa using hne), linesOfAll_append, linesOfAll_singleton, linesAt,
    hfields]
  rfl

namespace Imports

/-- No module or symbol is broken over lines. -/
def Whole (i : Imports) : Prop :=
  ∀ g ∈ i.groups, OneLine g.module ∧ ∀ symbol ∈ g.symbols, OneLine symbol

theorem whole_empty : Whole empty := fun _ h => absurd h List.not_mem_nil

theorem mem_insertSymbol {symbol s : String} {symbols : List String} :
    s ∈ insertSymbol symbol symbols ↔ s = symbol ∨ s ∈ symbols := by
  induction symbols with
  | nil => simp [insertSymbol]
  | cons first rest ih =>
    rw [insertSymbol]
    split
    · simp
    split
    · rename_i he
      simp [he]
    · simp only [List.mem_cons, ih]
      tauto

theorem mem_updateGroup {module : String} {change : List String → List String}
    {groups : List ImportGroup} {g : ImportGroup} (h : g ∈ updateGroup module change groups) :
    g ∈ groups ∨ g = ⟨module,change []⟩ ∨ ∃ old ∈ groups, g = ⟨module,change old.symbols⟩ := by
  induction groups with
  | nil => exact Or.inr (Or.inl (List.mem_singleton.mp h))
  | cons group rest ih =>
    unfold updateGroup at h
    split at h
    · rcases List.mem_cons.mp h with rfl | h
      · exact Or.inr (Or.inr ⟨group,List.mem_cons_self,rfl⟩)
      · exact Or.inl (List.mem_cons_of_mem group h)
    · rcases List.mem_cons.mp h with rfl | h
      · exact Or.inl List.mem_cons_self
      · rcases ih h with h | h | ⟨old,hold,h⟩
        · exact Or.inl (List.mem_cons_of_mem group h)
        · exact Or.inr (Or.inl h)
        · exact Or.inr (Or.inr ⟨old,List.mem_cons_of_mem group hold,h⟩)

theorem Whole.update {i : Imports} (hi : i.Whole) {module : String}
    {change : List String → List String} (hm : OneLine module)
    (hc : ∀ symbols, (∀ s ∈ symbols, OneLine s) → ∀ s ∈ change symbols, OneLine s) :
    Whole ⟨updateGroup module change i.groups⟩ := by
  intro g hg
  rcases mem_updateGroup hg with hg | rfl | ⟨old,hold,rfl⟩
  · exact hi g hg
  · exact ⟨hm,hc [] fun _ h => absurd h List.not_mem_nil⟩
  · exact ⟨hm,hc old.symbols (hi old hold).2⟩

theorem Whole.add {i : Imports} (hi : i.Whole) {module symbol : String} (hm : OneLine module)
    (hs : OneLine symbol) : (i.add module symbol).Whole := by
  refine hi.update hm ?_
  intro symbols hsymbols s hmem
  rcases mem_insertSymbol.mp hmem with rfl | hmem
  · exact hs
  · exact hsymbols s hmem

theorem Whole.addAll {i : Imports} (hi : i.Whole) {module : String} {symbols : List String}
    (hm : OneLine module) (hs : ∀ symbol ∈ symbols, OneLine symbol) :
    (i.addAll module symbols).Whole := by
  induction symbols generalizing i with
  | nil => exact hi
  | cons symbol rest ih =>
    exact ih (hi.add hm (hs symbol List.mem_cons_self))
      fun s h => hs s (List.mem_cons_of_mem symbol h)

theorem addPath_eq_add (i : Imports) {module symbol : String} (h : ':' ∉ symbol.toList) :
    i.addPath (module ++ "::" ++ symbol) = i.add module symbol := by
  have hcolon : ':' ∉ symbol.toList.reverse := mt List.mem_reverse.mp h
  rw [addPath, eq_colons_iff.mp rfl, cutAtColons_append hcolon]
  simp

/-- A group stays as it is where another module is added to. -/
theorem mem_groups_add {i : Imports} {g : ImportGroup} (hg : g ∈ i.groups) {module : String}
    (hne : g.module ≠ module) (symbol : String) : g ∈ (i.add module symbol).groups := by
  obtain ⟨groups⟩ := i
  change g ∈ updateGroup module (insertSymbol symbol) groups
  induction groups with
  | nil => exact absurd hg List.not_mem_nil
  | cons group rest ih =>
    rw [updateGroup]
    rcases List.mem_cons.mp hg with rfl | hg
    · rw [if_neg hne]
      exact List.mem_cons_self
    · split
      · exact List.mem_cons_of_mem _ hg
      · exact List.mem_cons_of_mem _ (ih hg)

/-- A module that is new has a group with but the symbol that is added. -/
theorem mem_groups_add_self {i : Imports} {module : String} (h : ∀ g ∈ i.groups, g.module ≠ module)
    (symbol : String) : ⟨module,[symbol]⟩ ∈ (i.add module symbol).groups := by
  obtain ⟨groups⟩ := i
  change _ ∈ updateGroup module (insertSymbol symbol) groups
  induction groups with
  | nil => exact List.mem_cons_self
  | cons group rest ih =>
    obtain ⟨hgroup,hrest⟩ := List.forall_mem_cons.mp h
    rw [updateGroup, if_neg hgroup]
    exact List.mem_cons_of_mem _ (ih hrest)

theorem Whole.addPath {i : Imports} (hi : i.Whole) {path : String} (hp : OneLine path) :
    (i.addPath path).Whole := by
  unfold Imports.addPath
  split
  · rename_i module symbol hcut
    rw [eq_of_cutAtColons hcut, oneLine_append, oneLine_append] at hp
    exact hi.add hp.1.1 hp.2
  · exact hi.update hp fun _ h => h

theorem linesOfAll_fragments (i : Imports) :
    linesOfAll 0 i.fragments = i.groups.map fun g => .text 0 g.statement :=
  linesOfAll_map_line 0 ImportGroup.statement i.groups

theorem Whole.unbroken {i : Imports} (hi : i.Whole) : Unbroken (linesOfAll 0 i.fragments) := by
  rw [linesOfAll_fragments]
  intro line hline
  obtain ⟨g,hg,rfl⟩ := List.mem_map.mp hline
  obtain ⟨hm,hs⟩ := hi g hg
  show OneLine g.statement
  unfold ImportGroup.statement
  split
  · simp only [oneLine_append]
    exact ⟨⟨by decide,hm⟩,by decide⟩
  · rename_i symbol hsymbols
    simp only [oneLine_append]
    exact ⟨⟨⟨⟨by decide,hm⟩,by decide⟩,hs symbol (hsymbols ▸ List.mem_cons_self)⟩,by decide⟩
  · have hjoined : OneLine (String.intercalate ", " g.symbols) :=
      OneLine.intercalate (by decide) hs
    simp only [oneLine_append]
    exact ⟨⟨⟨⟨by decide,hm⟩,by decide⟩,hjoined⟩,by decide⟩

end Imports
end RestScaffold
