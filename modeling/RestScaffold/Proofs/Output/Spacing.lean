import RestScaffold.Proofs.Code.ImportBlock
import RestScaffold.Proofs.Code.Rows
import RestScaffold.Proofs.Output.File

/-! # Blank lines between the parts of a source file

A source file is the lines of its sections with one blank line between any two. Each section stands
in a frame of blank lines if the text is thought to have one before it and one after it. So the file
is spaced well if and only if each section is by itself and none is without lines, as an item with
nothing in it is.
-/
namespace RestScaffold
open Fragment

/-- One of two lines is not blank. -/
def Inked (a b : String) : Prop := a ≠ "" ∨ b ≠ ""

instance (a b : String) : Decidable (Inked a b) := inferInstanceAs (Decidable (_ ∨ _))

/-- No blank line at either end and no two of them in a row. -/
structure Spaced (lines : List String) : Prop where
  head : lines.head? ≠ some ""
  last : lines.getLast? ≠ some ""
  apart : lines.IsChain Inked

instance (lines : List String) : Decidable (Spaced lines) :=
  decidable_of_iff (lines.head? ≠ some "" ∧ lines.getLast? ≠ some "" ∧ lines.IsChain Inked)
    ⟨fun h => ⟨h.1,h.2.1,h.2.2⟩,fun h => ⟨h.head,h.last,h.apart⟩⟩

/-- Between two blank lines there is nowhere a pair of them. -/
def Framed (lines : List String) : Prop := ("" :: (lines ++ [""])).IsChain Inked

theorem inked_iff {line? : Option String} :
    (∀ line ∈ line?, Inked "" line) ↔ line? ≠ some "" := by
  cases line? <;> simp [Inked]

theorem inked_comm {a b : String} : Inked a b ↔ Inked b a := or_comm

theorem framed_iff {lines : List String} : Framed lines ↔ lines ≠ [] ∧ Spaced lines := by
  cases lines with
  | nil => simp [Framed, Inked]
  | cons first rest =>
    have hhead : (∀ line ∈ ((first :: rest) ++ [""]).head?, Inked "" line) ↔
        (first :: rest).head? ≠ some "" := inked_iff
    have hlast : (∀ line ∈ (first :: rest).getLast?, ∀ y ∈ [""].head?, Inked line y) ↔
        (first :: rest).getLast? ≠ some "" := by
      rw [← inked_iff]
      simp [inked_comm]
    rw [Framed, List.isChain_cons, List.isChain_append, hhead, hlast]
    constructor
    · rintro ⟨h,hapart,-,hl⟩
      exact ⟨List.cons_ne_nil first rest,h,hl,hapart⟩
    · rintro ⟨-,h,hl,hapart⟩
      exact ⟨h,hapart,List.isChain_singleton "",hl⟩

theorem framed_append_cons {a b : List String} : Framed (a ++ "" :: b) ↔ Framed a ∧ Framed b := by
  have hsplit : "" :: (a ++ "" :: b ++ [""]) = ("" :: a) ++ "" :: (b ++ [""]) := by simp
  rw [Framed, hsplit, List.isChain_split]
  rfl

/-- Parts with a blank line between any two are framed if and only if each of them is. -/
theorem framed_intercalate {parts : List (List String)} (hne : parts ≠ []) :
    Framed ([""].intercalate parts) ↔ ∀ part ∈ parts, Framed part := by
  induction parts with
  | nil => exact absurd rfl hne
  | cons part rest ih =>
    cases rest with
    | nil => simp
    | cons next rest =>
      rw [List.intercalate_cons_cons, List.append_assoc, List.singleton_append, framed_append_cons,
        ih (List.cons_ne_nil next rest)]
      exact List.forall_mem_cons.symm

theorem spaced_nil : Spaced [] := ⟨nofun,nofun,.nil⟩

theorem spaced_of_notMem {lines : List String} (h : "" ∉ lines) : Spaced lines where
  head := fun hh => h (List.mem_of_head? hh)
  last := fun hl => h (List.mem_of_getLast? hl)
  apart := by
    refine (List.pairwise_of_forall_mem_list ?_).isChain
    intro a ha b _
    exact Or.inl (ne_of_mem_of_not_mem ha h)

/-- Parts with a blank line between any two are spaced, and there are lines if there are parts, if and
only if each part has lines and is spaced. -/
theorem spaced_intercalate_iff {parts : List (List String)} :
    (Spaced ([""].intercalate parts) ∧ ([""].intercalate parts = [] → parts = [])) ↔
      ∀ part ∈ parts, part ≠ [] ∧ Spaced part := by
  by_cases hne : parts = []
  · simp [hne, spaced_nil]
  · have hframed := framed_intercalate hne
    simp only [framed_iff] at hframed
    rw [← hframed, and_comm]
    exact and_congr_left fun _ => ⟨fun h he => hne (h he),fun h he => absurd he h⟩

namespace Source

theorem sectionLines_cons_cons (first second : List Fragment) (rest : List (List Fragment)) :
    sectionLines (first :: second :: rest) =
      linesOfAll 0 first ++ .blank :: sectionLines (second :: rest) := by
  simp [sectionLines]

/-- The lines of a file are those of its sections with a blank one between any two. -/
theorem linesOf_renderWith (s : Source) (indent : Indent) : linesOf (s.renderWith indent) =
    [""].intercalate (s.sections.map (linesWritten indent 0)) := by
  rw [renderWith_eq, linesOf_unlines_eq, List.flatMap_map, codeLines]
  induction s.sections with
  | nil => rfl
  | cons first rest ih =>
    cases rest with
    | nil => simp [sectionLines, linesWritten_eq]
    | cons second rest =>
      rw [sectionLines_cons_cons, List.flatMap_append, List.flatMap_cons, ih, ← linesWritten_eq]
      simp [CodeLine.written, List.intercalate_cons_cons]

theorem isEmpty_iff {s : Source} : s.isEmpty = true ↔ s.sections = [] := by
  simp [isEmpty, sections, and_assoc]

/-- The text has its blank lines between other lines only, and there is none if the file is empty. -/
structure WellSpaced (s : Source) (indent : Indent) : Prop where
  spaced : Spaced (linesOf (s.renderWith indent))
  isEmpty_iff : s.isEmpty = true ↔ s.renderWith indent = ""

theorem wellSpaced_iff {s : Source} {indent : Indent} : s.WellSpaced indent ↔
    ∀ part ∈ s.sections, linesWritten indent 0 part ≠ [] ∧ Spaced (linesWritten indent 0 part) := by
  have hparts := @spaced_intercalate_iff (s.sections.map (linesWritten indent 0))
  rw [← linesOf_renderWith, List.map_eq_nil_iff, List.forall_mem_map, linesOf_eq_nil_iff] at hparts
  rw [← hparts]
  constructor
  · rintro ⟨hs,he⟩
    exact ⟨hs,fun ht => isEmpty_iff.mp (he.mpr ht)⟩
  · rintro ⟨hs,he⟩
    refine ⟨hs,fun h => ?_,fun ht => isEmpty_iff.mpr (he ht)⟩
    rw [← linesOf_eq_nil_iff, linesOf_renderWith, isEmpty_iff.mp h]
    rfl

end Source

/-- A call on a source file. -/
inductive SourceCall where
  | declare (name : String) (isPublic : Bool)
  | importPath (path : String)
  | importAll (module : String) (symbols : List String)
  | add (item : Node)
  | addAll (items : List Node)
  deriving Repr

namespace SourceCall

/-- The nodes that a call adds to the items. -/
def nodes : SourceCall → List Node
  | add item => [item]
  | addAll items => items
  | _ => []

/-- No text that the call brings into the file has a line end. -/
def OnOneLine : SourceCall → Prop
  | declare name _ => OneLine name
  | importPath path => OneLine path
  | importAll module symbols => OneLine module ∧ ∀ symbol ∈ symbols, OneLine symbol
  | add item => Unbroken (linesOfAll 0 item.toFragments)
  | addAll items => ∀ item ∈ items, Unbroken (linesOfAll 0 item.toFragments)

instance : (c : SourceCall) → Decidable c.OnOneLine
  | declare name _ => inferInstanceAs (Decidable (OneLine name))
  | importPath path => inferInstanceAs (Decidable (OneLine path))
  | importAll module symbols =>
    inferInstanceAs (Decidable (OneLine module ∧ ∀ symbol ∈ symbols, OneLine symbol))
  | add item => inferInstanceAs (Decidable (Unbroken (linesOfAll 0 item.toFragments)))
  | addAll items =>
    inferInstanceAs (Decidable (∀ item ∈ items, Unbroken (linesOfAll 0 item.toFragments)))

theorem OnOneLine.unbroken {c : SourceCall} (hc : c.OnOneLine) {node : Node} (h : node ∈ c.nodes) :
    Unbroken (linesOfAll 0 node.toFragments) := by
  cases c with
  | add item =>
    rw [List.mem_singleton.mp h]
    exact hc
  | addAll items => exact hc node h
  | declare name isPublic => exact absurd h List.not_mem_nil
  | importPath path => exact absurd h List.not_mem_nil
  | importAll module symbols => exact absurd h List.not_mem_nil

end SourceCall

/-- No fragment is a blank line and no text of a line is empty. -/
def Filled (fs : List Fragment) : Prop := ∀ line ∈ linesOfAll 0 fs, line.content ≠ ""

instance (fs : List Fragment) : Decidable (Filled fs) := List.decidableBAll _ (linesOfAll 0 fs)

theorem blank_notMem_linesWritten {indent : Indent} {depth : Nat} {fs : List Fragment}
    (hu : Unbroken (linesOfAll depth fs)) (hf : ∀ line ∈ linesOfAll depth fs, line.content ≠ "") :
    "" ∉ linesWritten indent depth fs := by
  intro h
  rw [linesWritten_eq] at h
  obtain ⟨line,hline,h⟩ := List.mem_flatMap.mp h
  rw [(OneLine.written (hu line hline) indent).rows_eq] at h
  refine hf line hline ?_
  cases line with
  | blank => rfl
  | text d content => exact (String.append_eq_empty_iff.mp (List.mem_singleton.mp h).symm).2

namespace Source

/-- The file after a call. -/
def call (s : Source) : SourceCall → Source
  | .declare name isPublic => s.declare name isPublic
  | .importPath path => s.importPath path
  | .importAll module symbols => s.importAll module symbols
  | .add item => s.add item
  | .addAll items => s.addAll items

def ofCalls (calls : List SourceCall) : Source := calls.foldl call empty

theorem ofCalls_concat (calls : List SourceCall) (c : SourceCall) :
    ofCalls (calls ++ [c]) = (ofCalls calls).call c := by
  simp [ofCalls]

theorem items_ofCalls (calls : List SourceCall) :
    (ofCalls calls).items = calls.flatMap SourceCall.nodes := by
  induction calls using List.reverseRecOn with
  | nil => rfl
  | append_singleton calls c ih =>
    rw [ofCalls_concat, List.flatMap_append, ← ih, List.flatMap_singleton]
    cases c <;> simp [call, declare, importPath, importAll, add, addAll, SourceCall.nodes]

/-- Texts that go into the modules and imports of a file are on one line. -/
structure Whole (s : Source) : Prop where
  modules : ∀ d ∈ s.modules, OneLine d.name
  imports : s.imports.Whole

theorem Whole.call {s : Source} (hs : s.Whole) {c : SourceCall} (hc : c.OnOneLine) :
    (s.call c).Whole := by
  cases c with
  | declare name isPublic =>
    refine ⟨List.forall_mem_append.mpr ⟨hs.modules,?_⟩,hs.imports⟩
    exact List.forall_mem_singleton.mpr hc
  | importPath path => exact ⟨hs.modules,hs.imports.addPath hc⟩
  | importAll module symbols => exact ⟨hs.modules,hs.imports.addAll hc.1 hc.2⟩
  | add item => exact ⟨hs.modules,hs.imports⟩
  | addAll items => exact ⟨hs.modules,hs.imports⟩

theorem whole_ofCalls {calls : List SourceCall} (h : ∀ c ∈ calls, c.OnOneLine) :
    (ofCalls calls).Whole := by
  induction calls using List.reverseRecOn with
  | nil => exact ⟨nofun,Imports.whole_empty⟩
  | append_singleton calls c ih =>
    obtain ⟨hcalls,hc⟩ := List.forall_mem_append.mp h
    rw [ofCalls_concat]
    exact (ih hcalls).call (hc c List.mem_cons_self)

theorem preface_filled {s : Source} {part : List Fragment} (hp : part ∈ s.preface) : Filled part := by
  intro line hline
  rcases mem_preface hp hline with ⟨d,_,rfl⟩ | ⟨g,_,rfl⟩
  · simp [CodeLine.content, ModuleDeclaration.text, String.append_eq_empty_iff]
  · have hlast := g.getLast?_statement
    intro he
    simp only [CodeLine.content] at he
    rw [he] at hlast
    cases hlast

theorem preface_ne_nil {s : Source} {part : List Fragment} (hp : part ∈ s.preface) :
    linesOfAll 0 part ≠ [] := by
  rcases List.mem_append.mp hp with hp | hp
  · split at hp
    · exact absurd hp List.not_mem_nil
    · rename_i hne
      rw [List.mem_singleton.mp hp, linesOfAll_map_line]
      simpa using hne
  · split at hp
    · exact absurd hp List.not_mem_nil
    · rename_i hne
      rw [List.mem_singleton.mp hp, Imports.linesOfAll_fragments]
      simpa [Imports.isEmpty] using hne

/-- Where no text is broken or empty, a file is spaced well if every item is something. -/
theorem wellSpaced_iff_items {s : Source} (hs : s.Whole)
    (hitems : ∀ node ∈ s.items, Unbroken (linesOfAll 0 node.toFragments) ∧ Filled node.toFragments)
    (indent : Indent) :
    s.WellSpaced indent ↔ ∀ node ∈ s.items, linesWritten indent 0 node.toFragments ≠ [] := by
  rw [wellSpaced_iff, sections_eq, List.forall_mem_append, List.forall_mem_map]
  have hpreface : ∀ part ∈ s.preface,
      linesWritten indent 0 part ≠ [] ∧ Spaced (linesWritten indent 0 part) := by
    intro part hp
    refine ⟨mt linesWritten_eq_nil_iff.mp (preface_ne_nil hp),spaced_of_notMem ?_⟩
    exact blank_notMem_linesWritten (unbroken_preface hs.modules hs.imports hp) (preface_filled hp)
  rw [and_iff_right hpreface]
  refine forall₂_congr fun node hnode => and_iff_left (spaced_of_notMem ?_)
  exact blank_notMem_linesWritten (hitems node hnode).1 (hitems node hnode).2

/-- A source file is its sections with one blank line between any two, and it is spaced well if and
only if each section is spaced well and none is without lines. Where no text is broken or empty the
latter says that no node that was added is without lines. -/
theorem ofCalls_wellSpaced_iff (calls : List SourceCall) (indent : Indent) :
    linesOf ((ofCalls calls).renderWith indent) =
      [""].intercalate ((ofCalls calls).sections.map (linesWritten indent 0)) ∧
    ((ofCalls calls).WellSpaced indent ↔ ∀ part ∈ (ofCalls calls).sections,
      linesWritten indent 0 part ≠ [] ∧ Spaced (linesWritten indent 0 part)) ∧
    ((∀ c ∈ calls, c.OnOneLine ∧ ∀ node ∈ c.nodes, Filled node.toFragments) →
      ((ofCalls calls).WellSpaced indent ↔
        ∀ c ∈ calls, ∀ node ∈ c.nodes, linesWritten indent 0 node.toFragments ≠ [])) := by
  refine ⟨linesOf_renderWith _ indent,wellSpaced_iff,?_⟩
  intro h
  have hwhole : (ofCalls calls).Whole := whole_ofCalls fun c hc => (h c hc).1
  have hitems : ∀ node ∈ (ofCalls calls).items,
      Unbroken (linesOfAll 0 node.toFragments) ∧ Filled node.toFragments := by
    intro node hnode
    rw [items_ofCalls] at hnode
    obtain ⟨c,hc,hnode⟩ := List.mem_flatMap.mp hnode
    exact ⟨(h c hc).1.unbroken hnode,(h c hc).2 node hnode⟩
  rw [wellSpaced_iff_items hwhole hitems, items_ofCalls]
  simp only [List.forall_mem_flatMap]

def serviceCalls : List SourceCall :=
  [.declare "handlers" false,.add (.raw ⟨"struct Foo;"⟩),.importPath "sqlx::PgPool",
    .addAll [.raw (.ofLines ["struct Bar;","struct Baz;"]),.function (.new "router")]]

/-- A file with each kind of section and three items. -/
theorem serviceCalls_wellSpaced :
    (∀ c ∈ serviceCalls, c.OnOneLine ∧ ∀ node ∈ c.nodes, Filled node.toFragments) ∧
    (∀ c ∈ serviceCalls, ∀ node ∈ c.nodes, linesWritten .tab 0 node.toFragments ≠ []) ∧
    (ofCalls serviceCalls).renderWith .tab = "mod handlers;\n\nuse sqlx::PgPool;\n\nstruct Foo;\n\n" ++
      "struct Bar;\nstruct Baz;\n\npub fn router() \x7b\n\x7d\n" ∧
    (ofCalls serviceCalls).WellSpaced .tab := by
  have htexts : ∀ c ∈ serviceCalls, c.OnOneLine ∧ ∀ node ∈ c.nodes, Filled node.toFragments := by
    decide +kernel
  have hlines : ∀ c ∈ serviceCalls, ∀ node ∈ c.nodes, linesWritten .tab 0 node.toFragments ≠ [] := by
    decide +kernel
  exact ⟨htexts,hlines,by decide +kernel,
    ((ofCalls_wellSpaced_iff serviceCalls .tab).2.2 htexts).mpr hlines⟩

def hollowCalls : List SourceCall :=
  [.add (.raw ⟨"struct Foo;"⟩),.add (.raw ⟨""⟩),.add (.raw ⟨"struct Bar;"⟩)]

/-- An item without lines leaves two blank lines in a row, and alone a file that is not empty but has
an empty text. -/
theorem hollowCalls_not_spaced :
    (∀ c ∈ hollowCalls, c.OnOneLine ∧ ∀ node ∈ c.nodes, Filled node.toFragments) ∧
    (ofCalls hollowCalls).render = "struct Foo;\n\n\nstruct Bar;\n" ∧
    ¬Spaced (linesOf (ofCalls hollowCalls).render) ∧
    (ofCalls [.add (.raw ⟨""⟩)]).isEmpty = false ∧ (ofCalls [.add (.raw ⟨""⟩)]).render = "" := by
  decide +kernel

end Source
end RestScaffold
