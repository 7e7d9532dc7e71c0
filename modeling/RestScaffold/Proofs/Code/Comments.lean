import RestScaffold.Proofs.Code.Reading
import RestScaffold.Proofs.Code.Rows

/-! # What comments are written as

The marker of a comment stands before the first row of its text, and the other rows stand as they
are. So a comment of one row is a comment line, and of several rows it is comment lines if and only
if the further rows are comment lines themselves. The documentation of an item is such a comment,
set between the lines that the item has without it.
-/
namespace RestScaffold
open Fragment

/-- A line with the marker of a comment right behind its indentation. -/
def CommentAt (indent : Indent) (depth : Nat) (marker line : String) : Prop :=
  ∃ rest, line = indent.lead depth ++ marker ++ rest

instance (indent : Indent) (depth : Nat) (marker line : String) :
    Decidable (CommentAt indent depth marker line) :=
  decidable_of_iff ((after? (indent.lead depth ++ marker) line).isSome = true) (by
    rw [Option.isSome_iff_exists]
    exact exists_congr fun _ => after?_eq_some_iff)

/-- The fragments that are comments with some text, and the marker of each. -/
inductive IsComment (text : String) : Fragment → String → Prop where
  | doc : IsComment text (.doc text) "///"
  | comment : IsComment text (.comment text) "//"

theorem IsComment.oneLine_marker {text marker : String} {f : Fragment}
    (h : IsComment text f marker) : OneLine marker := by
  cases h <;> decide

theorem IsComment.linesAt_eq {text marker : String} {f : Fragment} (h : IsComment text f marker)
    (depth : Nat) : f.linesAt depth = [.text depth (commentLine marker text)] := by
  cases h <;> rw [linesAt]

theorem rows_commentLine {marker : String} (h : OneLine marker) (text : String) :
    ∃ opening, rows (commentLine marker text) = (marker ++ opening) :: (rows text).tail := by
  unfold commentLine
  split
  · rename_i hempty
    have htext : text = "" := by simpa using hempty
    refine ⟨"",?_⟩
    rw [htext, h.rows_eq, rows_empty, String.append_empty]
    rfl
  · have hblank : OneLine (marker ++ " ") := oneLine_append.mpr ⟨h,by decide⟩
    obtain ⟨first,rest,hrows⟩ := List.exists_cons_of_ne_nil (rows_ne_nil text)
    refine ⟨" " ++ first,?_⟩
    rw [rows_append hblank, hrows, List.modifyHead_cons, List.tail_cons, String.append_assoc]

/-- A comment is a line with its marker and then the further rows of its text, bare. -/
theorem IsComment.linesWritten_eq {text marker : String} {f : Fragment}
    (h : IsComment text f marker) (indent : Indent) (depth : Nat) :
    ∃ opening, linesWritten indent depth [f] =
      (indent.lead depth ++ marker ++ opening) :: (rows text).tail := by
  obtain ⟨opening,hrows⟩ := rows_commentLine h.oneLine_marker text
  refine ⟨opening,?_⟩
  rw [RestScaffold.linesWritten_eq, linesOfAll_singleton, h.linesAt_eq, List.flatMap_singleton,
    rows_written, hrows, List.modifyHead_cons, String.append_assoc]

theorem tail_rows_of_notMem {text : String} (h : '\n' ∉ text.toList) : (rows text).tail = [] := by
  rw [rows_of_notMem h]
  rfl

/-- A node that a text documents, how deep in the node, and the node without this documentation. -/
inductive Documented (text : String) : Node → Nat → Node → Prop where
  | function (f : FunctionItem) :
    Documented text (.function { f with doc := some text }) 0 (.function { f with doc := none })
  | record (r : Record) :
    Documented text (.record { r with doc := some text }) 0 (.record { r with doc := none })
  | field (r : Record) (before : List RecordField) (f : RecordField) (after : List RecordField) :
    Documented text (.record { r with fields := before ++ { f with doc := some text } :: after }) 1
      (.record { r with fields := before ++ { f with doc := none } :: after })

theorem linesOfAll_doc_cons (depth : Nat) (text : String) (fs : List Fragment) :
    linesOfAll depth (.doc text :: fs) =
      .text depth (commentLine "///" text) :: linesOfAll depth fs := by
  rw [linesOfAll, linesAt]
  rfl

/-- The line of a documentation stands between those that the node has without it. -/
theorem Documented.linesOfAll_eq {text : String} {node bare : Node} {inner : Nat}
    (h : Documented text node inner bare) (depth : Nat) : ∃ front back,
    linesOfAll depth node.toFragments =
        front ++ .text (depth + inner) (commentLine "///" text) :: back ∧
      linesOfAll depth bare.toFragments = front ++ back := by
  cases h with
  | function f => exact ⟨[],_,linesOfAll_doc_cons depth text _,rfl⟩
  | record r => exact ⟨[],_,linesOfAll_doc_cons depth text _,rfl⟩
  | field r before f after =>
    have hlines : ∀ doc, linesOfAll depth
        ({ r with fields := before ++ { f with doc := doc } :: after } : Record).fragments =
        (linesOfAll depth (docFragments r.doc ++ r.deriveFragments) ++
          .text depth ("pub struct " ++ r.name ++ " \x7b") ::
            before.flatMap (RecordField.lines (depth + 1))) ++
          (({ f with doc := doc } : RecordField).lines (depth + 1) ++
            (after.flatMap (RecordField.lines (depth + 1)) ++ [.text depth "\x7d"])) := by
      intro doc
      rw [Record.linesOfAll_fragments depth _ (List.append_ne_nil_of_right_ne_nil before
        (List.cons_ne_nil _ after)), List.flatMap_append, List.flatMap_cons]
      simp only [List.append_assoc, List.cons_append]
      rfl
    exact ⟨_,_,hlines (some text),hlines none⟩

theorem Documented.linesWritten_eq {text : String} {node bare : Node} {inner : Nat}
    (h : Documented text node inner bare) (indent : Indent) (depth : Nat) : ∃ front back,
    linesWritten indent depth node.toFragments =
        front ++ linesWritten indent (depth + inner) [.doc text] ++ back ∧
      linesWritten indent depth bare.toFragments = front ++ back := by
  obtain ⟨front,back,hnode,hbare⟩ := h.linesOfAll_eq depth
  have hdoc : linesOfAll (depth + inner) [.doc text] =
      [.text (depth + inner) (commentLine "///" text)] := by
    rw [linesOfAll_singleton, linesAt]
  refine ⟨front.flatMap fun line => rows (line.written indent),
    back.flatMap fun line => rows (line.written indent),?_,?_⟩
  · rw [RestScaffold.linesWritten_eq, RestScaffold.linesWritten_eq, hnode, hdoc]
    simp
  · rw [RestScaffold.linesWritten_eq, hbare, List.flatMap_append]

/-- A comment at any depth is written as comment lines alone if and only if every row of its text
but the first is one already, which is so for each text without line ends. A text that documents a
function, a record or a field is such a comment between the lines of the undocumented item. -/
theorem comments_written_iff (indent : Indent) (text : String) :
    (∀ depth f marker, IsComment text f marker →
      ((∀ line ∈ linesWritten indent depth [f], CommentAt indent depth marker line) ↔
        ∀ row ∈ (rows text).tail, CommentAt indent depth marker row)) ∧
    ('\n' ∉ text.toList → ∀ depth f marker, IsComment text f marker →
      ∀ line ∈ linesWritten indent depth [f], CommentAt indent depth marker line) ∧
    ∀ depth node inner bare, Documented text node inner bare → ∃ front back,
      linesWritten indent depth node.toFragments =
          front ++ linesWritten indent (depth + inner) [.doc text] ++ back ∧
        linesWritten indent depth bare.toFragments = front ++ back := by
  have hlines : ∀ depth f marker, IsComment text f marker →
      ((∀ line ∈ linesWritten indent depth [f], CommentAt indent depth marker line) ↔
        ∀ row ∈ (rows text).tail, CommentAt indent depth marker row) := by
    intro depth f marker h
    obtain ⟨opening,hwritten⟩ := h.linesWritten_eq indent depth
    rw [hwritten, List.forall_mem_cons]
    exact and_iff_right ⟨opening,rfl⟩
  refine ⟨hlines,?_,fun depth node inner bare h => h.linesWritten_eq indent depth⟩
  intro hrow depth f marker h
  rw [hlines depth f marker h, tail_rows_of_notMem hrow]
  exact fun row hmem => absurd hmem List.not_mem_nil

def describedField : RecordField := ⟨"name","String",some "The name of the user.",["serde(default)"]⟩

def describedUser : Record := ⟨"User",none,["Debug"],[⟨"id","i64",none,[]⟩,describedField]⟩

/-- A documentation of one row, and a longer one whose second row is a comment line itself. -/
theorem describedUser_commented :
    '\n' ∉ "The name of the user.".toList ∧
    (∀ line ∈ linesWritten .tab 2 [.doc "The name of the user."], CommentAt .tab 2 "///" line) ∧
    (∃ front back,
      linesWritten .tab 1 (Node.record describedUser).toFragments =
          front ++ linesWritten .tab 2 [.doc "The name of the user."] ++ back ∧
        linesWritten .tab 1 (Node.record { describedUser with
          fields := [⟨"id","i64",none,[]⟩,{ describedField with doc := none }] }).toFragments =
          front ++ back) ∧
    (∀ row ∈ (rows "Lists users.\n\t/// By name.").tail, CommentAt .tab 1 "///" row) ∧
    ∀ line ∈ linesWritten .tab 1 [.doc "Lists users.\n\t/// By name."],
      CommentAt .tab 1 "///" line := by
  have hrow : '\n' ∉ "The name of the user.".toList := by decide
  have hrows : ∀ row ∈ (rows "Lists users.\n\t/// By name.").tail, CommentAt .tab 1 "///" row := by
    decide
  obtain ⟨_,hone,hitems⟩ := comments_written_iff .tab "The name of the user."
  obtain ⟨hlines,_⟩ := comments_written_iff .tab "Lists users.\n\t/// By name."
  refine ⟨hrow,hone hrow 2 _ _ .doc,?_,hrows,(hlines 1 _ _ .doc).mpr hrows⟩
  exact hitems 1 _ 1 _ (.field describedUser [⟨"id","i64",none,[]⟩] describedField [])

/-- A function with a documentation of two rows. -/
def brokenlyDescribed : FunctionItem :=
  { FunctionItem.new "list" with doc := some "Lists users.\npub fn extra() \x7b\x7d" }

/-- The second row of a documentation is code. -/
theorem brokenlyDescribed_code :
    linesWritten .standard 0 brokenlyDescribed.fragments =
      ["/// Lists users.","pub fn extra() \x7b\x7d","pub fn list() \x7b","\x7d"] ∧
    ¬∀ line ∈ linesWritten .standard 0 [.doc "Lists users.\npub fn extra() \x7b\x7d"],
      CommentAt .standard 0 "///" line := by
  decide

end RestScaffold
