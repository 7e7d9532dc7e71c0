import Mathlib
import RestScaffold.Code.Source

/-! # The lines of written code

A tree of fragments is written as a list of lines, each with the depth at which it stands. The list
does not depend on how a level of depth is written, and the depth of the writer is what it was
before. A source file is the lines of its sections with a blank one between any two.
-/
namespace RestScaffold

/-- A line of code under its depth, or a blank one. -/
inductive CodeLine where
  | text (depth : Nat) (content : String)
  | blank
  deriving DecidableEq, Repr

/-- A line as it is written, without its line end. -/
def CodeLine.written (indent : Indent) : CodeLine → String
  | text depth content => String.join (List.replicate depth indent.unit) ++ content
  | blank => ""

/-- Each text with a line end after it. -/
def unlines (lines : List String) : String := String.join (lines.map (· ++ "\n"))

@[simp] theorem unlines_nil : unlines [] = "" := rfl

@[simp] theorem unlines_cons (line : String) (lines : List String) :
    unlines (line :: lines) = line ++ "\n" ++ unlines lines := by
  rw [← String.toList_inj]
  simp [unlines, String.toList_join]

theorem unlines_append (a b : List String) : unlines (a ++ b) = unlines a ++ unlines b := by
  simp [unlines]

/-- The line of a comment, whose marker stands alone if there is no text. -/
def commentLine (marker text : String) : String :=
  if text.isEmpty then marker else marker ++ " " ++ text

namespace Fragment

mutual

def linesAt (depth : Nat) : Fragment → List CodeLine
  | .line text => [.text depth text]
  | .blank => [.blank]
  | .block header body close =>
    .text depth header :: (linesOfAll (depth + 1) body ++ (close.map (.text depth)).toList)
  | .indent body => linesOfAll (depth + 1) body
  | .doc text => [.text depth (commentLine "///" text)]
  | .comment text => [.text depth (commentLine "//" text)]

def linesOfAll (depth : Nat) : List Fragment → List CodeLine
  | [] => []
  | fragment :: rest => fragment.linesAt depth ++ linesOfAll depth rest

end

theorem linesOfAll_append (depth : Nat) (a b : List Fragment) :
    linesOfAll depth (a ++ b) = linesOfAll depth a ++ linesOfAll depth b := by
  induction a with
  | nil => simp [linesOfAll]
  | cons fragment rest ih => simp [linesOfAll, ih]

theorem linesOfAll_map_line {α : Type} (depth : Nat) (text : α → String) (xs : List α) :
    linesOfAll depth (xs.map fun x => .line (text x)) = xs.map fun x => .text depth (text x) := by
  induction xs with
  | nil => simp [linesOfAll]
  | cons x rest ih => simp [linesOfAll, linesAt, ih]

end Fragment

namespace Writer
open Fragment

/-- The writer after some lines, at the depth it had before. -/
def addLines (w : Writer) (lines : List CodeLine) : Writer :=
  { w with text := w.text ++ unlines (lines.map (CodeLine.written w.indent)) }

@[simp] theorem addLines_nil (w : Writer) : w.addLines [] = w := by
  simp [addLines]

theorem addLines_append (w : Writer) (a b : List CodeLine) :
    w.addLines (a ++ b) = (w.addLines a).addLines b := by
  simp [addLines, unlines_append, String.append_assoc]

theorem writeLine_eq (w : Writer) (line : String) :
    w.writeLine line = w.addLines [.text w.depth line] := by
  simp [writeLine, writeIndent, addLines, CodeLine.written, String.append_assoc]

theorem blank_eq (w : Writer) : w.blank = w.addLines [.blank] := by
  simp [blank, addLines, CodeLine.written]

theorem writeComment_eq (w : Writer) (marker text : String) :
    w.writeComment marker text = w.addLines [.text w.depth (commentLine marker text)] := by
  unfold writeComment commentLine
  split
  · exact writeLine_eq w marker
  · exact writeLine_eq w (marker ++ " " ++ text)

theorem shallower_addLines_deeper (w : Writer) (lines : List CodeLine) :
    (w.deeper.addLines lines).shallower = w.addLines lines := rfl

mutual

theorem apply_eq (w : Writer) : ∀ f : Fragment, w.apply f = w.addLines (f.linesAt w.depth)
  | .line text => by rw [apply, linesAt, writeLine_eq]
  | .blank => by rw [apply, linesAt, blank_eq]
  | .block header body close => by
    have hbody : (((w.writeLine header).deeper).emit body).shallower =
        w.addLines (.text w.depth header :: linesOfAll (w.depth + 1) body) := by
      rw [emit_eq, writeLine_eq, shallower_addLines_deeper, ← addLines_append]
      rfl
    cases close with
    | none =>
      simp only [apply, linesAt, hbody]
      simp
    | some line =>
      simp only [apply, linesAt, hbody]
      rw [writeLine_eq, ← addLines_append]
      rfl
  | .indent body => by
    rw [apply, linesAt, emit_eq, shallower_addLines_deeper]
    rfl
  | .doc text => by rw [apply, linesAt, writeComment_eq]
  | .comment text => by rw [apply, linesAt, writeComment_eq]

/-- Emitting fragments adds their lines and leaves the depth alone. -/
theorem emit_eq (w : Writer) : ∀ fs : List Fragment,
    w.emit fs = w.addLines (linesOfAll w.depth fs)
  | [] => by rw [emit, linesOfAll, addLines_nil]
  | fragment :: rest => by
    rw [emit, linesOfAll, addLines_append, apply_eq, emit_eq]
    rfl

end

end Writer

namespace Source
open Fragment

/-- The lines of some sections, with a blank one between any two. -/
def sectionLines (sections : List (List Fragment)) : List CodeLine :=
  [CodeLine.blank].intercalate (sections.map (linesOfAll 0))

def codeLines (s : Source) : List CodeLine := sectionLines s.sections

theorem sectionLines_cons (first : List Fragment) (rest : List (List Fragment)) :
    sectionLines (first :: rest) =
      linesOfAll 0 first ++ rest.flatMap fun part => .blank :: linesOfAll 0 part := by
  induction rest generalizing first with
  | nil => simp [sectionLines]
  | cons second rest ih =>
    have hs := ih second
    simp only [sectionLines, List.map_cons, List.intercalate_cons_cons] at hs ⊢
    rw [hs]
    simp

theorem foldl_blank_emit (w : Writer) (hw : w.depth = 0) (parts : List (List Fragment)) :
    parts.foldl (fun w part => w.blank.emit part) w =
      w.addLines (parts.flatMap fun part => .blank :: linesOfAll 0 part) := by
  induction parts generalizing w with
  | nil => simp
  | cons part rest ih =>
    have hpart : w.blank.emit part = w.addLines (.blank :: linesOfAll 0 part) := by
      rw [Writer.emit_eq, Writer.blank_eq, ← hw]
      exact (Writer.addLines_append w [.blank] _).symm
    have hdepth : (w.addLines (.blank :: linesOfAll 0 part)).depth = 0 := hw
    rw [List.foldl_cons, hpart, ih _ hdepth, List.flatMap_cons, Writer.addLines_append w]

/-- The text of a source file is its lines, in any indentation. -/
theorem renderWith_eq (s : Source) (indent : Indent) :
    s.renderWith indent = unlines (s.codeLines.map (CodeLine.written indent)) := by
  unfold renderWith codeLines
  cases s.sections with
  | nil => rfl
  | cons first rest =>
    rw [writeSections, Writer.emit_eq, foldl_blank_emit _ rfl, ← Writer.addLines_append,
      sectionLines_cons]
    simp only [Writer.addLines, Writer.new, String.empty_append]

end Source
end RestScaffold
