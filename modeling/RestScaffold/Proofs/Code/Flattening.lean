import RestScaffold.Proofs.Code.Lines
import RestScaffold.Code.Source

/-! # The flattening of what is written

After any calls the text of a writer is that of one flattening of all the fragments that the calls
were made for, in their order. A line of the flattening is a fragment's own, one level deeper for
each body around that fragment, and no indentation has a part in it. So a body is what its
fragments would be in the place of it, a level deeper.
-/
namespace RestScaffold

/-- The same line a level deeper, where a blank one is as it was. -/
def CodeLine.deeper : CodeLine → CodeLine
  | text depth content => .text (depth + 1) content
  | blank => .blank

theorem CodeLine.written_deeper (indent : Indent) (depth : Nat) (content : String) :
    (CodeLine.text depth content).deeper.written indent =
      indent.unit ++ (CodeLine.text depth content).written indent := by
  simp [deeper, written, List.replicate_succ, String.append_assoc]

namespace Fragment

/-- The lines of a fragment that are in no body of it. -/
def ownLines : Fragment → List CodeLine
  | .line text => [.text 0 text]
  | .blank => [.blank]
  | .block header _ close => .text 0 header :: (close.map (.text 0)).toList
  | .indent _ => []
  | .doc text => [.text 0 (commentLine "///" text)]
  | .comment text => [.text 0 (commentLine "//" text)]

def body : Fragment → List Fragment
  | .block _ body _ => body
  | .indent body => body
  | _ => []

mutual

theorem linesAt_succ (depth : Nat) : ∀ f : Fragment,
    f.linesAt (depth + 1) = (f.linesAt depth).map CodeLine.deeper
  | .line _ => by rw [linesAt, linesAt]; rfl
  | .blank => by rw [linesAt, linesAt]; rfl
  | .block header body close => by
    rw [linesAt, linesAt, linesOfAll_succ (depth + 1) body, List.map_cons, List.map_append]
    cases close <;> rfl
  | .indent body => by rw [linesAt, linesAt, linesOfAll_succ (depth + 1) body]
  | .doc _ => by rw [linesAt, linesAt]; rfl
  | .comment _ => by rw [linesAt, linesAt]; rfl

/-- The depth at which fragments begin is added to that of each line. -/
theorem linesOfAll_succ (depth : Nat) : ∀ fs : List Fragment,
    linesOfAll (depth + 1) fs = (linesOfAll depth fs).map CodeLine.deeper
  | [] => by rw [linesOfAll, linesOfAll]; rfl
  | f :: rest => by
    rw [linesOfAll, linesOfAll, linesAt_succ depth f, linesOfAll_succ depth rest, List.map_append]

end

theorem mem_linesOfAll {depth : Nat} {fs : List Fragment} {line : CodeLine} :
    line ∈ linesOfAll depth fs ↔ ∃ f ∈ fs, line ∈ f.linesAt depth := by
  induction fs with
  | nil => simp [linesOfAll]
  | cons f rest ih => simp [linesOfAll, ih]

theorem mem_linesAt_zero {f : Fragment} {line : CodeLine} : line ∈ f.linesAt 0 ↔
    line ∈ f.ownLines ∨ ∃ inner ∈ linesOfAll 0 f.body, inner.deeper = line := by
  cases f with
  | block header body close =>
    simp only [linesAt, ownLines, Fragment.body, linesOfAll_succ, List.mem_cons, List.mem_append,
      List.mem_map]
    rw [or_assoc]
    exact or_congr_right or_comm
  | indent body => simp [linesAt, ownLines, Fragment.body, linesOfAll_succ]
  | _ => simp [linesAt, ownLines, Fragment.body, linesOfAll]

/-- A line that a fragment has as its own, deeper by one for each body that it is in. -/
inductive StandsIn : List Fragment → CodeLine → Prop where
  | own {f : Fragment} {fs : List Fragment} {line : CodeLine} (hf : f ∈ fs)
      (hline : line ∈ f.ownLines) : StandsIn fs line
  | inner {f : Fragment} {fs : List Fragment} {line : CodeLine} (hf : f ∈ fs)
      (hline : StandsIn f.body line) : StandsIn fs line.deeper

theorem StandsIn.mem_linesOfAll {fs : List Fragment} {line : CodeLine} (h : StandsIn fs line) :
    line ∈ linesOfAll 0 fs := by
  induction h with
  | own hf hline => exact Fragment.mem_linesOfAll.mpr ⟨_,hf,mem_linesAt_zero.mpr (Or.inl hline)⟩
  | inner hf _ ih =>
    exact Fragment.mem_linesOfAll.mpr ⟨_,hf,mem_linesAt_zero.mpr (Or.inr ⟨_,ih,rfl⟩)⟩

theorem StandsIn.mono {fs gs : List Fragment} {line : CodeLine} (h : StandsIn fs line)
    (hs : fs ⊆ gs) : StandsIn gs line := by
  cases h with
  | own hf hline => exact .own (hs hf) hline
  | inner hf hline => exact .inner (hs hf) hline

theorem not_mem_linesOfAll_nil (depth : Nat) (entry : CodeLine) : entry ∉ linesOfAll depth [] := by
  rw [linesOfAll]
  exact List.not_mem_nil

mutual

theorem standsIn_body : ∀ (f : Fragment), ∀ entry ∈ linesOfAll 0 f.body, StandsIn f.body entry
  | .block _ body _ => standsIn_of_mem body
  | .indent body => standsIn_of_mem body
  | .line _ | .blank | .doc _ | .comment _ => fun entry h => absurd h (not_mem_linesOfAll_nil 0 entry)

theorem standsIn_of_mem : ∀ (fs : List Fragment), ∀ entry ∈ linesOfAll 0 fs, StandsIn fs entry
  | [] => fun entry h => absurd h (not_mem_linesOfAll_nil 0 entry)
  | f :: rest => by
    intro entry h
    rw [linesOfAll, List.mem_append, mem_linesAt_zero] at h
    rcases h with (hown | ⟨inner,hinner,rfl⟩) | hrest
    · exact .own List.mem_cons_self hown
    · exact .inner List.mem_cons_self (standsIn_body f inner hinner)
    · exact (standsIn_of_mem rest entry hrest).mono (List.subset_cons_self f rest)

end

/-- The depth of a line is the number of the bodies around the fragment whose own it is. -/
theorem mem_linesOfAll_iff {fs : List Fragment} {line : CodeLine} :
    line ∈ linesOfAll 0 fs ↔ StandsIn fs line :=
  ⟨standsIn_of_mem fs line,StandsIn.mem_linesOfAll⟩

end Fragment

open Fragment

/-- A call on a writer. -/
inductive WriterCall where
  | blank
  | emit (node : Node)
  | apply (fragment : Fragment)
  deriving Repr

/-- The fragments that a call is made for. -/
def WriterCall.fragments : WriterCall → List Fragment
  | blank => [.blank]
  | emit node => node.toFragments
  | apply fragment => [fragment]

namespace Writer

/-- The writer after a call. -/
def call (w : Writer) : WriterCall → Writer
  | .blank => w.blank
  | .emit node => w.emit node.toFragments
  | .apply fragment => w.apply fragment

def ofCalls (indent : Indent) (calls : List WriterCall) : Writer :=
  calls.foldl call (.new indent)

/-- The lines of all fragments that some calls are made for, from the first to the last. -/
def flattening (calls : List WriterCall) : List CodeLine :=
  linesOfAll 0 (calls.flatMap WriterCall.fragments)

theorem call_eq_emit (w : Writer) (c : WriterCall) : w.call c = w.emit c.fragments := by
  cases c with
  | blank => simp [call, WriterCall.fragments, emit, apply]
  | emit node => rfl
  | apply fragment => simp [call, WriterCall.fragments, emit]

theorem emit_append (w : Writer) (a b : List Fragment) : w.emit (a ++ b) = (w.emit a).emit b := by
  induction a generalizing w with
  | nil => rw [List.nil_append, emit]
  | cons f rest ih => rw [List.cons_append, emit, emit, ih]

theorem emit_flatten (w : Writer) (parts : List (List Fragment)) :
    w.emit parts.flatten = parts.foldl emit w := by
  induction parts generalizing w with
  | nil => rw [List.flatten_nil, emit]; rfl
  | cons part rest ih => rw [List.flatten_cons, emit_append, ih]; rfl

/-- Calls after calls are one emission of all that they are made for. -/
theorem foldl_call (w : Writer) (calls : List WriterCall) :
    calls.foldl call w = w.emit (calls.flatMap WriterCall.fragments) := by
  induction calls generalizing w with
  | nil => rw [List.flatMap_nil, emit]; rfl
  | cons c rest ih => rw [List.foldl_cons, ih, call_eq_emit, List.flatMap_cons, emit_append]

theorem ofCalls_eq (indent : Indent) (calls : List WriterCall) :
    ofCalls indent calls = (Writer.new indent).addLines (flattening calls) := by
  rw [ofCalls, foldl_call, emit_eq]
  rfl

theorem apply_indent (w : Writer) (body : List Fragment) :
    w.apply (.indent body) = w.addLines ((linesOfAll w.depth body).map CodeLine.deeper) := by
  rw [apply_eq, linesAt, linesOfAll_succ]

theorem apply_block (w : Writer) (header : String) (body : List Fragment) (close : Option String) :
    w.apply (.block header body close) =
      w.emit (.line header :: .indent body :: (close.map .line).toList) := by
  cases close <;> simp [apply, emit]

/-- What is written is the flattening of all fragments in the order of the calls, in which a line is
as deep as there are bodies around it, with an indentation unit for each. Every call leaves a writer
at depth zero, to emit a list is to emit its parts in turn, and a body is its fragments one level
deeper. -/
theorem ofCalls_flattens (calls : List WriterCall) :
    (∀ line, line ∈ flattening calls ↔ StandsIn (calls.flatMap WriterCall.fragments) line) ∧
    (∀ indent,
      (ofCalls indent calls).text = unlines ((flattening calls).map (CodeLine.written indent)) ∧
      (ofCalls indent calls).depth = 0 ∧
      ∀ depth content, (CodeLine.text depth content).deeper.written indent =
        indent.unit ++ (CodeLine.text depth content).written indent) ∧
    ∀ w : Writer,
      (∀ parts : List (List Fragment), w.emit parts.flatten = parts.foldl emit w) ∧
      (∀ body, w.emit body = w.addLines (linesOfAll w.depth body) ∧
        w.apply (.indent body) = w.addLines ((linesOfAll w.depth body).map CodeLine.deeper)) ∧
      ∀ header body close, w.apply (.block header body close) =
        w.emit (.line header :: .indent body :: (close.map .line).toList) := by
  refine ⟨fun line => mem_linesOfAll_iff,?_,?_⟩
  · intro indent
    rw [ofCalls_eq]
    exact ⟨String.empty_append,rfl,CodeLine.written_deeper indent⟩
  · intro w
    exact ⟨emit_flatten w,fun body => ⟨emit_eq w body,apply_indent w body⟩,apply_block w⟩

/-- A body in a body, with a blank line that stays bare. -/
example : (ofCalls .tab [.apply (.block "mod a \x7b" [.indent [.line "use b;",.blank]] (some "\x7d")),
    .blank,.emit (.raw ⟨"c();"⟩)]).text = "mod a \x7b\n\t\tuse b;\n\n\x7d\n\nc();\n" := by
  decide +kernel

end Writer
end RestScaffold
