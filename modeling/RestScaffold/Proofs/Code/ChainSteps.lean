import RestScaffold.Proofs.Code.BlankLines

/-! # Chains on one line and on several

However a chain was put together, it is one expression: the texts of its lines, one after the other,
are the chain on one line. Each call has a line of its own, and so has the wait, and what ends the
chain stands at the end of the last line.
-/
namespace RestScaffold
open Fragment

/-- A step in which a chain is put together. -/
inductive ChainStep where
  | assign (target : String)
  | call (name : String)
  | callArg (name arg : String)
  | callArgs (name : String) (args : List String)
  | callEach (name : String) (args : List String)
  | await
  | orReturn
  | statement
  | argument
  deriving DecidableEq, Repr

namespace ChainStep

def target? : ChainStep → Option String
  | assign target => some target
  | _ => none

/-- The calls that a step adds. -/
def calls : ChainStep → List Call
  | call name => [⟨name,[]⟩]
  | callArg name arg => [⟨name,[arg]⟩]
  | callArgs name args => [⟨name,args⟩]
  | callEach name args => args.map fun arg => ⟨name,[arg]⟩
  | _ => []

def terminator? : ChainStep → Option Terminator
  | statement => some .semicolon
  | argument => some .comma
  | _ => none

/-- The base behind what its value was last bound to, if it was. -/
def opening (base : String) (steps : List ChainStep) : String :=
  match (steps.filterMap target?).getLast? with
  | some target => target ++ " " ++ base
  | none => base

/-- A line for each call, and one for the wait if any step asks for it. -/
def continuation (steps : List ChainStep) : List String :=
  (steps.flatMap calls).map Call.text ++ if await ∈ steps then [".await"] else []

/-- The mark of failure that is handed on, if any step asks for it, and the last terminator. -/
def closing (steps : List ChainStep) : String :=
  (if orReturn ∈ steps then "?" else "") ++
    ((steps.filterMap terminator?).getLast?.map Terminator.text).getD ""

end ChainStep

namespace Chain

theorem join_ite (p : Prop) [Decidable p] (s : String) :
    String.join (if p then [s] else []) = if p then s else "" := by
  split <;> simp

theorem join_endLast (suffix : String) {lines : List String} (hne : lines ≠ []) :
    String.join (endLast suffix lines) = String.join lines ++ suffix := by
  obtain ⟨front,last,rfl⟩ := (List.eq_nil_or_concat lines).resolve_left hne
  rw [List.concat_eq_append, endLast_concat]
  simp [String.join_append, String.append_assoc]

theorem join_callLines {c : Chain} (hne : c.calls ≠ []) : String.join c.callLines =
    String.join (c.calls.map Call.text) ++ c.awaitText ++ c.ending := by
  rw [callLines, join_endLast _ (by simp [hne]), String.join_append, join_ite, awaitText]

theorem fragments_of_calls {c : Chain} (hne : c.calls ≠ []) :
    c.fragments = [.line c.head, .indent (c.callLines.map .line)] := by
  rw [fragments, if_neg (by simpa using hne)]

/-- The lines of a chain are the chain, cut before each call. -/
theorem join_textsOf_fragments (c : Chain) : String.join (textsOf c.fragments) = c.inline := by
  by_cases hne : c.calls = []
  · simp [fragments, hne, textsOf, texts]
  · have hlines := textsOf_map_line id c.callLines
    simp only [id_eq, List.map_id_fun] at hlines
    rw [fragments_of_calls hne]
    simp only [textsOf, texts, hlines, List.append_nil, List.singleton_append]
    rw [String.join_cons, join_callLines hne, inline]
    simp only [String.append_assoc]

/-- The chain after a step. -/
def step (c : Chain) : ChainStep → Chain
  | .assign target => c.assign target
  | .call name => c.call name
  | .callArg name arg => c.callArg name arg
  | .callArgs name args => c.callArgs name args
  | .callEach name args => c.callEach name args
  | .await => c.await
  | .orReturn => c.orReturn
  | .statement => c.statement
  | .argument => c.argument

def ofSteps (base : String) (steps : List ChainStep) : Chain := steps.foldl step (new base)

theorem ofSteps_concat (base : String) (steps : List ChainStep) (s : ChainStep) :
    ofSteps base (steps ++ [s]) = (ofSteps base steps).step s := by
  simp [ofSteps]

/-- Targets and terminators replace each other, calls add up, and marks stay once they are set. -/
theorem ofSteps_eq (base : String) (steps : List ChainStep) : ofSteps base steps =
    ⟨(steps.filterMap ChainStep.target?).getLast?,base,steps.flatMap ChainStep.calls,
      decide (ChainStep.await ∈ steps),decide (ChainStep.orReturn ∈ steps),
      (steps.filterMap ChainStep.terminator?).getLast?⟩ := by
  induction steps using List.reverseRecOn with
  | nil => rfl
  | append_singleton steps s ih =>
    rw [ofSteps_concat, ih]
    cases s with
    | callEach name args => simp [step, callEach_eq, ChainStep.target?, ChainStep.calls,
        ChainStep.terminator?]
    | _ => simp [step, assign, call, callArg, callArgs, await, orReturn, statement, argument,
        ChainStep.target?, ChainStep.calls, ChainStep.terminator?]

theorem head_ofSteps (base : String) (steps : List ChainStep) :
    (ofSteps base steps).head = ChainStep.opening base steps := by
  rw [ofSteps_eq]
  rfl

theorem callLines_ofSteps (base : String) (steps : List ChainStep) :
    (ofSteps base steps).callLines =
      endLast (ChainStep.closing steps) (ChainStep.continuation steps) := by
  rw [ofSteps_eq]
  simp [callLines, ending, ChainStep.closing, ChainStep.continuation]

theorem inline_ofSteps (base : String) (steps : List ChainStep) : (ofSteps base steps).inline =
    ChainStep.opening base steps ++ String.join (ChainStep.continuation steps) ++
      ChainStep.closing steps := by
  rw [inline, head_ofSteps, ofSteps_eq, ChainStep.continuation, String.join_append, join_ite]
  simp [awaitText, ending, ChainStep.closing, String.append_assoc]

/-- A chain is the same expression on one line and on several. On one line it is the base, the calls
in their order, the wait, and what ends the chain. On several lines a line for each call and then one
for the wait are indented below the base, and what ends the chain is at the end of the last. -/
theorem ofSteps_renderings_agree (base : String) (steps : List ChainStep) :
    String.join (textsOf (ofSteps base steps).fragments) = (ofSteps base steps).inline ∧
    (ofSteps base steps).inline = ChainStep.opening base steps ++
      String.join (ChainStep.continuation steps) ++ ChainStep.closing steps ∧
    (steps.flatMap ChainStep.calls = [] →
      (ofSteps base steps).fragments = [.line (ofSteps base steps).inline]) ∧
    (steps.flatMap ChainStep.calls ≠ [] → ∃ front last,
      ChainStep.continuation steps = front ++ [last] ∧
      (ofSteps base steps).fragments = [.line (ChainStep.opening base steps),
        .indent ((front ++ [last ++ ChainStep.closing steps]).map .line)]) := by
  have hcalls : (ofSteps base steps).calls = steps.flatMap ChainStep.calls := by rw [ofSteps_eq]
  refine ⟨join_textsOf_fragments _,inline_ofSteps base steps,?_,?_⟩
  · intro hnone
    rw [fragments, if_pos (by simp [hcalls, hnone])]
  · intro hsome
    have hne : ChainStep.continuation steps ≠ [] := by simp [ChainStep.continuation, hsome]
    obtain ⟨front,last,hlines⟩ := (List.eq_nil_or_concat _).resolve_left hne
    rw [List.concat_eq_append] at hlines
    refine ⟨front,last,hlines,?_⟩
    rw [fragments_of_calls (hcalls ▸ hsome), head_ofSteps, callLines_ofSteps, hlines, endLast_concat]

/-- A query with its marks between the calls and a target that is replaced. -/
def querySteps : List ChainStep :=
  [.assign "let rows =",.orReturn,.callEach "bind" ["&user.id","&user.name"],.await,.argument,
    .callArg "execute" "&pool",.assign "let result =",.statement]

/-- The marks stand at the end wherever they were given, and the last target and terminator count. -/
theorem querySteps_renderings_agree :
    querySteps.flatMap ChainStep.calls ≠ [] ∧
    (ofSteps "sqlx::query(UPDATE)" querySteps).fragments =
      [.line "let result = sqlx::query(UPDATE)",.indent [.line ".bind(&user.id)",
        .line ".bind(&user.name)",.line ".execute(&pool)",.line ".await?;"]] ∧
    String.join (textsOf (ofSteps "sqlx::query(UPDATE)" querySteps).fragments) =
      "let result = sqlx::query(UPDATE).bind(&user.id).bind(&user.name).execute(&pool).await?;" ∧
    [ChainStep.await,.orReturn].flatMap ChainStep.calls = [] ∧
    (ofSteps "connect()" [.await,.orReturn]).fragments = [.line "connect().await?"] := by
  obtain ⟨hjoin,_,_,hlines⟩ := ofSteps_renderings_agree "sqlx::query(UPDATE)" querySteps
  obtain ⟨_,_,hsingle,_⟩ := ofSteps_renderings_agree "connect()" [.await,.orReturn]
  have hne : querySteps.flatMap ChainStep.calls ≠ [] := by decide
  refine ⟨hne,?_,hjoin.trans (by decide),rfl,hsingle rfl⟩
  obtain ⟨front,last,hcont,hfragments⟩ := hlines hne
  have hlast : [".bind(&user.id)",".bind(&user.name)",".execute(&pool)"] ++ [".await"] =
      front ++ [last] :=
    Eq.trans (by decide) hcont
  obtain ⟨rfl,hwait⟩ := List.append_inj' hlast rfl
  obtain rfl : ".await" = last := List.singleton_inj.mp hwait
  exact hfragments

end Chain
end RestScaffold
