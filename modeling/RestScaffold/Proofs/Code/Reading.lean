import RestScaffold.Proofs.Code.Items

/-! # Reading generated code

A reader that knows nothing of how a source file was put together finds the names that its lines
declare and the lines between the signature and the closing brace of a function. In a source file
made of functions these are the names and the bodies of the functions.
-/
namespace RestScaffold
open Fragment

/-- What follows `lead` on a line that starts with it. -/
def after? (lead line : String) : Option String :=
  (lead.toList.isPrefixOf? line.toList).map String.ofList

/-- The text in front of the first `stop`. -/
def upTo (stop : Char) (s : String) : String := String.ofList (s.toList.takeWhile (· != stop))

/-- The names on the lines that start with `lead`, each up to `stop`. -/
def declared (lead : String) (stop : Char) (lines : List String) : List String :=
  lines.filterMap fun line => (after? lead line).map (upTo stop)

/-- The lines between the signature with some header and the brace that closes its function. -/
def bodyOf (header : String) (lines : List String) : List String :=
  (((lines.dropWhile fun line => (after? (header ++ "(") line).isNone).dropWhile
    fun line => line.toList.getLast? != some '\x7b').tail).takeWhile (· != "\x7d")

/-- A line that does not start with a lower case letter. -/
def Aside (line : String) : Prop := ∀ c ∈ line.toList.head?, c.isLower = false

instance (line : String) : Decidable (Aside line) := Option.decidableForallMem line.toList.head?

variable {lead line header : String} {stop : Char}

theorem after?_eq_some_iff {rest : String} :
    after? lead line = some rest ↔ line = lead ++ rest := by
  rw [after?, Option.map_eq_some_iff]
  constructor
  · rintro ⟨cs,hcs,rfl⟩
    have he := List.isPrefixOf?_eq_some_iff_append_eq.mp hcs
    rw [← String.toList_inj, String.toList_append, String.toList_ofList, he]
  · rintro rfl
    refine ⟨rest.toList,?_,String.ofList_toList⟩
    exact List.isPrefixOf?_eq_some_iff_append_eq.mpr (String.toList_append).symm

theorem after?_append (lead rest : String) : after? lead (lead ++ rest) = some rest :=
  after?_eq_some_iff.mpr rfl

theorem after?_eq_none_of_head (h : line.toList.head? ≠ lead.toList.head?) (hl : lead ≠ "") :
    after? lead line = none := by
  cases ha : after? lead line with
  | none => rfl
  | some rest =>
    obtain ⟨c,cs,hc⟩ := List.exists_cons_of_ne_nil (mt String.toList_eq_nil_iff.mp hl)
    refine absurd ?_ h
    rw [after?_eq_some_iff.mp ha, String.toList_append, hc]
    rfl

theorem after?_append_append (common : String) :
    after? (common ++ lead) (common ++ line) = after? lead line := by
  refine Option.ext fun rest => ?_
  rw [after?_eq_some_iff, after?_eq_some_iff, String.append_assoc, String.append_right_inj]

/-- What a name in front of a lead is does not matter to a line that starts with neither. -/
theorem after?_eq_none_append {more : String} (h : after? lead line = none) :
    after? (lead ++ more) line = none := by
  cases ha : after? (lead ++ more) line with
  | none => rfl
  | some rest =>
    rw [after?_eq_some_iff.mp ha, String.append_assoc, after?_append] at h
    cases h

theorem upTo_append {s : String} (hs : stop ∉ s.toList) (rest : String) :
    upTo stop (s ++ String.singleton stop ++ rest) = s := by
  have hall : ∀ c ∈ s.toList, (c != stop) = true := by
    intro c hc
    simp only [bne_iff_ne, ne_eq]
    rintro rfl
    exact hs hc
  rw [← String.toList_inj, upTo, String.toList_ofList, String.append_assoc, String.toList_append,
    List.takeWhile_append_of_pos hall, String.toList_append]
  simp

theorem upTo_of_notMem {s : String} (hs : stop ∉ s.toList) : upTo stop s = s := by
  have hall : ∀ c ∈ s.toList, (c != stop) = true := by
    intro c hc
    rw [bne_iff_ne]
    rintro rfl
    exact hs hc
  rw [upTo, List.takeWhile_eq_self_iff.mpr hall, String.ofList_toList]

/-- A line says which name stands in front of its first stop. -/
theorem after?_stop_eq_none {a b : String} (ha : stop ∉ a.toList) (hb : stop ∉ b.toList)
    (hne : a ≠ b) (rest : String) :
    after? (a ++ String.singleton stop) (b ++ String.singleton stop ++ rest) = none := by
  cases hr : after? (a ++ String.singleton stop) (b ++ String.singleton stop ++ rest) with
  | none => rfl
  | some r =>
    refine absurd ?_ hne
    have he := congrArg (upTo stop) (after?_eq_some_iff.mp hr)
    rw [upTo_append hb, upTo_append ha] at he
    exact he.symm

theorem declared_append (lead : String) (stop : Char) (a b : List String) :
    declared lead stop (a ++ b) = declared lead stop a ++ declared lead stop b :=
  List.filterMap_append

theorem declared_eq_nil {lines : List String} (h : ∀ line ∈ lines, after? lead line = none) :
    declared lead stop lines = [] := by
  rw [declared, List.filterMap_eq_nil_iff]
  intro line hline
  rw [h line hline]
  rfl

theorem bodyOf_append {before : List String} (h : ∀ line ∈ before, after? (header ++ "(") line = none)
    (rest : List String) : bodyOf header (before ++ rest) = bodyOf header rest := by
  unfold bodyOf
  rw [List.dropWhile_append_of_pos]
  intro line hline
  rw [h line hline]
  rfl

/-- The body is what stands between a signature and the next line that is but a brace. -/
theorem bodyOf_signature {parameters body rest : List String} {opening close : String}
    (hopen : after? (header ++ "(") opening ≠ none)
    (hsig : (opening :: parameters).dropWhile (fun l => l.toList.getLast? != some '\x7b') = [close])
    (hbody : ∀ line ∈ body, line ≠ "\x7d") :
    bodyOf header (opening :: parameters ++ (body ++ "\x7d" :: rest)) = body := by
  have hfirst : (after? (header ++ "(") opening).isNone = false := by
    rw [← Bool.not_eq_true, Option.isNone_iff_eq_none]
    exact hopen
  have htake : ∀ line ∈ body, (line != "\x7d") = true := by
    simpa using hbody
  have hdrop : ((opening :: parameters) ++ (body ++ "\x7d" :: rest)).dropWhile
      (fun l => (after? (header ++ "(") l).isNone) =
      (opening :: parameters) ++ (body ++ "\x7d" :: rest) := by
    rw [List.cons_append, List.dropWhile_cons_of_neg (by simp [hfirst])]
  unfold bodyOf
  rw [hdrop, List.dropWhile_append, hsig]
  simp only [List.isEmpty_cons, Bool.false_eq_true, ↓reduceIte, List.cons_append, List.nil_append,
    List.tail_cons]
  rw [List.takeWhile_append_of_pos htake]
  simp

/-- A line that is blank or indented. -/
def Inner (line : String) : Prop := ∀ c ∈ line.toList.head?, c = ' '

theorem Inner.aside (h : Inner line) : Aside line := by
  intro c hc
  rw [h c hc]
  rfl

theorem Inner.ne_brace (h : Inner line) : line ≠ "\x7d" := by
  rintro rfl
  exact absurd (h '\x7d' rfl) (by decide)

theorem inner_written (depth : Nat) (content : String) :
    Inner ((CodeLine.text (depth + 1) content).written .standard) := by
  intro c hc
  simpa [CodeLine.written, Indent.standard, Indent.unit, List.replicate_succ, eq_comm] using hc

mutual

theorem inner_linesAt (depth : Nat) : ∀ f : Fragment, ∀ line ∈ f.linesAt (depth + 1),
    Inner (line.written .standard)
  | .line text => by
    rw [linesAt, List.forall_mem_singleton]
    exact inner_written depth text
  | .blank => by
    rw [linesAt, List.forall_mem_singleton]
    exact fun c hc => nomatch hc
  | .block header body close => by
    rw [linesAt, List.forall_mem_cons, List.forall_mem_append]
    refine ⟨inner_written depth header,inner_linesOfAll (depth + 1) body,?_⟩
    intro line hline
    obtain ⟨text,_,rfl⟩ := Option.map_eq_some_iff.mp (Option.mem_toList.mp hline)
    exact inner_written depth text
  | .indent body => by
    rw [linesAt]
    exact inner_linesOfAll (depth + 1) body
  | .doc text => by
    rw [linesAt, List.forall_mem_singleton]
    exact inner_written depth _
  | .comment text => by
    rw [linesAt, List.forall_mem_singleton]
    exact inner_written depth _

theorem inner_linesOfAll (depth : Nat) : ∀ fs : List Fragment, ∀ line ∈ linesOfAll (depth + 1) fs,
    Inner (line.written .standard)
  | [] => fun line hline => by
    rw [linesOfAll] at hline
    exact absurd hline List.not_mem_nil
  | f :: rest => by
    rw [linesOfAll, List.forall_mem_append]
    exact ⟨inner_linesAt depth f,inner_linesOfAll depth rest⟩

end

end RestScaffold
