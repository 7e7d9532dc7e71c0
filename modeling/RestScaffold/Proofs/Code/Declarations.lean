import RestScaffold.Proofs.Code.Reading

/-! # What a source file declares

The lines of a generated file are its header, which declares nothing, and the lines of its source.
If its items are functions, their names and bodies are what a reader finds there.
-/
namespace RestScaffold
open Fragment

/-- Lines as they are written in the standard indentation. -/
def written (lines : List CodeLine) : List String := lines.map (CodeLine.written .standard)

theorem written_text_one (content : String) :
    (CodeLine.text 1 content).written .standard = "    " ++ content := by
  rw [← String.toList_inj]
  simp [CodeLine.written, Indent.standard, Indent.unit]

theorem written_text_two (content : String) :
    (CodeLine.text 2 content).written .standard = "        " ++ content := by
  rw [← String.toList_inj]
  simp [CodeLine.written, Indent.standard, Indent.unit, List.replicate_succ]

theorem unbroken_of_written {lines : List CodeLine} (h : ∀ text ∈ written lines, OneLine text) :
    Unbroken lines :=
  fun _ hline => oneLine_written_iff.mp (h _ (List.mem_map_of_mem hline))

/-- A lead that no line aside has. -/
def LowerLead (lead : String) : Prop := lead.toList.head?.any Char.isLower = true

instance (lead : String) : Decidable (LowerLead lead) := inferInstanceAs (Decidable (_ = true))

variable {lead line : String} {stop : Char} {f : FunctionItem}

theorem written_append (a b : List CodeLine) : written (a ++ b) = written a ++ written b :=
  List.map_append

theorem written_cons (line : CodeLine) (lines : List CodeLine) :
    written (line :: lines) = line.written .standard :: written lines := rfl

theorem written_text_zero (content : String) :
    (CodeLine.text 0 content).written .standard = content := String.empty_append

theorem LowerLead.ne_empty (h : LowerLead lead) : lead ≠ "" := by
  rintro rfl
  exact absurd h (by decide)

theorem LowerLead.append (h : LowerLead lead) (more : String) : LowerLead (lead ++ more) := by
  obtain ⟨c,rest,hc⟩ := List.exists_cons_of_ne_nil (mt String.toList_eq_nil_iff.mp h.ne_empty)
  rw [LowerLead, hc] at h
  rw [LowerLead, String.toList_append, hc]
  exact h

theorem after?_of_aside (hl : LowerLead lead) (h : Aside line) : after? lead line = none := by
  refine after?_eq_none_of_head ?_ hl.ne_empty
  intro he
  obtain ⟨c,hc,hlow⟩ := (Option.any_eq_true ..).mp hl
  rw [← he] at hc
  rw [h c hc] at hlow
  cases hlow

/-- What the header of a function says before its name. -/
def functionLead (isPublic isAsync : Bool) : String :=
  (if isPublic then "pub " else "") ++ (if isAsync then "async " else "") ++ "fn "

theorem header_eq (f : FunctionItem) :
    f.header = functionLead f.isPublic f.isAsync ++ f.name := rfl

theorem lowerLead_functionLead (isPublic isAsync : Bool) :
    LowerLead (functionLead isPublic isAsync) := by
  revert isPublic isAsync
  decide

theorem after?_functionLead_of_ne {p a p' a' : Bool} (hne : (p,a) ≠ (p',a')) (rest : String) :
    after? (functionLead p a) (functionLead p' a' ++ rest) = none := by
  cases p <;> cases a <;> cases p' <;> cases a' <;>
    first
    | exact absurd rfl hne
    | simp [after?, functionLead, String.toList_append, List.isPrefixOf?]

theorem stop_notMem_header (hname : '(' ∉ f.name.toList) : '(' ∉ f.header.toList := by
  rw [header_eq, String.toList_append, List.mem_append]
  rintro (h | h)
  · revert h
    cases f.isPublic <;> cases f.isAsync <;> decide
  · exact hname h

theorem opening_eq (f : FunctionItem) : ∃ rest, f.opening = f.header ++ "(" ++ rest := by
  unfold FunctionItem.opening
  split
  · refine ⟨String.intercalate ", " (f.parameters.map Parameter.text) ++ ")" ++ f.resultText ++
      " \x7b",?_⟩
    simp only [FunctionItem.inlineSignature, String.append_assoc]
  · exact ⟨"",String.append_empty.symm⟩

theorem aside_commentLine (text : String) : Aside (commentLine "///" text) := by
  unfold commentLine
  split
  · decide
  · intro c hc
    rw [String.append_assoc, String.toList_append] at hc
    cases hc
    decide

theorem aside_of_mem_intro (h : line ∈ written f.introLines) : Aside line := by
  obtain ⟨l,hl,rfl⟩ := List.mem_map.mp h
  rcases List.mem_append.mp hl with hl | hl
  · obtain ⟨text,_,rfl⟩ := Option.map_eq_some_iff.mp (Option.mem_toList.mp hl)
    rw [written_text_zero]
    exact aside_commentLine text
  · obtain ⟨content,_,rfl⟩ := List.mem_map.mp hl
    rw [written_text_zero]
    intro c hc
    rw [String.append_assoc, String.toList_append] at hc
    cases hc
    decide

theorem inner_of_mem_body (h : line ∈ written f.bodyLines) : Inner line := by
  obtain ⟨l,hl,rfl⟩ := List.mem_map.mp h
  exact inner_linesOfAll 0 f.body l hl

theorem aside_of_mem_parameters (h : line ∈ written f.parameterLines) : Aside line := by
  obtain ⟨l,hl,rfl⟩ := List.mem_map.mp h
  unfold FunctionItem.parameterLines at hl
  split at hl
  · exact absurd hl List.not_mem_nil
  rcases List.mem_append.mp hl with hl | hl
  · obtain ⟨p,_,rfl⟩ := List.mem_map.mp hl
    exact (inner_written 0 _).aside
  · rw [List.mem_singleton.mp hl, written_text_zero]
    intro c hc
    rw [String.append_assoc, String.toList_append] at hc
    cases hc
    decide

/-- All lines of a function but its opening stand aside. -/
theorem written_function (f : FunctionItem) : ∃ before rest,
    (∀ line ∈ before, Aside line) ∧ (∀ line ∈ rest, Aside line) ∧
      written (linesOfAll 0 f.fragments) = before ++ f.opening :: rest := by
  refine ⟨written f.introLines,written f.parameterLines ++ (written f.bodyLines ++ ["\x7d"]),
    fun _ => aside_of_mem_intro,?_,?_⟩
  · intro line hline
    rcases List.mem_append.mp hline with hline | hline
    · exact aside_of_mem_parameters hline
    rcases List.mem_append.mp hline with hline | hline
    · exact (inner_of_mem_body hline).aside
    · rw [List.mem_singleton.mp hline]
      decide
  · rw [FunctionItem.linesOfAll_fragments, written_append, written_cons, written_text_zero,
      written_append, written_append]
    rfl

theorem declared_of_aside {lines : List String} (hl : LowerLead lead)
    (h : ∀ line ∈ lines, Aside line) : declared lead stop lines = [] :=
  declared_eq_nil fun line hline => after?_of_aside hl (h line hline)

theorem declared_function (p a : Bool) (hname : '(' ∉ f.name.toList) :
    declared (functionLead p a) '(' (written (linesOfAll 0 f.fragments)) =
      if (p,a) = (f.isPublic,f.isAsync) then [f.name] else [] := by
  obtain ⟨before,rest,hbefore,hrest,he⟩ := written_function f
  obtain ⟨more,hopening⟩ := opening_eq f
  have hlead := lowerLead_functionLead p a
  rw [he, declared_append, ← List.singleton_append, declared_append,
    declared_of_aside hlead hbefore, declared_of_aside hlead hrest, List.nil_append,
    List.append_nil]
  have hsplit : f.opening = functionLead f.isPublic f.isAsync ++ (f.name ++ "(" ++ more) := by
    rw [hopening, header_eq]
    simp only [String.append_assoc]
  split
  · rename_i hflags
    obtain ⟨rfl,rfl⟩ := Prod.mk.inj hflags
    have hup : upTo '(' (f.name ++ "(" ++ more) = f.name := upTo_append hname more
    simp [declared, hsplit, after?_append, hup]
  · rename_i hflags
    simp [declared, hsplit, after?_functionLead_of_ne hflags]

theorem getLast?_toList_append {t : String} {c : Char} (h : t.toList.getLast? = some c)
    (s : String) : (s ++ t).toList.getLast? = some c := by
  rw [String.toList_append, List.getLast?_append, h]
  rfl

/-- The first line of a signature that ends in an opening brace is its last one. -/
theorem dropWhile_signature (f : FunctionItem) : ∃ close,
    (f.opening :: written f.parameterLines).dropWhile (fun l => l.toList.getLast? != some '\x7b') =
      [close] := by
  unfold FunctionItem.opening FunctionItem.parameterLines
  split
  · refine ⟨f.inlineSignature,?_⟩
    have hlast : f.inlineSignature.toList.getLast? = some '\x7b' :=
      getLast?_toList_append (by decide) _
    simp [written, hlast]
  · refine ⟨")" ++ f.resultText ++ " \x7b",?_⟩
    have hopen : (f.header ++ "(").toList.getLast? = some '(' :=
      getLast?_toList_append (by decide) _
    have hparameters : ∀ line ∈ written (f.parameters.map fun p => .text 1 (p.text ++ ",")),
        (line.toList.getLast? != some '\x7b') = true := by
      intro line hline
      obtain ⟨l,hl,rfl⟩ := List.mem_map.mp hline
      obtain ⟨p,_,rfl⟩ := List.mem_map.mp hl
      have hlast : ((CodeLine.text 1 (p.text ++ ",")).written .standard).toList.getLast? =
          some ',' :=
        getLast?_toList_append (getLast?_toList_append (by decide) _) _
      rw [hlast]
      rfl
    have hclose : (")" ++ f.resultText ++ " \x7b").toList.getLast? = some '\x7b' :=
      getLast?_toList_append (by decide) _
    rw [List.dropWhile_cons_of_pos (by rw [hopen]; rfl), written_append,
      List.dropWhile_append_of_pos hparameters, written_cons, written_text_zero,
      List.dropWhile_cons_of_neg (by rw [hclose]; decide)]
    rfl

/-- A reader finds the body of a function from its header on. -/
theorem bodyOf_function (f : FunctionItem) (rest : List String) :
    bodyOf f.header (written (linesOfAll 0 f.fragments) ++ rest) = written f.bodyLines := by
  obtain ⟨more,hopening⟩ := opening_eq f
  obtain ⟨close,hclose⟩ := dropWhile_signature f
  have hlead : LowerLead (f.header ++ "(") := ((lowerLead_functionLead _ _).append _).append _
  have hintro : ∀ line ∈ written f.introLines, after? (f.header ++ "(") line = none :=
    fun _ hline => after?_of_aside hlead (aside_of_mem_intro hline)
  have hopen : after? (f.header ++ "(") f.opening ≠ none := by
    rw [hopening, after?_append]
    exact Option.some_ne_none more
  have hlines : written (linesOfAll 0 f.fragments) ++ rest = written f.introLines ++
      (f.opening :: written f.parameterLines ++ (written f.bodyLines ++ "\x7d" :: rest)) := by
    rw [FunctionItem.linesOfAll_fragments, written_append, written_cons, written_text_zero,
      written_append, written_append]
    simp [written, written_text_zero]
  rw [hlines, bodyOf_append hintro]
  refine bodyOf_signature hopen hclose ?_
  intro line hline
  exact (inner_of_mem_body hline).ne_brace

theorem after?_header_of_ne {g : FunctionItem} (hf : '(' ∉ f.name.toList) (hg : '(' ∉ g.name.toList)
    (hne : f.header ≠ g.header) : ∀ line ∈ written (linesOfAll 0 g.fragments),
      after? (f.header ++ "(") line = none := by
  obtain ⟨before,rest,hbefore,hrest,he⟩ := written_function g
  obtain ⟨more,hopening⟩ := opening_eq g
  have hlead : LowerLead (f.header ++ "(") := ((lowerLead_functionLead _ _).append _).append _
  rw [he, List.forall_mem_append, List.forall_mem_cons]
  refine ⟨?_,?_,?_⟩
  · exact fun _ hline => after?_of_aside hlead (hbefore _ hline)
  · rw [hopening]
    exact after?_stop_eq_none (stop_notMem_header hf) (stop_notMem_header hg) hne more
  · exact fun _ hline => after?_of_aside hlead (hrest _ hline)

end RestScaffold
