import RestScaffold.Proofs.Generation.Routing
import RestScaffold.Proofs.Output.Statements

/-! # Names that a handler binds

An update takes a record out of the request, stores it and answers with it. In between the handler
binds the outcome of its query, so the record is lost exactly if its variable is called like that.
-/
namespace RestScaffold
open Fragment
variable {policy : NamingPolicy} {s : Schema} {m : Model}

/-- A character of a name, the mark of a keyword among them. -/
def isNameChar (c : Char) : Bool := continuesIdentifier c || c == '#'

/-- No word at all, or the one that makes the next name mutable. -/
def bindsNothing (word : List Char) : Bool := word == [] || word == "mut".toList

/-- The names that a pattern binds, `word` being what was read of the open word. A word in front of
a bracket says what the pattern in the brackets is taken from. -/
def namesFrom : List Char → List Char → List String
  | word, [] => if bindsNothing word then [] else [String.ofList word]
  | word, c :: rest =>
    if isNameChar c then namesFrom (word ++ [c]) rest
    else if c == '(' || bindsNothing word then namesFrom [] rest
    else String.ofList word :: namesFrom [] rest

def patternNames (pattern : String) : List String := namesFrom [] pattern.toList

def unindented (line : String) : String := String.ofList (line.toList.dropWhile (· == ' '))

/-- The names that a line binds for the lines after it. -/
def letNames (line : String) : List String :=
  match after? "let " (unindented line) with
  | some binding => patternNames (upTo '=' binding)
  | none => []

/-- The lines behind the first that is `opening` and in front of the next that is `close`. -/
def linesBetween (opening close : String) (lines : List String) : List String :=
  (lines.dropWhile (· != opening)).tail.takeWhile (· != close)

namespace Model

/-- The line by which an update takes the record out of the request. -/
def takesRecord (m : Model) : String := "    let Json(mut " ++ m.varIdent ++ ") = match payload \x7b"

/-- The line by which an update answers. -/
def answersRecord (m : Model) : String :=
  "        Ok(_) => (StatusCode::OK, Json(" ++ m.varIdent ++ ")).into_response(),"

def updateLines (m : Model) : List String := written (m.handler .update).bodyLines

/-- What an update does with the record before it answers. -/
def storingLines (m : Model) : List String :=
  linesBetween m.takesRecord m.answersRecord m.updateLines

/-- The variable of the record is bound once and for all. -/
def RecordSurvives (m : Model) : Prop := ∀ line ∈ m.storingLines, m.varIdent ∉ letNames line

instance (m : Model) : Decidable m.RecordSurvives := List.decidableBAll _ m.storingLines

end Model

/-- The record of a request in the handlers: an update takes it, stores its fields and answers with
what its name stands for then, and no parameter but the request itself can have that name. -/
structure RecordUse (m : Model) : Prop where
  handler : Occurs (unlines ((m.handler .update).signatureLines ++ m.updateLines))
    m.handlerFile.content
  lines : ∃ after, m.updateLines = m.takesRecord :: (m.storingLines ++ m.answersRecord :: after)
  taken : isIdentifier m.varName = true → letNames m.takesRecord = [m.varIdent]
  stored : ∀ f ∈ m.fields, "        .bind(&" ++ m.varIdent ++ "." ++ f.ident ++ ")" ∈ m.storingLines
  parameters : ∀ o, ∀ p ∈ (m.handler o).parameters, p ≠ m.payloadParameter →
    m.varIdent ∉ patternNames p.name

theorem namesFrom_append {cs : List Char} (h : ∀ c ∈ cs, isNameChar c = true)
    (word rest : List Char) : namesFrom word (cs ++ rest) = namesFrom (word ++ cs) rest := by
  induction cs generalizing word with
  | nil => rw [List.nil_append, List.append_nil]
  | cons c cs ih =>
    obtain ⟨hc,hcs⟩ := List.forall_mem_cons.mp h
    rw [List.cons_append, namesFrom, if_pos hc, ih hcs, List.append_assoc]
    rfl

theorem bindsNothing_eq_false {word : List Char} : bindsNothing word = false ↔
    word ≠ [] ∧ word ≠ "mut".toList := by
  rw [bindsNothing, Bool.or_eq_false_iff, beq_eq_false_iff_ne, beq_eq_false_iff_ne]

theorem namesFrom_chars {word cs : List Char} (hw : ∀ c ∈ word, isNameChar c = true) :
    ∀ name ∈ namesFrom word cs, ∀ c ∈ name.toList, isNameChar c = true := by
  have hword : ∀ c ∈ (String.ofList word).toList, isNameChar c = true := by
    rwa [String.toList_ofList]
  have hnil : ∀ c ∈ ([] : List Char), isNameChar c = true := fun _ hc => absurd hc List.not_mem_nil
  induction cs generalizing word with
  | nil =>
    unfold namesFrom
    split
    · exact fun _ hn => absurd hn List.not_mem_nil
    · rwa [List.forall_mem_singleton]
  | cons c rest ih =>
    unfold namesFrom
    split
    · next hc =>
      have hgrown : ∀ d ∈ word ++ [c], isNameChar d = true := by
        rw [List.forall_mem_append, List.forall_mem_singleton]
        exact ⟨hw,hc⟩
      exact ih hgrown (by rwa [String.toList_ofList])
    split
    · exact ih hnil (by rwa [String.toList_ofList])
    · rw [List.forall_mem_cons]
      exact ⟨hword,ih hnil (by rwa [String.toList_ofList])⟩

/-- A name that is taken out of brackets, made mutable. -/
theorem patternNames_mut {name : String} (h : ∀ c ∈ name.toList, isNameChar c = true)
    (hne : bindsNothing name.toList = false) :
    patternNames ("Json(mut " ++ name ++ ") ") = [name] := by
  have hlead : ∀ rest : List Char, namesFrom [] ("Json(mut ".toList ++ rest) = namesFrom [] rest := by
    intro rest
    rfl
  have hend : namesFrom name.toList ") ".toList = [name] := by
    have hclose : isNameChar ')' = false := by decide
    have hblank : namesFrom [] " ".toList = [] := by decide
    change namesFrom name.toList (')' :: " ".toList) = [name]
    rw [namesFrom, hclose, hne, hblank, String.ofList_toList]
    rfl
  rw [patternNames, String.toList_append, String.toList_append, List.append_assoc, hlead,
    namesFrom_append h, List.nil_append, hend]

theorem unindented_append {s : String} (h : s.toList.head? ≠ some ' ') (spaces : Nat) :
    unindented (String.ofList (List.replicate spaces ' ') ++ s) = s := by
  have hall : ∀ c ∈ List.replicate spaces ' ', (c == ' ') = true := by
    intro c hc
    rw [List.eq_of_mem_replicate hc]
    rfl
  have hself : s.toList.dropWhile (· == ' ') = s.toList := by
    cases hs : s.toList with
    | nil => rfl
    | cons c rest =>
      rw [hs] at h
      exact List.dropWhile_cons_of_neg (by simpa using h)
  rw [unindented, String.toList_append, String.toList_ofList, List.dropWhile_append_of_pos hall,
    hself, String.ofList_toList]

theorem letNames_eq_nil {line : String} (h : after? "let " (unindented line) = none) :
    letNames line = [] := by
  rw [letNames, h]

theorem letNames_let (spaces : Nat) {pattern : String} (h : '=' ∉ pattern.toList) (rest : String) :
    letNames (String.ofList (List.replicate spaces ' ') ++ ("let " ++ (pattern ++ "=" ++ rest))) =
      patternNames pattern := by
  have hhead : ("let " ++ (pattern ++ "=" ++ rest)).toList.head? ≠ some ' ' := by
    simp [String.toList_append]
  have hstop : upTo '=' (pattern ++ "=" ++ rest) = pattern := upTo_append h rest
  rw [letNames, unindented_append hhead, after?_append]
  simp only [hstop]

theorem linesBetween_cons {opening close : String} {between : List String}
    (h : ∀ line ∈ between, line ≠ close) (after : List String) :
    linesBetween opening close (opening :: (between ++ close :: after)) = between := by
  have htake : ∀ line ∈ between, (line != close) = true := by
    simpa using h
  rw [linesBetween, List.dropWhile_cons_of_neg (by simp), List.tail_cons,
    List.takeWhile_append_of_pos htake, List.takeWhile_cons_of_neg (by simp), List.append_nil]

theorem takesRecord_eq (m : Model) :
    "    " ++ (Model.extractPayload ("mut " ++ m.varIdent)).header = m.takesRecord := by
  have hopen : "    let Json(mut " = "    " ++ ("let Json(" ++ "mut ") := by decide
  have hclose : ") = match payload \x7b" = ") =" ++ (" match " ++ ("payload" ++ " \x7b")) := by
    decide
  unfold Model.takesRecord
  rw [hopen, hclose]
  simp only [CaseSplit.header, Model.extractPayload, String.append_assoc]

theorem answersRecord_eq (m : Model) :
    "        " ++ ("Ok(_)" ++ " => " ++ Model.response "OK" m.varIdent ++ ",") = m.answersRecord := by
  have hopen : "        Ok(_) => (StatusCode::OK, Json(" =
      "        " ++ ("Ok(_)" ++ (" => " ++ ("(StatusCode::" ++ ("OK" ++ ", Json(")))) := by decide
  have hclose : ")).into_response()," = ")).into_response()" ++ "," := by decide
  unfold Model.answersRecord Model.response
  rw [hopen, hclose]
  simp only [String.append_assoc]

/-- The lines of the case split that takes the record out of the request, but for the first. -/
def refusalLines : List String := [
  "        Ok(payload) => payload,",
  "        Err(rejection) => return error_response(StatusCode::BAD_REQUEST, rejection.body_text()),",
  "    \x7d;"]

theorem written_extractPayload (m : Model) :
    written (linesOfAll 1 (Model.extractPayload ("mut " ++ m.varIdent)).fragments) =
      m.takesRecord :: refusalLines := by
  have hrefusal : written ((Model.extractPayload "").arms.map
      (fun a => .text 2 (a.pattern ++ " => " ++ a.value ++ ",")) ++ [.text 1 "\x7d;"]) =
      refusalLines := by
    decide
  rw [CaseSplit.linesOfAll_fragments, written_cons, written_text_one, takesRecord_eq, ← hrefusal]
  rfl

/-- The lines of an update from taking the record to answering: it refuses a request without a record,
takes over the identifier in the path and sends its query. -/
def Model.storing (m : Model) : List String :=
  refusalLines ++ ["    " ++ m.assignIdentifier, ""] ++
    queryLines (m.queryCall .update) (m.boundValues .update) "execute" ++ ["", "    match result \x7b"]

theorem updateLines_eq (m : Model) :
    ∃ after, m.updateLines = m.takesRecord :: (m.storing ++ m.answersRecord :: after) := by
  have houtcome : ∃ after, written (linesOfAll 1 (m.outcome .update).fragments) =
      "    match result \x7b" :: m.answersRecord :: after := by
    rw [CaseSplit.linesOfAll_fragments, written_cons, written_text_one, ← answersRecord_eq,
      ← written_text_two]
    exact ⟨_,rfl⟩
  obtain ⟨after,houtcome⟩ := houtcome
  refine ⟨after,?_⟩
  rw [Model.updateLines, bodyLines_handler, written_append, written_append, written_append,
    written_preamble_update, written_extractPayload, written_query, houtcome, Model.storing]
  simp only [List.append_assoc, List.cons_append, List.nil_append]
  rfl

/-- A line in front of the answer that binds no name of a record. -/
structure StoringLine (m : Model) (line : String) : Prop where
  ne_answer : line ≠ m.answersRecord
  keeps : m.varIdent ∉ letNames line

theorem after?_answersRecord (m : Model) : after? "        Ok(_)" m.answersRecord ≠ none := by
  have hlead : "        Ok(_) => (StatusCode::OK, Json(" =
      "        Ok(_)" ++ " => (StatusCode::OK, Json(" := by decide
  unfold Model.answersRecord
  rw [hlead, String.append_assoc, String.append_assoc, after?_append]
  exact Option.some_ne_none _

theorem storingLine_of_none {line : String} (ha : after? "        Ok(_)" line = none)
    (hl : letNames line = []) : StoringLine m line := by
  refine ⟨?_,hl ▸ List.not_mem_nil⟩
  rintro rfl
  exact after?_answersRecord m ha

theorem refusalLines_storing : ∀ line ∈ refusalLines, StoringLine m line := by
  have hplain : ∀ line ∈ refusalLines, after? "        Ok(_)" line = none ∧ letNames line = [] := by
    decide +kernel
  exact fun line hline => storingLine_of_none (hplain line hline).1 (hplain line hline).2

theorem space_notMem_letNames {line : String} : ∀ name ∈ letNames line, ' ' ∉ name.toList := by
  intro name hname hin
  unfold letNames at hname
  split at hname
  · have hchars := namesFrom_chars (fun _ hc => absurd hc List.not_mem_nil) name hname ' ' hin
    exact absurd hchars (by decide)
  · exact absurd hname List.not_mem_nil

/-- A lead with a character that does not stand in front of a stop ends before the stop. -/
theorem after?_eq_none_of_stop {lead s : String} {c stop : Char} (hc : c ∈ lead.toList)
    (hs : c ∉ s.toList) (hstop : stop ∉ lead.toList) (rest : String) :
    after? lead (s ++ (String.singleton stop ++ rest)) = none := by
  cases ha : after? lead (s ++ (String.singleton stop ++ rest)) with
  | none => rfl
  | some more =>
    have he := congrArg String.toList (after?_eq_some_iff.mp ha)
    rw [String.toList_append, String.toList_append, String.toList_append] at he
    rcases List.append_eq_append_iff.mp he with ⟨middle,hlead,hmiddle⟩ | ⟨middle,hlead,_⟩
    · cases middle with
      | nil =>
        rw [hlead, List.append_nil] at hc
        exact absurd hc hs
      | cons d middle =>
        have hd : d = stop := by simpa using (congrArg List.head? hmiddle).symm
        rw [hlead, hd] at hstop
        exact absurd (List.mem_append_right _ List.mem_cons_self) hstop
    · rw [hlead] at hs
      exact absurd (List.mem_append_left _ hc) hs

/-- The line that sets the identifier of a record binds no name that it starts with. -/
theorem assignIdentifier_storing (m : Model) : StoringLine m ("    " ++ m.assignIdentifier) := by
  constructor
  · intro he
    have hassign : ("    " ++ m.assignIdentifier).toList.getLast? = some ';' :=
      getLast?_toList_append (getLast?_toList_append (by decide) _) _
    have hanswer : m.answersRecord.toList.getLast? = some ',' :=
      getLast?_toList_append (by decide) _
    rw [he, hanswer] at hassign
    exact absurd hassign (by decide)
  · -- the variable may be any text that the policy makes, but one with blanks is no name that is read
    intro hin
    have hspace : ' ' ∉ m.varIdent.toList := space_notMem_letNames _ hin
    obtain ⟨rest,hrest⟩ : ∃ rest, m.assignIdentifier =
        m.varIdent ++ (String.singleton '.' ++ rest) := by
      refine ⟨m.identifier.ident ++ (" = " ++
        ((if m.identifier.type.isCopy then "id" else "id.clone()") ++ ";")),?_⟩
      simp only [Model.assignIdentifier, String.append_assoc]
      rfl
    have hhead : m.assignIdentifier.toList.head? ≠ some ' ' := by
      rw [hrest, String.toList_append]
      cases hv : m.varIdent.toList with
      | nil => simp [String.toList_append]
      | cons c cs =>
        intro hc
        rw [hv, Option.some.inj hc] at hspace
        exact hspace List.mem_cons_self
    refine absurd hin ?_
    have hindented : unindented ("    " ++ m.assignIdentifier) = m.assignIdentifier :=
      unindented_append hhead 4
    rw [letNames_eq_nil]
    · exact List.not_mem_nil
    · rw [hindented, hrest]
      exact after?_eq_none_of_stop (c := ' ') (by decide) hspace (by decide) rest

theorem letNames_call (m : Model) (o : Operation) :
    letNames ("    let result = " ++ m.queryCall o) = ["result"] := by
  have hlead : "    let result = " = "    " ++ ("let " ++ ("result " ++ "=" ++ " ")) := by decide
  have hstop : '=' ∉ "result ".toList := by decide
  have hread := letNames_let 4 hstop (" " ++ m.queryCall o)
  have hnames : patternNames "result " = ["result"] := by decide
  rw [hnames] at hread
  rw [hlead, ← hread]
  simp only [String.append_assoc]
  rfl

theorem call_ne_answer (m : Model) (o : Operation) :
    "    let result = " ++ m.queryCall o ≠ m.answersRecord := by
  intro he
  have hnone : after? "        Ok(_)" ("    let result = " ++ m.queryCall o) = none := by
    have hlead : "        Ok(_)" = "    " ++ "    Ok(_)" := by decide
    have hcall : "    let result = " = "    " ++ "let result = " := by decide
    rw [hlead, hcall, String.append_assoc, after?_append_append]
    exact after?_eq_none_of_head (by simp [String.toList_append]) (by decide)
  exact after?_answersRecord m (he ▸ hnone)

theorem bind_storing (value : String) : StoringLine m ("        .bind(" ++ value ++ ")") := by
  have hlead : "        Ok(_)" = "        " ++ "Ok(_)" := by decide
  have hbind : "        .bind(" ++ value ++ ")" = "        " ++ (".bind(" ++ (value ++ ")")) := by
    have hopen : "        .bind(" = "        " ++ ".bind(" := by decide
    rw [hopen]
    simp only [String.append_assoc]
  have hhead : (".bind(" ++ (value ++ ")")).toList.head? = some '.' := by
    rw [String.toList_append]
    rfl
  have hindented : unindented ("        " ++ (".bind(" ++ (value ++ ")"))) =
      ".bind(" ++ (value ++ ")") := unindented_append (by rw [hhead]; decide) 8
  rw [hbind]
  refine storingLine_of_none ?_ (letNames_eq_nil ?_)
  · rw [hlead, after?_append_append]
    exact after?_eq_none_of_head (by rw [hhead]; decide) (by decide)
  · rw [hindented]
    exact after?_eq_none_of_head (by rw [hhead]; decide) (by decide)

/-- But for the line of its query, an update binds no name of a record before it answers. -/
theorem storing_cases (m : Model) : ∀ line ∈ m.storing,
    line = "    let result = " ++ m.queryCall .update ∨ StoringLine m line := by
  have hquiet : ∀ line ∈ ["", "    match result \x7b", "        .execute(&pool)", "        .await;"],
      after? "        Ok(_)" line = none ∧ letNames line = [] := by
    decide
  have hplain : ∀ line ∈ ["", "    match result \x7b", "        .execute(&pool)", "        .await;"],
      StoringLine m line :=
    fun line hline => storingLine_of_none (hquiet line hline).1 (hquiet line hline).2
  simp only [List.forall_mem_cons] at hplain
  obtain ⟨hblank,houtcome,hexecute,hawait,_⟩ := hplain
  have hnil : ∀ line ∈ ([] : List String), line = "    let result = " ++ m.queryCall .update ∨
      StoringLine m line := fun _ hn => absurd hn List.not_mem_nil
  simp only [Model.storing, queryLines, List.forall_mem_append, List.forall_mem_cons,
    List.forall_mem_map]
  refine ⟨⟨⟨?_,?_⟩,⟨Or.inl trivial,?_⟩,?_⟩,?_⟩
  · exact fun line hline => Or.inr (refusalLines_storing line hline)
  · exact ⟨Or.inr (assignIdentifier_storing m),Or.inr hblank,hnil⟩
  · exact fun value _ => Or.inr (bind_storing value)
  · exact ⟨Or.inr hexecute,Or.inr hawait,hnil⟩
  · exact ⟨Or.inr hblank,Or.inr houtcome,hnil⟩

theorem storingLines_eq (m : Model) : m.storingLines = m.storing := by
  obtain ⟨after,hlines⟩ := updateLines_eq m
  rw [Model.storingLines, hlines]
  refine linesBetween_cons ?_ after
  intro line hline
  rcases storing_cases m line hline with rfl | h
  · exact call_ne_answer m .update
  · exact h.ne_answer

theorem query_subset_storingLines (m : Model) :
    queryLines (m.queryCall .update) (m.boundValues .update) "execute" ⊆ m.storingLines := by
  rw [storingLines_eq]
  exact fun line hline => List.mem_append_left _ (List.mem_append_right _ hline)

/-- The record is lost exactly if its variable has the name of the outcome of the query. -/
theorem recordSurvives_iff (m : Model) : m.RecordSurvives ↔ m.varIdent ≠ "result" := by
  constructor
  · intro h he
    refine h _ (query_subset_storingLines m List.mem_cons_self) ?_
    rw [letNames_call, he]
    exact List.mem_cons_self
  · intro h line hline
    rw [storingLines_eq] at hline
    rcases storing_cases m line hline with rfl | hs
    · rw [letNames_call]
      simpa using h
    · exact hs.keeps

/-- Only words that are not escaped are names of their own. -/
theorem ModelTies.varIdent_eq_iff (h : ModelTies policy .service s m) {name : String}
    (hmark : '#' ∉ name.toList) (hplain : Convention.service.safeName name = name) :
    m.varIdent = name ↔ m.varName = name := by
  rw [h.varIdent]
  constructor
  · intro he
    rcases safeName_cases m.varName with hv | hv
    · rw [← hv, he]
    · rw [hv] at he
      rw [← he, String.toList_append] at hmark
      exact absurd (List.mem_append_left _ (by decide)) hmark
  · rintro rfl
    exact hplain

theorem letNames_takesRecord (h : ModelTies policy .service s m)
    (hi : isIdentifier m.varName = true) : letNames m.takesRecord = [m.varIdent] := by
  have hlead : "    let Json(mut " = "    " ++ ("let " ++ "Json(mut ") := by decide
  have hclose : ") = match payload \x7b" = ") " ++ ("=" ++ " match payload \x7b") := by decide
  have hvar : ∀ c ∈ m.varName.toList, isNameChar c = true := by
    intro c hc
    rw [isNameChar, isIdentifier_chars hi c hc]
    rfl
  have hname : (∀ c ∈ m.varIdent.toList, isNameChar c = true) ∧
      bindsNothing m.varIdent.toList = false := by
    rw [h.varIdent, bindsNothing_eq_false]
    rcases safeName_cases m.varName with he | he
    · rw [he]
      refine ⟨hvar,?_,?_⟩
      · exact mt String.toList_eq_nil_iff.mp (isIdentifier_ne_empty hi)
      · intro hmut
        rw [String.toList_inj.mp hmut] at he
        exact absurd he (by decide)
    · have hmark : isNameChar 'r' = true ∧ isNameChar '#' = true := by decide
      rw [he, String.toList_append, List.forall_mem_append]
      exact ⟨⟨by simpa using hmark,hvar⟩,by simp,by simp⟩
  have hstop : '=' ∉ ("Json(mut " ++ m.varIdent ++ ") ").toList := by
    rw [String.toList_append, String.toList_append]
    simp only [List.mem_append, not_or]
    exact ⟨⟨by decide,fun hin => absurd (hname.1 _ hin) (by decide)⟩,by decide⟩
  have hread := letNames_let 4 hstop " match payload \x7b"
  unfold Model.takesRecord
  rw [← patternNames_mut hname.1 hname.2, ← hread, hlead, hclose]
  simp only [String.append_assoc]
  rfl

theorem Admitted.varIdent_notMem (h : Admitted policy s m) :
    ∀ o, ∀ p ∈ (m.handler o).parameters, p ≠ m.payloadParameter →
      m.varIdent ∉ patternNames p.name := by
  have hlocals : ∀ name ∈ ["pool", "id"], m.varIdent ≠ name := by
    have hfree : m.varName ∉ handlerLocals := h.notMem_handlerLocals
    have hplain : ∀ name ∈ ["pool", "id"], name ∈ handlerLocals ∧ '#' ∉ name.toList ∧
        Convention.service.safeName name = name := by
      decide
    intro name hname
    obtain ⟨hlocal,hmark,hsafe⟩ := hplain name hname
    rw [Ne, h.ties.varIdent_eq_iff hmark hsafe]
    rintro rfl
    exact hfree hlocal
  have hstate : patternNames Model.stateParameter.name = ["pool"] := by decide
  have hpath : patternNames m.pathParameter.name = ["id"] :=
    (by decide : patternNames "Path(id)" = ["id"])
  intro o p hp hne
  have hcases : p = Model.stateParameter ∨ p = m.pathParameter ∨ p = m.payloadParameter := by
    revert hp
    cases o <;> simp [Model.handler, Model.handlerParameters] <;> tauto
  rcases hcases with rfl | rfl | rfl
  · rw [hstate, List.mem_singleton]
    exact hlocals "pool" (by decide)
  · rw [hpath, List.mem_singleton]
    exact hlocals "id" (by decide)
  · exact absurd rfl hne

theorem Admitted.recordUse (h : Admitted policy s m) : RecordUse m := by
  have hlines := updateLines_eq m
  rw [← storingLines_eq] at hlines
  refine ⟨handler_in_content m .update,hlines,letNames_takesRecord h.ties,?_,h.varIdent_notMem⟩
  intro f hf
  refine query_subset_storingLines m (List.mem_append_left _ (List.mem_cons_of_mem _ ?_))
  have hvalue : "&" ++ m.varIdent ++ "." ++ f.ident ∈ m.boundValues .update :=
    List.mem_map.mpr ⟨.field f.ident,List.mem_append_left _ (List.mem_map_of_mem hf),rfl⟩
  refine List.mem_map.mpr ⟨_,hvalue,?_⟩
  have hopen : "        .bind(&" = "        .bind(" ++ "&" := by decide
  rw [hopen]
  simp only [String.append_assoc]

/-- Whatever the policy, an update of an accepted model answers with the record that it stores
exactly if the policy does not call the variable of the model `result`. No parameter of a handler is
in its way. -/
theorem modelsOf_record_survives (policy : NamingPolicy) (schemas : List Schema)
    (models : List Model) (h : modelsOf policy schemas = .ok models) :
    List.Forall₂ (fun s m => RecordUse m ∧
      (m.RecordSurvives ↔ policy.varName s.name ≠ "result")) schemas models := by
  refine (modelsOf_eq_ok_iff.mp h).1.imp fun s m had => ⟨had.recordUse,?_⟩
  have hresult : m.varIdent = "result" ↔ m.varName = "result" :=
    had.ties.varIdent_eq_iff (by decide) (by decide)
  rw [recordSurvives_iff, Ne, hresult, had.ties.varName]

/-- A keyword as the name of a model leaves the record alone. -/
theorem type_record_survives :
    modelsOf PluralPolicy.naive [keyOnlySchema "Type"] =
      .ok [keyOnlyModel "Type" "type" "r#type" "types"] ∧
    RecordUse (keyOnlyModel "Type" "type" "r#type" "types") ∧
    (keyOnlyModel "Type" "type" "r#type" "types").RecordSurvives := by
  have hm : modelsOf PluralPolicy.naive [keyOnlySchema "Type"] =
      .ok [keyOnlyModel "Type" "type" "r#type" "types"] := by
    decide +kernel
  obtain ⟨⟨huse,hiff⟩,_⟩ := List.forall₂_cons.mp (modelsOf_record_survives _ _ _ hm)
  exact ⟨hm,huse,hiff.mpr (by decide +kernel)⟩

/-- A model called `RESULT` is accepted, and its record is lost to the outcome of the query. -/
theorem result_record_lost :
    modelsOf PluralPolicy.naive [keyOnlySchema "RESULT"] =
      .ok [keyOnlyModel "RESULT" "result" "result" "results"] ∧
    ¬ (keyOnlyModel "RESULT" "result" "result" "results").RecordSurvives := by
  refine ⟨by decide +kernel,?_⟩
  rw [recordSurvives_iff, not_not]
  rfl

end RestScaffold
