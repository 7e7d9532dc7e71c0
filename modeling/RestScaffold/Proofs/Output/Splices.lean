import RestScaffold.Proofs.Generation.Routing
import RestScaffold.Proofs.Naming.Plural
import RestScaffold.Proofs.Output.Contents

/-! # Plurals that are spliced into code

The plural of a model goes into the name of a handler, and the path into a string literal and into
documentation. Neither is checked once it is made: a plural that is made by the ending of a name is
an identifier, but an override is taken as it is, whatever characters it has.
-/
namespace RestScaffold
variable {policy : PluralPolicy} {s : Schema} {m : Model}

/-- The override that counts for a name, if there is any, is an identifier in lower case. -/
def PluralPolicy.Spliceable (p : PluralPolicy) (name : String) : Prop :=
  ∀ q ∈ p.override? name, isIdentifier (lowercase q) = true

/-- Nothing in a text ends a string literal, a word or a line. -/
def Unbreaking (t : String) : Prop :=
  ∀ c ∈ t.toList, c ≠ '"' ∧ c ≠ ' ' ∧ c ≠ '\n' ∧ c ≠ '\r'

instance (t : String) : Decidable (Unbreaking t) := List.decidableBAll _ t.toList

/-- Where the names of a model stand in the files that are generated for it. -/
structure Splices (m : Model) : Prop where
  heading : ∀ o, Occurs ("/// " ++ m.handlerDoc o ++ "\npub async fn " ++ m.handlerName o ++ "(")
    m.handlerFile.content
  nested : ∀ models, m ∈ models →
    Occurs (".nest(\"" ++ m.collectionRoute ++ "\", ") (routerFile models).content
  documented : ∀ models, m ∈ models →
    Occurs ("/// Routes for `" ++ m.name ++ "`, nested at `" ++ m.collectionRoute ++ "`.\n")
      (routerFile models).content

/-- The names of handlers and the routes break nothing that they are spliced into. -/
structure CleanSplices (m : Model) : Prop where
  handlerName : ∀ o, Unbreaking (m.handlerName o)
  collectionRoute : Unbreaking m.collectionRoute
  memberRoute : Unbreaking m.memberRoute

theorem unbreaking_append {a b : String} : Unbreaking (a ++ b) ↔ Unbreaking a ∧ Unbreaking b := by
  simp only [Unbreaking, String.toList_append]
  exact List.forall_mem_append

theorem IdentifierChars.unbreaking {t : String} (h : IdentifierChars t) : Unbreaking t := by
  intro c hc
  have hother : ∀ d, continuesIdentifier d = false → c ≠ d := by
    rintro d hd rfl
    exact Bool.noConfusion ((h c hc).symm.trans hd)
  exact ⟨hother '"' (by decide),hother ' ' (by decide),hother '\n' (by decide),
    hother '\r' (by decide)⟩

theorem splices (m : Model) : Splices m := by
  refine ⟨occurs_handler m,?_,?_⟩
  · intro models hm
    have hlead : "        .nest(\"/" = "        " ++ (".nest(\"" ++ "/") := by decide
    refine Occurs.trans ⟨"        ",m.routesName ++ "())",?_⟩ (occurs_nest hm)
    unfold nestLine Model.collectionRoute
    rw [hlead]
    simp only [String.append_assoc]
  · intro models hm
    have hin : .function m.routesFunction ∈ (routerFile models).source.items :=
      List.mem_map_of_mem (List.mem_cons_of_mem _ (List.mem_cons_of_mem _ (List.mem_map_of_mem hm)))
    have hheading := occurs_heading rfl hin rfl (by simp) rfl
    refine Occurs.trans ⟨"",m.routesFunction.header ++ "(",?_⟩ hheading
    have hlead : "/// Routes for `" = "/// " ++ "Routes for `" := by decide
    have hnested : "`, nested at `/" = "`, nested at `" ++ "/" := by decide
    have hend : "`.\n" = "`." ++ "\n" := by decide
    unfold Model.collectionRoute
    rw [hlead, hnested, hend]
    simp only [String.empty_append, String.append_assoc]

theorem cleanSplices (hv : isIdentifier m.varName = true) (hp : isIdentifier m.varNamePlural = true)
    (hr : isIdentifier m.pathPlural = true) : CleanSplices m := by
  have hvar := (isIdentifier_chars hv).unbreaking
  have hplural := (isIdentifier_chars hp).unbreaking
  have hpath := (isIdentifier_chars hr).unbreaking
  have hroute : Unbreaking m.collectionRoute := unbreaking_append.mpr ⟨by decide,hpath⟩
  refine ⟨?_,hroute,unbreaking_append.mpr ⟨hroute,by decide⟩⟩
  intro o
  cases o
  case list => exact unbreaking_append.mpr ⟨by decide,hplural⟩
  all_goals exact unbreaking_append.mpr ⟨by decide,hvar⟩

/-- Under any layers of overrides the variable of a model is an identifier. Its plural and its path
are identifiers exactly if the override that counts for the model is one in lower case or there is
none, and then they break nothing that they are spliced into. -/
theorem ofSchema_splices (policy : PluralPolicy) (s : Schema) (m : Model)
    (h : Model.ofSchema policy .service s = .ok m) :
    Splices m ∧ isIdentifier m.varName = true ∧
    (isIdentifier m.varNamePlural = true ∧ isIdentifier m.pathPlural = true ↔
      policy.Spliceable s.name) ∧
    (policy.Spliceable s.name → CleanSplices m) := by
  have ht := ofSchema_eq_ok_iff.mp h
  have hname := ht.name_identifier
  have hvar := isIdentifier_varName policy.lowersNames ht
  have hiff : isIdentifier m.varNamePlural = true ∧ isIdentifier m.pathPlural = true ↔
      policy.Spliceable s.name := by
    have hplural := PluralPolicy.isIdentifier_varNamePlural_iff (p := policy) hname
    have hpath := PluralPolicy.isIdentifier_pathSegment (p := policy) hname
    rw [ht.varNamePlural, ht.pathPlural]
    constructor
    · rintro ⟨hp,_⟩
      exact hplural.mp hp
    · intro hq
      exact ⟨hplural.mpr hq,hpath hq⟩
  refine ⟨splices m,hvar,hiff,?_⟩
  intro hq
  obtain ⟨hp,hr⟩ := hiff.mpr hq
  exact cleanSplices hvar hp hr

/-- An irregular plural that is an identifier is spliced like any other. -/
theorem people_spliced : Model.ofSchema peoplePolicy.naming .service (keyOnlySchema "Person") =
      .ok (keyOnlyModel "Person" "person" "person" "people") ∧
    peoplePolicy.Spliceable "Person" ∧
    CleanSplices (keyOnlyModel "Person" "person" "person" "people") := by
  have hm : Model.ofSchema peoplePolicy.naming .service (keyOnlySchema "Person") =
      .ok (keyOnlyModel "Person" "person" "person" "people") := by
    decide +kernel
  obtain ⟨_,_,hiff,hclean⟩ := ofSchema_splices peoplePolicy _ _ hm
  have hq : peoplePolicy.Spliceable "Person" := hiff.mp ⟨by decide,by decide⟩
  exact ⟨hm,hq,hclean hq⟩

/-- Two layers, of which the outer one has a plural with quotes, a space and a line break. -/
def brokenPolicy : PluralPolicy :=
  .irregular (.ofPairs [("Person", "The \"People\"\n")]) peoplePolicy

/-- The model is composed all the same, and its handler and its routes are broken. -/
theorem broken_plural_spliced : ∃ m,
    Model.ofSchema brokenPolicy.naming .service (keyOnlySchema "Person") = .ok m ∧
    isIdentifier m.varName = true ∧ isIdentifier m.varNamePlural = false ∧
    isIdentifier m.pathPlural = false ∧ m.handlerName .list = "list_the \"people\"\n" ∧
    m.handlerDoc .list = "GET /the \"people\"\n" ∧ ¬ Unbreaking (m.handlerName .list) ∧
    ¬ Unbreaking m.collectionRoute := by
  refine ⟨{ keyOnlyModel "Person" "person" "person" "the \"people\"\n" with
    tableName := "the_people" },?_⟩
  decide +kernel

end RestScaffold
