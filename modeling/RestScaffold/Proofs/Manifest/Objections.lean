import RestScaffold.Proofs.Manifest.Names

/-! # Which model name is refused, and why

The names of models are refused over the first one that does not go with those before it. What is
said against it is decided in a fixed order: it is a keyword, it is no identifier, its lower case is
a word of the module tree, or its lower case is that of an earlier name, the earliest such name
being the one that is mentioned.
-/
namespace RestScaffold

theorem checkName_eq_error_iff {use : NameUse} {name : String} {fault : NameFault} :
    checkName use name = .error fault ↔ (isKeyword name = true ∧ .keyword use name = fault) ∨
      ∃ reason, isKeyword name = false ∧ identifierFault? name = some reason ∧
        .notIdentifier use name reason = fault := by
  unfold checkName
  cases isKeyword name with
  | true => simp
  | false => cases identifierFault? name <;> simp

/-- What can be said against a model name that comes after the names `before`. -/
inductive Objection (before : List String) (name : String) : NameFault → Prop
  | keyword (hkeyword : isKeyword name = true) : Objection before name (.keyword .model name)
  | notIdentifier {reason : IdentifierFault} (hkeyword : isKeyword name = false)
      (hreason : identifierFault? name = some reason) :
      Objection before name (.notIdentifier .model name reason)
  | pathKeyword (hkeyword : isKeyword name = false) (hident : isIdentifier name = true)
      (hpath : lowercase name ∈ pathKeywords) : Objection before name (.pathKeyword name)
  | sameModule {earlier later : List String} {first : String} (hname : ModuleName name)
      (hbefore : before = earlier ++ first :: later) (hsame : lowercase first = lowercase name)
      (hearlier : ∀ other ∈ earlier, lowercase other ≠ lowercase name) :
      Objection before name (.sameModule first name)

variable {before names : List String} {name : String} {fault : NameFault}

theorem Objection.subject (h : Objection before name fault) : fault.subject = name := by
  cases h <;> rfl

theorem checkModelName_eq_error_iff :
    checkModelName before name = .error fault ↔ Objection before name fault := by
  rw [checkModelName, bind_eq_error_iff]
  constructor
  · rintro (h | ⟨_,hname,h⟩)
    · rcases checkName_eq_error_iff.mp h with ⟨hkeyword,rfl⟩ | ⟨reason,hkeyword,hreason,rfl⟩
      · exact .keyword hkeyword
      · exact .notIdentifier hkeyword hreason
    obtain ⟨hkeyword,hident⟩ := checkName_eq_ok_iff.mp hname
    by_cases hpath : lowercase name ∈ pathKeywords
    · rw [if_pos (by simpa using hpath)] at h
      cases h
      exact .pathKeyword hkeyword hident hpath
    · rw [if_neg (by simpa using hpath)] at h
      cases hfind : before.find? (fun first => lowercase first == lowercase name) with
      | none =>
        rw [hfind] at h
        cases h
      | some first =>
        rw [hfind] at h
        cases h
        obtain ⟨hsame,earlier,later,hbefore,hearlier⟩ := List.find?_eq_some_iff_append.mp hfind
        exact .sameModule ⟨hkeyword,hident,hpath⟩ hbefore (by simpa using hsame)
          (by simpa using hearlier)
  · intro h
    cases h with
    | keyword hkeyword => exact Or.inl (checkName_eq_error_iff.mpr (Or.inl ⟨hkeyword,rfl⟩))
    | notIdentifier hkeyword hreason =>
      exact Or.inl (checkName_eq_error_iff.mpr (Or.inr ⟨_,hkeyword,hreason,rfl⟩))
    | pathKeyword hkeyword hident hpath =>
      refine Or.inr ⟨(),checkName_eq_ok_iff.mpr ⟨hkeyword,hident⟩,?_⟩
      rw [if_pos (by simpa using hpath)]
      rfl
    | @sameModule earlier later first hname hbefore hsame hearlier =>
      refine Or.inr ⟨(),checkName_eq_ok_iff.mpr ⟨hname.not_keyword,hname.identifier⟩,?_⟩
      have hfind : before.find? (fun first => lowercase first == lowercase name) = some first :=
        List.find?_eq_some_iff_append.mpr
          ⟨by simpa using hsame,earlier,later,hbefore,by simpa using hearlier⟩
      rw [if_neg (by simpa using hname.not_path), hfind]
      rfl

theorem checkModelNamesAfter_eq_error_iff :
    checkModelNamesAfter before names = .error fault ↔ ∃ front name back,
      names = front ++ name :: back ∧ checkModelNamesAfter before front = .ok () ∧
        checkModelName (before ++ front) name = .error fault := by
  induction names generalizing before with
  | nil =>
    constructor
    · intro h
      cases h
    · rintro ⟨front,name,back,h,_⟩
      simp at h
  | cons name rest ih =>
    rw [checkModelNamesAfter, bind_eq_error_iff]
    constructor
    · rintro (h | ⟨_,hname,h⟩)
      · exact ⟨[],name,rest,rfl,rfl,by rwa [List.append_nil]⟩
      · obtain ⟨front,blamed,back,rfl,hfront,hblamed⟩ := ih.mp h
        refine ⟨name :: front,blamed,back,rfl,bind_eq_ok_iff.mpr ⟨(),hname,hfront⟩,?_⟩
        rwa [List.append_cons]
    · rintro ⟨front,blamed,back,h,hfront,hblamed⟩
      cases front with
      | nil =>
        obtain ⟨rfl,rfl⟩ := List.cons.inj h
        rw [List.append_nil] at hblamed
        exact Or.inl hblamed
      | cons first front =>
        obtain ⟨rfl,rfl⟩ := List.cons.inj h
        obtain ⟨_,hfirst,hfront⟩ := bind_eq_ok_iff.mp hfront
        rw [List.append_cons] at hblamed
        exact Or.inr ⟨(),hfirst,ih.mpr ⟨front,blamed,back,rfl,hfront,hblamed⟩⟩

/-- What is said against a name keeps it from being taken with those before it. -/
theorem Objection.not_moduleNames (h : Objection before name fault) :
    ¬ ModuleNames (before ++ [name]) := by
  intro hnames
  have hdistinct : ∀ first ∈ before, lowercase first ≠ lowercase name := fun first hfirst =>
    (List.pairwise_append.mp hnames.distinct).2.2 first hfirst name List.mem_cons_self
  have hok := checkModelName_eq_ok_iff.mpr ⟨hnames.each name (by simp),hdistinct⟩
  rw [checkModelName_eq_error_iff.mpr h] at hok
  cases hok

/-- Model names are taken if and only if each of them is an identifier, no keyword and in lower case
no word of the module tree, and no two are the same in lower case. Otherwise the fault is that of the
first name that cannot be taken with those before it, and the other name of a clash is the earliest
one with the same lower case. -/
theorem checkModelNames_objects (names : List String) :
    (checkModelNames names = .ok () ↔ ModuleNames names) ∧
    ∀ fault, checkModelNames names = .error fault ↔ ∃ front name back,
      names = front ++ name :: back ∧ ModuleNames front ∧ ¬ ModuleNames (front ++ [name]) ∧
        fault.subject = name ∧ Objection front name fault := by
  refine ⟨checkModelNames_eq_ok_iff,?_⟩
  intro fault
  rw [checkModelNames, checkModelNamesAfter_eq_error_iff]
  constructor
  · rintro ⟨front,name,back,rfl,hfront,hname⟩
    have hobjection := checkModelName_eq_error_iff.mp hname
    exact ⟨front,name,back,rfl,checkModelNames_eq_ok_iff.mp hfront,hobjection.not_moduleNames,
      hobjection.subject,hobjection⟩
  · rintro ⟨front,name,back,rfl,hfront,_,_,hobjection⟩
    exact ⟨front,name,back,rfl,checkModelNames_eq_ok_iff.mpr hfront,
      checkModelName_eq_error_iff.mpr hobjection⟩

end RestScaffold
