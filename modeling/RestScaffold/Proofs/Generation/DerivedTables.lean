import RestScaffold.Proofs.Generation.Paths
import RestScaffold.Proofs.Naming.SharedTables

/-! # Tables that models share

The models of a batch are kept apart by their variables and their paths, and nothing is asked of
their tables. Two that leave their tables to the policy share one exactly if the policy derives it
from both names.
-/
namespace RestScaffold
variable {policy : NamingPolicy} {schemas : List Schema} {models : List Model}

theorem tableName_of_undeclared {s : Schema} {m : Model} (h : ModelTies policy .service s m)
    (hnone : s.table = none) : m.tableName = policy.tableName s.name := by
  have htable := h.table
  rw [Model.tableOf, hnone] at htable
  exact (Except.ok.inj htable).symm

/-- Two models of a batch that leave their tables to the policy. -/
structure TablePair (policy : NamingPolicy) (x y : Schema × Model) : Prop where
  varName : policy.varName x.1.name ≠ policy.varName y.1.name
  path : policy.pathSegment x.1.name ≠ policy.pathSegment y.1.name
  table : x.2.tableName = y.2.tableName ↔
    policy.tableName x.1.name = policy.tableName y.1.name

theorem pairwise_zip (h : modelsOf policy schemas = .ok models) :
    (schemas.zip models).Pairwise fun x y => Admitted policy x.1 x.2 ∧ Admitted policy y.1 y.2 ∧
      y.2.clash x.2 = none := by
  obtain ⟨hadmitted,hclash⟩ := modelsOf_eq_ok_iff.mp h
  obtain ⟨hlength,hzip⟩ := List.forall₂_iff_zip.mp hadmitted
  have hmodels : (schemas.zip models).map Prod.snd = models :=
    List.map_snd_zip (Nat.le_of_eq hlength.symm)
  rw [← hmodels, List.pairwise_map] at hclash
  exact hclash.imp_of_mem fun hx hy hc => ⟨hzip hx,hzip hy,hc⟩

theorem Admitted.tablePair {x y : Schema × Model} (hx : Admitted policy x.1 x.2)
    (hy : Admitted policy y.1 y.2) (hclash : y.2.clash x.2 = none) (hxn : x.1.table = none)
    (hyn : y.1.table = none) : TablePair policy x y := by
  obtain ⟨hvar,hpath⟩ := clash_eq_none_iff.mp hclash
  rw [hx.ties.varName, hy.ties.varName] at hvar
  rw [hx.ties.pathPlural, hy.ties.pathPlural] at hpath
  refine ⟨hvar,hpath,?_⟩
  rw [tableName_of_undeclared hx.ties hxn, tableName_of_undeclared hy.ties hyn]

/-- Two models that leave their tables to the policy share one exactly if the policy derives it from
both names. With plurals that have exceptions this is so for the names whose plurals agree in snake
case, or in all but their endings, and it is never so for plain ones, whose paths would agree. -/
theorem modelsOf_sharedTables_iff (policy : NamingPolicy) (schemas : List Schema)
    (models : List Model) (h : modelsOf policy schemas = .ok models) :
    (schemas.zip models).Pairwise fun x y => x.1.table = none → y.1.table = none →
      TablePair policy x y ∧ ∀ plurals : PluralPolicy, policy = plurals.naming →
        (x.2.tableName = y.2.tableName ↔ plurals.SameTable x.1.name y.1.name) ∧
        (plurals.PlainPlural x.1.name → plurals.PlainPlural y.1.name →
          x.2.tableName ≠ y.2.tableName) := by
  refine (pairwise_zip h).imp ?_
  rintro x y ⟨hx,hy,hclash⟩ hxn hyn
  have hpair := hx.tablePair hy hclash hxn hyn
  refine ⟨hpair,?_⟩
  rintro plurals rfl
  refine ⟨hpair.table.trans (plurals.tableName_eq_iff x.1.name y.1.name),?_⟩
  intro hplain hplain' he
  exact hpair.path (PluralPolicy.pathSegment_eq_of_tableName_eq hx.ties.name_identifier
    hy.ties.name_identifier hplain hplain' (hpair.table.mp he))

/-- Plurals with one exception. -/
def peoplePlurals : PluralPolicy := .irregular (.ofPairs [("Person", "People")]) .naive

/-- The model of a schema with nothing but an identifier, whose table has words of its own. -/
def tabledModel (name varName plural table : String) : Model :=
  { keyOnlyModel name varName varName plural with tableName := table }

theorem people_profiles_apart :
    modelsOf peoplePlurals [keyOnlySchema "Person", keyOnlySchema "UserProfile"] =
      .ok [keyOnlyModel "Person" "person" "person" "people",
        tabledModel "UserProfile" "userprofile" "userprofiles" "user_profiles"] ∧
    peoplePlurals.PlainPlural "Person" ∧ peoplePlurals.PlainPlural "UserProfile" ∧
    ¬peoplePlurals.SameTable "Person" "UserProfile" := by
  have hm : modelsOf peoplePlurals [keyOnlySchema "Person", keyOnlySchema "UserProfile"] =
      .ok [keyOnlyModel "Person" "person" "person" "people",
        tabledModel "UserProfile" "userprofile" "userprofiles" "user_profiles"] := by
    decide +kernel
  have hperson : peoplePlurals.PlainPlural "Person" := by decide +kernel
  have hprofile : peoplePlurals.PlainPlural "UserProfile" := by decide +kernel
  have hpairs := modelsOf_sharedTables_iff peoplePlurals _ _ hm
  obtain ⟨_,hshared⟩ := (List.pairwise_cons.mp hpairs).1 _ List.mem_cons_self rfl rfl
  obtain ⟨hsame,hapart⟩ := hshared peoplePlurals rfl
  exact ⟨hm,hperson,hprofile,mt hsame.mpr (hapart hperson hprofile)⟩

/-- Two models are accepted and share a table, since snake case takes an underscore for the end of
a word. -/
theorem profiles_share_table : ∃ m m',
    modelsOf PluralPolicy.naive [keyOnlySchema "UserProfile", keyOnlySchema "User_Profile"] =
      .ok [m, m'] ∧
    (keyOnlySchema "UserProfile").table = none ∧ (keyOnlySchema "User_Profile").table = none ∧
    m.name ≠ m'.name ∧ m.tableName = "user_profiles" ∧ m'.tableName = "user_profiles" := by
  have hm : modelsOf PluralPolicy.naive
      [keyOnlySchema "UserProfile", keyOnlySchema "User_Profile"] =
      .ok [tabledModel "UserProfile" "userprofile" "userprofiles" "user_profiles",
        tabledModel "User_Profile" "user_profile" "user_profiles" "user_profiles"] := by
    decide +kernel
  exact ⟨_,_,hm,rfl,rfl,by decide,rfl,rfl⟩

end RestScaffold
