import RestScaffold.Proofs.Manifest.Body
import RestScaffold.Proofs.Output.Records
import RestScaffold.Proofs.Text.Lowered

/-! # Keys of records

The fields that a body declares differ in snake case, but their keys are their tags, or their names in
lower case. Two fields can therefore come to the same key and are exchanged as one.
-/
namespace RestScaffold
open Toml
variable {policy : NamingPolicy} {key : String} {item : Value} {f g : Field}

/-- The entry of a field that gives it a tag. -/
def Tagged (item : Value) (tag : String) : Prop :=
  tag ≠ "" ∧ ∃ entries, item = .table entries ∧ entries.lookup "tag" = some (.text tag)

/-- The entry of a field that gives it no tag but this name. -/
def Untagged (item : Value) (name : String) : Prop :=
  NamesField item name ∧ ∀ tag, ¬ Tagged item tag

/-- The key that the entry of a field leads to. -/
def GivesKey (item : Value) (key : String) : Prop :=
  Tagged item key ∨ ∃ name, Untagged item name ∧ lowercase name = key

def KeysApart (a b : Value) : Prop := ∀ key, GivesKey a key → ¬ GivesKey b key

/-- The entry of a field leads to one key, which is the tag of the field. -/
theorem DeclaresField.givesKey_iff (h : DeclaresField item f) : GivesKey item key ↔ f.tag = key := by
  have hnames : ∀ {n}, NamesField item n ↔ f.name = n := h.namesField_iff
  obtain ⟨entries,rfl,_,_,_,⟨tag,hentry,htag⟩⟩ := h
  have htagged : ∀ {t}, Tagged (.table entries) t ↔ t ≠ "" ∧ tag = some t := by
    intro t
    refine and_congr_right fun _ => ?_
    constructor
    · rintro ⟨_,he,hlookup⟩
      cases he
      obtain ⟨u,rfl,hu⟩ := Option.map_eq_some_iff.mp (hentry.symm.trans hlookup)
      cases hu
      rfl
    · rintro rfl
      exact ⟨entries,rfl,hentry⟩
  by_cases hempty : tag.getD "" = ""
  · have hnone : ∀ t, ¬ Tagged (.table entries) t := by
      intro t ht
      obtain ⟨hne,rfl⟩ := htagged.mp ht
      exact hne hempty
    rw [if_pos hempty] at htag
    rw [htag]
    constructor
    · rintro (ht | ⟨n,⟨hn,_⟩,hkey⟩)
      · exact absurd ht (hnone key)
      · rw [hnames.mp hn, hkey]
    · intro hkey
      exact Or.inr ⟨f.name,⟨hnames.mpr rfl,hnone⟩,hkey⟩
  · obtain ⟨t,rfl⟩ : ∃ t, tag = some t := by
      cases tag with
      | none => exact absurd rfl hempty
      | some t => exact ⟨t,rfl⟩
    rw [if_neg hempty] at htag
    have hgiven : Tagged (.table entries) t := htagged.mpr ⟨hempty,rfl⟩
    rw [htag]
    constructor
    · rintro (ht | ⟨n,⟨_,hn⟩,_⟩)
      · exact Option.some.inj (htagged.mp ht).2
      · exact absurd hgiven (hn t)
    · rintro rfl
      exact Or.inl hgiven

theorem DeclaresField.tag_eq_name (h : DeclaresField item f) (hu : Untagged item f.name)
    (hf : LowerIdentifier f.name) : f.tag = f.name :=
  h.givesKey_iff.mp (Or.inr ⟨f.name,hu,hf.lowercase_eq⟩)

/-- Names that differ in snake case give different keys if they have no upper case letters. -/
theorem keysApart_of_lower {a b : Value} (ha : DeclaresField a f) (hb : DeclaresField b g)
    (hf : isIdentifier f.name = true) (hg : isIdentifier g.name = true)
    (hne : snakeCase f.name ≠ snakeCase g.name) {n n' : String} (hn : Untagged a n)
    (hn' : Untagged b n') (hlow : hasUppercase n = false) (hlow' : hasUppercase n' = false) :
    KeysApart a b := by
  obtain rfl := ha.namesField_iff.mp hn.1
  obtain rfl := hb.namesField_iff.mp hn'.1
  intro key h h'
  rw [ha.givesKey_iff, ha.tag_eq_name hn ⟨hf,hlow⟩] at h
  rw [hb.givesKey_iff, hb.tag_eq_name hn' ⟨hg,hlow'⟩] at h'
  exact hne (by rw [h, h'])

/-- What the entries in a body have to do with the fields of the record that is generated. -/
structure RecordKeys (items : List Value) (declarations : List FieldDeclaration) : Prop where
  given : List.Forall₂ (fun item d => GivesKey item d.key) items declarations
  nodup_iff : (declarations.map FieldDeclaration.key).Nodup ↔ items.Pairwise KeysApart
  lower : items.Pairwise fun a b => ∀ n n', Untagged a n → Untagged b n' →
    hasUppercase n = false → hasUppercase n' = false → KeysApart a b

theorem recordKeys {items : List Value} {s : Schema} {m : Model}
    (hitems : List.Forall₂ DeclaresField items s.fields)
    (hdistinct : s.fields.Pairwise fun f g => snakeCase f.name ≠ snakeCase g.name)
    (h : ModelTies policy .service s m) :
    RecordKeys items (m.fields.map ModelField.declaration) := by
  have hkeys : (m.fields.map ModelField.declaration).map FieldDeclaration.key =
      s.fields.map Field.tag := by
    rw [List.map_map]
    exact map_eq_map_of_forall₂ h.fields fun _ _ hf => hf.faithful.key
  have hidentifier : ∀ f ∈ s.fields, isIdentifier f.name = true := by
    intro f hf
    obtain ⟨_,_,hties⟩ := exists_of_mem_right h.fields.flip hf
    exact hties.name_identifier
  refine ⟨?_,?_,?_⟩
  · have hgiven : List.Forall₂ GivesKey items (s.fields.map Field.tag) := by
      rw [List.forall₂_map_right_iff]
      exact hitems.imp fun _ _ hf => hf.givesKey_iff.mpr rfl
    rwa [← hkeys, List.forall₂_map_right_iff] at hgiven
  · rw [hkeys, List.nodup_iff_pairwise_ne, List.pairwise_map]
    refine (pairwise_iff_of_forall₂ hitems ?_).symm
    intro a f b g ha hb
    constructor
    · intro hall he
      exact hall f.tag (ha.givesKey_iff.mpr rfl) (hb.givesKey_iff.mpr he.symm)
    · intro hne key hk hk'
      exact hne ((ha.givesKey_iff.mp hk).trans (hb.givesKey_iff.mp hk').symm)
  · have hpair : s.fields.Pairwise fun f g => isIdentifier f.name = true ∧
        isIdentifier g.name = true ∧ snakeCase f.name ≠ snakeCase g.name :=
      hdistinct.imp_of_mem fun hf hg hne => ⟨hidentifier _ hf,hidentifier _ hg,hne⟩
    refine pairwise_of_forall₂ hitems ?_ hpair
    rintro a f b g ha hb ⟨hf,hg,hne⟩ n n' hn hn' hlow hlow'
    exact keysApart_of_lower ha hb hf hg hne hn hn' hlow hlow'

/-- The record of a body that declares a schema has the keys that the entries of its fields give, and
they differ exactly if no two of these entries lead to one key. The check on names in snake case only
sees to that for names without upper case letters. -/
theorem schemaOf_keys_nodup_iff (policy : NamingPolicy) (name : String) (body : Value) (s : Schema)
    (m : Model) (hs : schemaOf name body = .ok s) (hm : Model.ofSchema policy .service s = .ok m) :
    (∀ models, m ∈ models → Occurs (unlines (("pub struct " ++ name ++ " \x7b") ::
      (m.recordLines ++ ["\x7d"]))) (recordsFile models).content) ∧
    ∃ entries items declarations, body = .table entries ∧
      entries.lookup "fields" = some (.array items) ∧
      readFields none m.recordLines = some declarations ∧ RecordKeys items declarations := by
  obtain ⟨hname,⟨entries,items,hbody,_,_,hfields,hitems⟩,hdistinct⟩ := schemaOf_eq_ok_iff.mp hs
  have ht := ofSchema_eq_ok_iff.mp hm
  exact ⟨fun models => hname ▸ ht.occurs_recordLines,entries,items,_,hbody,hfields,ht.readFields,
    recordKeys hitems hdistinct ht⟩

/-- The entry of a field with a name, of the type of texts. -/
def textField (name : String) (tag : Option String) : Value :=
  .table ([("name",.text name), ("type",.text "string")] ++
    (tag.map fun t => ("tag",.text t)).toList)

/-- A body with an identifier and two more fields, whose names only differ in case. -/
def itemBody (tag : Option String) : Value :=
  .table [("fields",.array [.table [("name",.text "ID"), ("type",.text "int")],
    textField "userName" tag, textField "username" none])]

def itemSchema (tag : String) : Schema :=
  ⟨"Item",none,[⟨"ID",.int,"id"⟩, ⟨"userName",.string,tag⟩, ⟨"username",.string,"username"⟩]⟩

/-- The model of such a body, `tag` being the key of its second field. -/
def itemModel (tag : String) : Model where
  name := "Item"
  varName := "item"
  varNamePlural := "items"
  varIdent := "item"
  varIdentPlural := "items"
  pathPlural := "items"
  tableName := "items"
  fields := [⟨"ID","id","id",.int,"id"⟩, ⟨"userName","user_name","user_name",.string,tag⟩,
    ⟨"username","username","username",.string,"username"⟩]
  identifier := ⟨"ID","id","id",.int,"id"⟩

/-- A tag tells the two fields apart. -/
theorem tagged_item_keys :
    schemaOf "Item" (itemBody (some "user")) = .ok (itemSchema "user") ∧
    Model.ofSchema NamingPolicy.naive .service (itemSchema "user") = .ok (itemModel "user") ∧
    ∃ items declarations, readFields none (itemModel "user").recordLines = some declarations ∧
      RecordKeys items declarations ∧ items.Pairwise KeysApart ∧
      declarations.map FieldDeclaration.key = ["id", "user", "username"] := by
  have hs : schemaOf "Item" (itemBody (some "user")) = .ok (itemSchema "user") := by
    decide +kernel
  have hm : Model.ofSchema NamingPolicy.naive .service (itemSchema "user") =
      .ok (itemModel "user") := by
    decide +kernel
  have hread : (readFields none (itemModel "user").recordLines).map
      (List.map FieldDeclaration.key) = some ["id", "user", "username"] := by
    decide +kernel
  obtain ⟨_,_,items,declarations,_,_,hdeclarations,hkeys⟩ := schemaOf_keys_nodup_iff _ _ _ _ _ hs hm
  rw [hdeclarations] at hread
  have hread := Option.some.inj hread
  have hnodup : (declarations.map FieldDeclaration.key).Nodup := by
    rw [hread]
    decide
  exact ⟨hs,hm,items,declarations,hdeclarations,hkeys,hkeys.nodup_iff.mp hnodup,hread⟩

/-- Without a tag both fields are accepted, and both are exchanged as `username`. -/
theorem untagged_item_keys_clash :
    schemaOf "Item" (itemBody none) = .ok (itemSchema "username") ∧
    Model.ofSchema NamingPolicy.naive .service (itemSchema "username") =
      .ok (itemModel "username") ∧
    ∃ declarations, readFields none (itemModel "username").recordLines = some declarations ∧
      ¬ (declarations.map FieldDeclaration.key).Nodup := by
  refine ⟨by decide +kernel,by decide +kernel,[⟨"id",none,"i64"⟩,
    ⟨"user_name",some "username","String"⟩, ⟨"username",none,"String"⟩],by decide +kernel,?_⟩
  have hkeys : FieldDeclaration.key ⟨"user_name",some "username","String"⟩ =
      FieldDeclaration.key ⟨"username",none,"String"⟩ := by
    decide
  simp [hkeys]

end RestScaffold
