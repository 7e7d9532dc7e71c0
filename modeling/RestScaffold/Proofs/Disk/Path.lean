import RestScaffold.Disk.Path
import RestScaffold.Proofs.Text.Split

/-! # Paths that are put together from names

A path below a base ends in exactly the names that were joined to it, whatever the base is. So such
paths lead the same way only if their names agree.
-/
namespace RestScaffold

/-- A name that an entry of a directory can have. -/
structure FileName (s : String) : Prop where
  no_slash : '/' ∉ s.toList
  ne_empty : s ≠ ""
  ne_dot : s ≠ "."
  ne_dots : s ≠ ".."

instance (s : String) : Decidable (FileName s) :=
  decidable_of_iff ('/' ∉ s.toList ∧ s ≠ "" ∧ s ≠ "." ∧ s ≠ "..")
    ⟨fun h => ⟨h.1,h.2.1,h.2.2.1,h.2.2.2⟩, fun h => ⟨h.no_slash,h.ne_empty,h.ne_dot,h.ne_dots⟩⟩

theorem FileName.ofPart {s : String} (h : FileName s) : Component.ofPart s = some (.name s) := by
  unfold Component.ofPart
  split
  · exact absurd rfl h.ne_empty
  · exact absurd rfl h.ne_dot
  · exact absurd rfl h.ne_dots
  · rfl

namespace Path

/-- The parts of a base that stay in front of whatever is joined to it. -/
def stem (base : Path) : List String :=
  if base.text = "" then []
  else if base.text.toList.getLast? = some '/' then base.parts.dropLast
  else base.parts

theorem isAbsolute_ofName {s : String} (h : FileName s) : (⟨s⟩ : Path).isAbsolute = false := by
  cases hs : s.toList with
  | nil => simp [isAbsolute, hs]
  | cons c rest =>
    have hc : c ≠ '/' := by
      rintro rfl
      exact h.no_slash (hs ▸ List.mem_cons_self)
    simp [isAbsolute, hs, hc]

theorem join_of_isAbsolute {base p : Path} (h : p.isAbsolute = true) : base.join p = p := by
  simp only [join, h, ↓reduceIte]

theorem join_of_closed {base p : Path} (hp : p.isAbsolute = false)
    (hb : base.text = "" ∨ base.text.toList.getLast? = some '/') :
    base.join p = ⟨base.text ++ p.text⟩ := by
  have hc : (base.text.isEmpty || base.text.toList.getLast? == some '/') = true := by
    simpa [String.isEmpty_iff] using hb
  simp only [join, hp, hc, Bool.false_eq_true, ↓reduceIte]

theorem join_of_open {base p : Path} (hp : p.isAbsolute = false) (hb : base.text ≠ "")
    (hl : base.text.toList.getLast? ≠ some '/') :
    base.join p = ⟨base.text ++ String.singleton '/' ++ p.text⟩ := by
  have hc : (base.text.isEmpty || base.text.toList.getLast? == some '/') = false := by
    simp [hb, hl]
  simp only [join, hp, hc, Bool.false_eq_true, ↓reduceIte]
  rfl

theorem isAbsolute_append (s t : String) (hs : s ≠ "") :
    (⟨s ++ t⟩ : Path).isAbsolute = (⟨s⟩ : Path).isAbsolute := by
  obtain ⟨c,rest,hc⟩ := List.exists_cons_of_ne_nil (mt String.toList_eq_nil_iff.mp hs)
  simp [isAbsolute, String.toList_append, hc]

theorem isAbsolute_join (base : Path) {p : Path} (hp : p.isAbsolute = false) :
    (base.join p).isAbsolute = base.isAbsolute := by
  by_cases hb : base.text = ""
  · have he : base.isAbsolute = false := by simp [isAbsolute, hb]
    rw [join_of_closed hp (Or.inl hb), hb, String.empty_append, he]
    exact hp
  by_cases hl : base.text.toList.getLast? = some '/'
  · rw [join_of_closed hp (Or.inr hl), isAbsolute_append _ _ hb]
  · rw [join_of_open hp hb hl, String.append_assoc, isAbsolute_append _ _ hb]

theorem parts_of_closed {base : Path} (h : base.text.toList.getLast? = some '/') :
    ∃ front, base.text = front ++ String.singleton '/' ∧
      base.parts = splitOnChar '/' front ++ [""] := by
  obtain ⟨front,hfront⟩ := List.getLast?_eq_some_iff.mp h
  have htext : base.text = String.ofList front ++ String.singleton '/' := by
    rw [← String.toList_inj]
    simp [hfront]
  refine ⟨String.ofList front,htext,?_⟩
  rw [parts, htext, ← String.append_empty (s := _ ++ String.singleton '/'), splitOnChar_append]
  rfl

/-- Joining leaves the stem of the base and adds the parts of the second path. -/
theorem parts_join (base : Path) {p : Path} (hp : p.isAbsolute = false) :
    (base.join p).parts = base.stem ++ p.parts := by
  by_cases hb : base.text = ""
  · rw [join_of_closed hp (Or.inl hb), hb, String.empty_append, stem, if_pos hb, List.nil_append]
  by_cases hl : base.text.toList.getLast? = some '/'
  · obtain ⟨front,htext,hparts⟩ := parts_of_closed hl
    rw [join_of_closed hp (Or.inr hl), stem, if_neg hb, if_pos hl, hparts, List.dropLast_concat,
      parts, htext, splitOnChar_append]
    rfl
  · rw [join_of_open hp hb hl, stem, if_neg hb, if_neg hl, parts, splitOnChar_append]
    rfl

theorem parts_ofName {s : String} (h : FileName s) : (⟨s⟩ : Path).parts = [s] :=
  splitOnChar_of_notMem h.no_slash

theorem getLast?_join_ofName (base : Path) {s : String} (h : FileName s) :
    (base.join ⟨s⟩).text.toList.getLast? ≠ some '/' := by
  have hs : s.toList ≠ [] := mt String.toList_eq_nil_iff.mp h.ne_empty
  have hlast : ∀ front : String, (front ++ s).toList.getLast? ≠ some '/' := by
    intro front he
    rw [String.toList_append, List.getLast?_append_of_ne_nil _ hs] at he
    exact h.no_slash (List.mem_of_getLast? he)
  simp only [join, isAbsolute_ofName h, Bool.false_eq_true, ↓reduceIte]
  split
  · exact hlast _
  · exact hlast _

theorem text_join_ofName_ne_empty (base : Path) {s : String} (h : FileName s) :
    (base.join ⟨s⟩).text ≠ "" := by
  intro he
  have hl : (base.join ⟨s⟩).text.toList.length = 0 := by simp [he]
  have hs : s.toList.length ≠ 0 := by
    simpa [List.length_eq_zero_iff] using mt String.toList_eq_nil_iff.mp h.ne_empty
  simp only [join, isAbsolute_ofName h, Bool.false_eq_true, ↓reduceIte] at hl
  split at hl <;> simp only [String.toList_append, List.length_append] at hl <;> omega

theorem stem_join_ofName (base : Path) {s : String} (h : FileName s) :
    (base.join ⟨s⟩).stem = base.stem ++ [s] := by
  rw [stem, if_neg (text_join_ofName_ne_empty base h), if_neg (getLast?_join_ofName base h),
    parts_join base (isAbsolute_ofName h), parts_ofName h]

/-- The path that goes down from a base by some names. -/
def below (base : Path) (names : List String) : Path :=
  names.foldl (fun p name => p.join ⟨name⟩) base

theorem below_concat (base : Path) (names : List String) (last : String) :
    base.below (names ++ [last]) = (base.below names).join ⟨last⟩ := by
  simp [below]

variable {names : List String}

theorem stem_below (base : Path) (h : ∀ s ∈ names, FileName s) :
    (base.below names).stem = base.stem ++ names := by
  induction names generalizing base with
  | nil => simp [below]
  | cons s rest ih =>
    have hs := stem_join_ofName base (h s List.mem_cons_self)
    have hrest := ih (base.join ⟨s⟩) fun t ht => h t (List.mem_cons_of_mem s ht)
    calc (base.below (s :: rest)).stem = (base.join ⟨s⟩).stem ++ rest := hrest
      _ = base.stem ++ (s :: rest) := by rw [hs, List.append_assoc, List.singleton_append]

theorem parts_below (base : Path) (h : ∀ s ∈ names, FileName s) (hne : names ≠ []) :
    (base.below names).parts = base.stem ++ names := by
  obtain ⟨front,last,rfl⟩ := List.eq_nil_or_concat names |>.resolve_left hne
  have hfront : ∀ s ∈ front, FileName s := fun s hs => h s (by simp [hs])
  have hlast : FileName last := h last (by simp)
  rw [List.concat_eq_append, below_concat, parts_join _ (isAbsolute_ofName hlast),
    stem_below base hfront, parts_ofName hlast, List.append_assoc]

/-- Every relative path is joined to a base behind the same text, which is empty or ends in a
separator. -/
theorem exists_lead (base : Path) : ∃ lead : String,
    (lead = "" ∨ lead.toList.getLast? = some '/') ∧
      ∀ p : Path, p.isAbsolute = false → base.join p = ⟨lead ++ p.text⟩ := by
  by_cases hb : base.text = "" ∨ base.text.toList.getLast? = some '/'
  · exact ⟨base.text,hb,fun p hp => join_of_closed hp hb⟩
  · obtain ⟨hne,hl⟩ := not_or.mp hb
    refine ⟨base.text ++ String.singleton '/',Or.inr ?_,fun p hp => join_of_open hp hne hl⟩
    simp

/-- What stands before a path that is not empty stays there when another one is joined to it. -/
theorem join_of_lead (lead : String) {p q : Path} (hne : p.text ≠ "") (hq : q.isAbsolute = false) :
    (⟨lead ++ p.text⟩ : Path).join q = ⟨lead ++ (p.join q).text⟩ := by
  have hlast : (lead ++ p.text).toList.getLast? = p.text.toList.getLast? := by
    rw [String.toList_append, List.getLast?_append_of_ne_nil _ (mt String.toList_eq_nil_iff.mp hne)]
  by_cases hl : p.text.toList.getLast? = some '/'
  · rw [join_of_closed hq (Or.inr (hlast.trans hl)), join_of_closed hq (Or.inr hl),
      String.append_assoc]
  · have hne' : lead ++ p.text ≠ "" := fun he => hne (String.append_eq_empty_iff.mp he).2
    rw [join_of_open hq hne' (hlast ▸ hl), join_of_open hq hne hl]
    simp only [String.append_assoc]

/-- Of two joins either can be made first. -/
theorem join_assoc (base p q : Path) : base.join (p.join q) = (base.join p).join q := by
  cases hq : q.isAbsolute with
  | true => rw [join_of_isAbsolute hq, join_of_isAbsolute hq, join_of_isAbsolute hq]
  | false =>
    have hpq := isAbsolute_join p hq
    cases hp : p.isAbsolute with
    | true => rw [join_of_isAbsolute (hpq.trans hp), join_of_isAbsolute hp]
    | false =>
      obtain ⟨lead,hlead,hjoin⟩ := exists_lead base
      rw [hjoin _ (hpq.trans hp), hjoin p hp]
      by_cases hne : p.text = ""
      · rw [hne, String.append_empty, join_of_closed hq (Or.inl hne), join_of_closed hq hlead, hne,
          String.empty_append]
      · exact (join_of_lead lead hne hq).symm

theorem empty_join (p : Path) : (⟨""⟩ : Path).join p = p := by
  cases hp : p.isAbsolute with
  | true => exact join_of_isAbsolute hp
  | false => rw [join_of_closed hp (Or.inl rfl), String.empty_append]

theorem join_below_from (base p : Path) (names : List String) :
    base.join (p.below names) = (base.join p).below names := by
  induction names generalizing p with
  | nil => rfl
  | cons s rest ih => exact (ih (p.join ⟨s⟩)).trans (by rw [join_assoc]; rfl)

/-- A way down from a base can be put together first and then be joined to the base. -/
theorem join_below (base : Path) (hne : names ≠ []) :
    base.join ((⟨""⟩ : Path).below names) = base.below names := by
  obtain ⟨s,rest,rfl⟩ := List.exists_cons_of_ne_nil hne
  have hstart : (⟨""⟩ : Path).below (s :: rest) = (⟨s⟩ : Path).below rest := by
    rw [below, List.foldl_cons, empty_join]
    rfl
  rw [hstart, join_below_from]
  rfl

/-- The components of a path that starts with some parts, before whatever is joined to it. -/
def leadComponents : List String → List Component
  | "" :: rest => .top :: rest.filterMap Component.ofPart
  | "." :: rest => .here :: rest.filterMap Component.ofPart
  | body => body.filterMap Component.ofPart

theorem components_of_parts {p : Path} {front back : List String} (hp : p.parts = front ++ back)
    (hne : back ≠ []) (hstart : front = [] → p.leadAndBody = ([], back)) :
    p.components = leadComponents front ++ back.filterMap Component.ofPart := by
  unfold leadComponents
  split
  · rename_i front
    obtain ⟨second,others,ho⟩ := List.exists_cons_of_ne_nil
      (List.append_ne_nil_of_right_ne_nil front hne)
    have hl : p.leadAndBody = ([""], front ++ back) := by
      rw [leadAndBody, hp, List.cons_append, ho]
      rfl
    simp only [components, hl, List.filterMap_append]
    rfl
  · rename_i front
    have hl : p.leadAndBody = (["."], front ++ back) := by
      rw [leadAndBody, hp]
      rfl
    simp only [components, hl, List.filterMap_append]
    rfl
  · rename_i hempty hdot
    have hl : p.leadAndBody = ([], front ++ back) := by
      cases front with
      | nil => exact hstart rfl
      | cons first others =>
        rw [leadAndBody, hp]
        split
        · rename_i he
          exact absurd (by rw [(List.cons.inj he).1]) (hempty others)
        · rename_i he
          exact absurd (by rw [(List.cons.inj he).1]) (hdot others)
        · rfl
    simp only [components, hl, List.filterMap_append]
    rfl

theorem sameAs_iff {p q : Path} : p.sameAs q = true ↔ p.components = q.components :=
  beq_iff_eq

theorem sameAs_comm (p q : Path) : p.sameAs q = q.sameAs p := by
  rw [Bool.eq_iff_iff, sameAs_iff, sameAs_iff, eq_comm]

theorem sameAs_congr {p q : Path} (h : p.sameAs q = true) (r : Path) : r.sameAs p = r.sameAs q := by
  rw [sameAs, sameAs, sameAs_iff.mp h]

/-- A relative path that goes down, name by name. -/
def Normal (p : Path) : Prop := ∀ c ∈ p.components, ∃ s, c = .name s

instance : DecidablePred fun c : Component => ∃ s, c = .name s
  | .name s => isTrue ⟨s,rfl⟩
  | .top => isFalse fun ⟨_,h⟩ => nomatch h
  | .here => isFalse fun ⟨_,h⟩ => nomatch h
  | .up => isFalse fun ⟨_,h⟩ => nomatch h

instance (p : Path) : Decidable p.Normal :=
  inferInstanceAs (Decidable (∀ c ∈ p.components, ∃ s, c = .name s))

/-- The names by which a path goes down. -/
def steps (p : Path) : List String := p.parts.filter fun part => !isIdlePart part

/-- A part that a path which goes down can have. -/
def Downward (part : String) : Prop := isIdlePart part = true ∨ FileName part

theorem filterMap_ofPart {parts : List String} (h : ∀ part ∈ parts, Downward part) :
    parts.filterMap Component.ofPart =
      (parts.filter fun part => !isIdlePart part).map .name := by
  induction parts with
  | nil => rfl
  | cons part rest ih =>
    obtain ⟨hpart,hrest⟩ := List.forall_mem_cons.mp h
    rw [List.filterMap_cons, ih hrest]
    rcases hpart with hidle | hname
    · rw [List.filter_cons_of_neg (by simp [hidle])]
      rcases Bool.or_eq_true_iff.mp hidle with he | he
      · rw [beq_iff_eq.mp he]
        rfl
      · rw [beq_iff_eq.mp he]
        rfl
    · have hidle : isIdlePart part = false := by
        simp [isIdlePart, hname.ne_empty, hname.ne_dot]
      rw [List.filter_cons_of_pos (by simp [hidle]), hname.ofPart]
      rfl

section Normal
variable {p q : Path}

theorem parts_of_isAbsolute (h : p.isAbsolute = true) :
    ∃ second rest, p.parts = "" :: second :: rest := by
  obtain ⟨rest,hrest⟩ := List.head?_eq_some_iff.mp (beq_iff_eq.mp h)
  have htext : p.text = "" ++ String.singleton '/' ++ String.ofList rest := by
    rw [← String.toList_inj]
    simp [hrest]
  obtain ⟨second,others,ho⟩ :=
    List.exists_cons_of_ne_nil (splitOnChar_ne_nil '/' (String.ofList rest))
  refine ⟨second,others,?_⟩
  rw [parts, htext, splitOnChar_append, ho]
  rfl

theorem Normal.leadAndBody (h : p.Normal) : p.leadAndBody = ([], p.parts) := by
  unfold Path.leadAndBody
  split
  · rename_i second rest hparts
    obtain ⟨s,hs⟩ := h .top (by simp [components, Path.leadAndBody, hparts])
    cases hs
  · rename_i rest hparts
    obtain ⟨s,hs⟩ := h .here (by simp [components, Path.leadAndBody, hparts])
    cases hs
  · rfl

theorem Normal.isAbsolute (h : p.Normal) : p.isAbsolute = false := by
  rw [← Bool.not_eq_true]
  intro habs
  obtain ⟨second,rest,hparts⟩ := parts_of_isAbsolute habs
  have hlead := h.leadAndBody
  rw [Path.leadAndBody, hparts] at hlead
  cases hlead

theorem Normal.downward (h : p.Normal) : ∀ part ∈ p.parts, Downward part := by
  intro part hpart
  by_cases hidle : isIdlePart part = true
  · exact Or.inl hidle
  obtain ⟨hempty,hdot⟩ : part ≠ "" ∧ part ≠ "." := by simpa [isIdlePart] using hidle
  refine Or.inr ⟨splitOnChar_no_sep hpart,hempty,hdot,?_⟩
  rintro rfl
  have hup : Component.up ∈ p.components := by
    rw [components, h.leadAndBody]
    exact List.mem_filterMap.mpr ⟨"..",hpart,rfl⟩
  obtain ⟨s,hs⟩ := h .up hup
  cases hs

theorem Normal.components (h : p.Normal) : p.components = p.steps.map .name := by
  rw [Path.components, h.leadAndBody, filterMap_ofPart h.downward]
  rfl

theorem components_join (base : Path) (h : p.Normal) :
    (base.join p).components = leadComponents base.stem ++ p.steps.map .name := by
  have hparts := parts_join base h.isAbsolute
  rw [components_of_parts hparts (splitOnChar_ne_nil '/' p.text) _, filterMap_ofPart h.downward,
    steps]
  intro hstem
  rw [Path.leadAndBody, hparts, hstem]
  exact h.leadAndBody

theorem map_name_injective : Function.Injective (List.map Component.name) :=
  List.map_injective_iff.mpr fun _ _ hn => Component.name.inj hn

theorem Normal.sameAs_iff (hp : p.Normal) (hq : q.Normal) :
    p.sameAs q = true ↔ p.steps = q.steps := by
  rw [Path.sameAs_iff, hp.components, hq.components, map_name_injective.eq_iff]

/-- Two paths joined to the same base lead the same way exactly if their names agree. -/
theorem join_sameAs_join (base : Path) (hp : p.Normal) (hq : q.Normal) :
    (base.join p).sameAs (base.join q) = true ↔ p.steps = q.steps := by
  rw [Path.sameAs_iff, components_join base hp, components_join base hq,
    List.append_cancel_left_eq, map_name_injective.eq_iff]

/-- What goes down from a base is told apart by what goes down. -/
theorem sameAs_join (base : Path) (hp : p.Normal) (hq : q.Normal) :
    (base.join p).sameAs (base.join q) = p.sameAs q := by
  rw [Bool.eq_iff_iff, join_sameAs_join base hp hq, hp.sameAs_iff hq]

end Normal

/-- A path joined to a name is absolute or starts with that name. -/
theorem head?_components_join {s : String} (hs : FileName s) (p : Path) :
    ((⟨s⟩ : Path).join p).components.head? = some (if p.isAbsolute then .top else .name s) := by
  cases hp : p.isAbsolute with
  | true =>
    obtain ⟨second,rest,hparts⟩ := parts_of_isAbsolute hp
    have hjoin : (⟨s⟩ : Path).join p = p := join_of_isAbsolute hp
    simp [hjoin, components, leadAndBody, hparts]
  | false =>
    have hslash : s.toList.getLast? ≠ some '/' := by
      intro he
      exact hs.no_slash (List.mem_of_getLast? he)
    have hstem : (⟨s⟩ : Path).stem = [s] := by
      rw [stem, if_neg hs.ne_empty, if_neg hslash, parts_ofName hs]
    have hparts := parts_join ⟨s⟩ hp
    rw [hstem] at hparts
    have hlead : leadComponents [s] = [.name s] := by
      unfold leadComponents
      split
      · rename_i he
        exact absurd (List.cons.inj he).1 hs.ne_empty
      · rename_i he
        exact absurd (List.cons.inj he).1 hs.ne_dot
      · simp [hs.ofPart]
    rw [components_of_parts hparts (splitOnChar_ne_nil '/' p.text) (by simp), hlead]
    simp

theorem normal_of_parts {p : Path} (h : ∀ part ∈ p.parts, FileName part) : p.Normal := by
  have hlead : p.leadAndBody = ([], p.parts) := by
    unfold leadAndBody
    split
    · rename_i second rest hparts
      exact absurd rfl (h "" (by simp [hparts])).ne_empty
    · rename_i rest hparts
      exact absurd rfl (h "." (by simp [hparts])).ne_dot
    · rfl
  intro c hc
  rw [components, hlead] at hc
  obtain ⟨part,hpart,he⟩ := List.mem_filterMap.mp hc
  rw [(h part hpart).ofPart] at he
  exact ⟨part,(Option.some.inj he).symm⟩

theorem parts_below_empty (h : ∀ s ∈ names, FileName s) (hne : names ≠ []) :
    ((⟨""⟩ : Path).below names).parts = names :=
  parts_below ⟨""⟩ h hne

theorem normal_below (h : ∀ s ∈ names, FileName s) (hne : names ≠ []) :
    ((⟨""⟩ : Path).below names).Normal :=
  normal_of_parts (by rwa [parts_below_empty h hne])

theorem steps_below (h : ∀ s ∈ names, FileName s) (hne : names ≠ []) :
    ((⟨""⟩ : Path).below names).steps = names := by
  rw [steps, parts_below_empty h hne, List.filter_eq_self]
  intro s hs
  simp [isIdlePart, (h s hs).ne_empty, (h s hs).ne_dot]

/-- Two paths below the same base lead the same way exactly if their names agree. -/
theorem below_sameAs_below (base : Path) {others : List String} (h : ∀ s ∈ names, FileName s)
    (ho : ∀ s ∈ others, FileName s) (hne : names ≠ []) (hone : others ≠ []) :
    (base.below names).sameAs (base.below others) = true ↔ names = others := by
  rw [← join_below base hne, ← join_below base hone,
    join_sameAs_join base (normal_below h hne) (normal_below ho hone), steps_below h hne,
    steps_below ho hone]

end Path
end RestScaffold
