import RestScaffold.Proofs.Disk.Path
import RestScaffold.Proofs.Disk.Steps

/-! # Places of files below a base

The files below a base stand below one place, each under the names by which its path goes down from
the base. So paths that go down by different names lead to different places.
-/
namespace RestScaffold
variable {d d' : Disk} {place place' : Place} {base p q : Path}

theorem Path.stem_ne_nil (h : base.isAbsolute = true) : base.stem ≠ [] := by
  have hne : base.text ≠ "" := by
    intro he
    simp [isAbsolute, he] at h
  unfold stem
  rw [if_neg hne]
  split
  · rename_i hlast
    obtain ⟨front,_,hparts⟩ := parts_of_closed hlast
    rw [hparts, List.dropLast_concat]
    exact splitOnChar_ne_nil '/' front
  · exact splitOnChar_ne_nil '/' base.text

theorem FileName.proper {s : String} (h : FileName s) : Disk.Proper s :=
  ⟨h.ne_empty,h.ne_dot,h.ne_dots⟩

namespace Disk

/-- Where the paths below a base start, and the parts that lead to the base. -/
def stemStart (d : Disk) (base : Path) : Place × List String :=
  if base.isAbsolute then ([], base.stem.drop 1) else (d.current, base.stem)

theorem startOf_join (d : Disk) (base : Path) (h : p.Normal) :
    d.startOf (base.join p) = ((d.stemStart base).1, (d.stemStart base).2 ++ p.parts) := by
  unfold startOf stemStart
  rw [Path.isAbsolute_join base h.isAbsolute, Path.parts_join base h.isAbsolute]
  cases ha : base.isAbsolute with
  | false => rfl
  | true =>
    obtain ⟨first,rest,hs⟩ := List.exists_cons_of_ne_nil (Path.stem_ne_nil ha)
    simp [hs]

theorem walk_downward {parts : List String} (h : ∀ part ∈ parts, Path.Downward part) {q : Place}
    (hw : d.walk place parts = .ok q) :
    q = place ++ parts.filter fun part => !Path.isIdlePart part := by
  induction parts generalizing place with
  | nil =>
    rw [List.filter_nil, List.append_nil]
    exact (Except.ok.inj hw).symm
  | cons part rest ih =>
    obtain ⟨hpart,hrest⟩ := List.forall_mem_cons.mp h
    rcases hpart with hidle | hname
    · have hor : part = "" ∨ part = "." := by simpa [Path.isIdlePart] using hidle
      rw [walk] at hw
      obtain ⟨next,_,hw⟩ := bind_eq_ok_iff.mp hw
      rw [if_pos hor] at hw
      rw [List.filter_cons_of_neg (by simp [hidle]), ih hrest hw]
    · have hidle : Path.isIdlePart part = false := by
        simp [Path.isIdlePart, hname.ne_empty, hname.ne_dot]
      obtain ⟨next,hchild,_,hw⟩ := (walk_proper_eq_ok_iff hname.proper).mp hw
      obtain ⟨_,_,rfl⟩ := child_eq_ok_iff.mp hchild
      rw [List.filter_cons_of_pos (by simp [hidle]), ih hrest hw, List.append_assoc,
        List.singleton_append]

/-- What a path leads to that goes down from a base stands under its names below the base. -/
theorem resolve_join (h : p.Normal) (hr : d.resolve (base.join p) = .ok place) : ∃ root,
    d.walk (d.stemStart base).1 (d.stemStart base).2 = .ok root ∧ place = root ++ p.steps := by
  obtain ⟨_,hw⟩ := resolve_eq_ok_iff.mp hr
  rw [startOf_join d base h] at hw
  obtain ⟨root,hroot,hw⟩ := walk_append_eq_ok_iff.mp hw
  exact ⟨root,hroot,walk_downward h.downward hw⟩

/-- Paths that go down from one base lead to one place exactly if they are the same way. -/
theorem resolve_join_eq_iff (hp : p.Normal) (hq : q.Normal)
    (hr : d.resolve (base.join p) = .ok place) (hr' : d.resolve (base.join q) = .ok place') :
    place = place' ↔ (base.join p).sameAs (base.join q) = true := by
  obtain ⟨root,hroot,rfl⟩ := resolve_join hp hr
  obtain ⟨root',hroot',rfl⟩ := resolve_join hq hr'
  cases hroot.symm.trans hroot'
  rw [List.append_cancel_left_eq, Path.join_sameAs_join base hp hq]

theorem getLast?_startOf (h : (d.startOf p).2.getLast? = some "") :
    p.text = "" ∨ p.text.toList.getLast? = some '/' := by
  refine getLast?_splitOnChar ?_
  change p.parts.getLast? = some ""
  unfold startOf at h
  split at h
  · rename_i habs
    obtain ⟨second,rest,hparts⟩ := Path.parts_of_isAbsolute habs
    rw [hparts] at h ⊢
    rwa [List.getLast?_cons_cons]
  · exact h

/-- What can be replaced under a path is what the path leads to. -/
theorem LeadsToFile.resolve (h : d.LeadsToFile p place) : d.resolve p = .ok place := by
  obtain ⟨⟨directory,name,hnames,hsize,rfl⟩,hopen,bytes,hfile⟩ := h
  obtain ⟨front,back,hsplit,hback,hwalk⟩ := hnames.walk
  have hempty : p.text ≠ "" := by
    intro he
    have hcheck := hnames.check
    rw [checkPath, he] at hcheck
    cases hcheck
  -- an empty part after the name would mean that the text ends in a separator
  have hnil : back = [] := by
    rcases List.eq_nil_or_concat back with hnil | ⟨init,last,rfl⟩
    · exact hnil
    · have hlast : (d.startOf p).2.getLast? = some "" := by
        rw [hsplit, List.concat_eq_append, ← List.cons_append, ← List.append_assoc,
          List.getLast?_concat, hback last (by simp)]
      exact ((getLast?_startOf hlast).elim hempty hopen).elim
  refine resolve_eq_ok_iff.mpr ⟨hnames.check,?_⟩
  rw [hsplit, hnil]
  refine walk_append_eq_ok_iff.mpr ⟨directory,hwalk,?_⟩
  refine (walk_proper_eq_ok_iff hnames.proper).mpr
    ⟨_,child_eq_ok_iff.mpr ⟨hnames.directory,hsize,rfl⟩,?_,rfl⟩
  rw [hfile]
  exact Option.some_ne_none _

/-- Before the first name of a way down only idle parts are walked. -/
theorem walk_downward_cons {parts : List String} (h : ∀ part ∈ parts, Path.Downward part)
    {name : String} {names : List String}
    (hn : (parts.filter fun part => !Path.isIdlePart part) = name :: names)
    (hw : d.walk place parts = .ok place') : ∃ next rest, d.entry? place = some .directory ∧
      d.child place name = .ok next ∧ d.entry? next ≠ none ∧ d.walk next rest = .ok place' ∧
      (∀ part ∈ rest, Path.Downward part) ∧
      (rest.filter fun part => !Path.isIdlePart part) = names := by
  induction parts with
  | nil => cases hn
  | cons part rest ih =>
    obtain ⟨hpart,hrest⟩ := List.forall_mem_cons.mp h
    have hdir := directory_of_walk hw
    by_cases hidle : Path.isIdlePart part = true
    · have hor : part = "" ∨ part = "." := by simpa [Path.isIdlePart] using hidle
      rw [List.filter_cons_of_neg (by simp [hidle])] at hn
      rw [walk] at hw
      obtain ⟨_,_,hw⟩ := bind_eq_ok_iff.mp hw
      rw [if_pos hor] at hw
      exact ih hrest hn hw
    · have hname : FileName part := hpart.resolve_left hidle
      rw [List.filter_cons_of_pos (by simp [hidle])] at hn
      obtain ⟨rfl,hnames⟩ := List.cons.inj hn
      obtain ⟨next,hchild,hthere,hw⟩ := (walk_proper_eq_ok_iff hname.proper).mp hw
      exact ⟨next,rest,hdir,hchild,hthere,hw,hrest,hnames⟩

/-- A way down to a file on a disk that has grown can be walked before, if another spelling of it
can. -/
theorem Grows.walk_respelled (hg : Grows d d') {bytes : ByteArray}
    (hfile : d'.entry? place' = some (.file bytes)) {parts others : List String}
    (h : ∀ part ∈ parts, Path.Downward part) (ho : ∀ part ∈ others, Path.Downward part)
    (hsame : (parts.filter fun part => !Path.isIdlePart part) =
      others.filter fun part => !Path.isIdlePart part)
    (hw : d.walk place parts = .ok place') (hw' : d'.walk place others = .ok place') :
    d.walk place others = .ok place' := by
  induction others generalizing place parts with
  | nil => exact hw'
  | cons part rest ih =>
    obtain ⟨hpart,hrest⟩ := List.forall_mem_cons.mp ho
    have hdir' := directory_of_walk hw'
    by_cases hidle : Path.isIdlePart part = true
    · have hor : part = "" ∨ part = "." := by simpa [Path.isIdlePart] using hidle
      rw [List.filter_cons_of_neg (by simp [hidle])] at hsame
      have hdir : d.entry? place = some .directory := by
        cases hn : parts.filter fun part => !Path.isIdlePart part with
        | nil =>
          -- the way ends here, but the file that it ends at is no directory
          have hend : place' = place := by simpa [hn] using walk_downward h hw
          rw [← hend, hfile] at hdir'
          cases hdir'
        | cons name names =>
          obtain ⟨_,_,hdir,_⟩ := walk_downward_cons h hn hw
          exact hdir
      rw [Disk.walk] at hw' ⊢
      obtain ⟨_,_,hw'⟩ := bind_eq_ok_iff.mp hw'
      rw [if_pos hor] at hw'
      refine bind_eq_ok_iff.mpr ⟨place ++ [""],?_,?_⟩
      · rw [if_pos (hor.elim Or.inl fun he => Or.inr (Or.inl he))]
        exact child_empty_eq_ok_iff.mpr ⟨hdir,rfl⟩
      · rw [if_pos hor]
        exact ih h hrest hsame hw hw'
    · have hname : FileName part := hpart.resolve_left hidle
      rw [List.filter_cons_of_pos (by simp [hidle])] at hsame
      obtain ⟨next,more,_,hchild,hthere,hw,hmore,hnames⟩ := walk_downward_cons h hsame hw
      obtain ⟨next',hchild',_,hw'⟩ := (walk_proper_eq_ok_iff hname.proper).mp hw'
      cases (hg.child hchild).symm.trans hchild'
      exact (walk_proper_eq_ok_iff hname.proper).mpr
        ⟨next,hchild,hthere,ih hmore hrest hnames hw hw'⟩

/-- A file that is stored under one spelling of a path was there already if it could be found under
another one. -/
theorem Grows.resolve_respelled (hg : Grows d d') (hp : p.Normal) (hq : q.Normal)
    (hsame : (base.join p).sameAs (base.join q) = true) (hr : d.resolve (base.join p) = .ok place)
    {place' : Place} (hleads : d'.LeadsToFile (base.join q) place') :
    d.resolve (base.join q) = .ok place' := by
  have hr' := hleads.resolve
  obtain ⟨_,hfile⟩ := hleads.file
  have he : place = place' := (resolve_join_eq_iff hp hq (hg.resolve hr) hr').mpr hsame
  subst he
  obtain ⟨hcheck,hw'⟩ := resolve_eq_ok_iff.mp hr'
  obtain ⟨_,hw⟩ := resolve_eq_ok_iff.mp hr
  refine resolve_eq_ok_iff.mpr ⟨hcheck,?_⟩
  rw [hg.startOf] at hw'
  rw [startOf_join d base hp] at hw
  rw [startOf_join d base hq] at hw' ⊢
  obtain ⟨root,hroot,hw⟩ := walk_append_eq_ok_iff.mp hw
  obtain ⟨root',hroot',hw'⟩ := walk_append_eq_ok_iff.mp hw'
  cases (hg.walk hroot).symm.trans hroot'
  refine walk_append_eq_ok_iff.mpr ⟨root,hroot,?_⟩
  exact hg.walk_respelled hfile hp.downward hq.downward
    ((Path.join_sameAs_join base hp hq).mp hsame) hw hw'

/-- What the file holds that a path leads to. -/
def held? (d : Disk) (p : Path) : Option ByteArray :=
  match d.resolve p with
  | .ok place => d.file? place
  | .error _ => none

theorem held?_of_resolve (h : d.resolve p = .ok place) : d.held? p = d.file? place := by
  rw [held?, h]

theorem held?_congr (h : d.resolve p = d.resolve q) : d.held? p = d.held? q := by
  rw [held?, held?, h]

end Disk
end RestScaffold
