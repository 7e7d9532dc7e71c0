import RestScaffold.Proofs.Disk.Growth

/-! # Directories made and files stored

What a step that succeeds does to a disk, and when a path names an entry that can be made. A path
that leads to a directory is refused as one that is there already.
-/
namespace RestScaffold.Disk
variable {d d' : Disk} {place : Place} {name : String} {p : Path}

/-- A path names an entry of a directory, whether or not it is there. -/
structure Names (d : Disk) (p : Path) (place : Place) (name : String) : Prop where
  check : checkPath p = .ok ()
  proper : Proper name
  directory : d.entry? place = some .directory
  walk : ∃ front back, (d.startOf p).2 = front ++ name :: back ∧ (∀ part ∈ back, part = "") ∧
    d.walk (d.startOf p).1 front = .ok place

theorem dropWhile_reverse_eq_cons {parts before : List String} {last : String}
    (h : parts.reverse.dropWhile (· == "") = last :: before) :
    last ≠ "" ∧ ∃ back, parts = before.reverse ++ last :: back ∧ ∀ part ∈ back, part = "" := by
  have hsplit := List.takeWhile_append_dropWhile (p := (· == "")) (l := parts.reverse)
  constructor
  · have hhead := List.head?_dropWhile_not (· == "") parts.reverse
    rw [h] at hhead
    simpa using hhead
  · refine ⟨(parts.reverse.takeWhile (· == "")).reverse,?_,?_⟩
    · rw [h] at hsplit
      have hreverse := congrArg List.reverse hsplit
      rw [List.reverse_reverse, List.reverse_append, List.reverse_cons] at hreverse
      rw [← List.append_cons] at hreverse
      exact hreverse.symm
    · intro part hpart
      simpa using List.mem_takeWhile_imp (List.mem_reverse.mp hpart)

theorem dropWhile_reverse_append {front back : List String} (hname : name ≠ "")
    (hback : ∀ part ∈ back, part = "") :
    (front ++ name :: back).reverse.dropWhile (· == "") = name :: front.reverse := by
  have hall : ∀ part ∈ back.reverse, (part == "") = true := by
    intro part hpart
    simpa using hback part (List.mem_reverse.mp hpart)
  rw [List.reverse_append, List.reverse_cons, List.append_assoc,
    List.dropWhile_append_of_pos hall, List.singleton_append,
    List.dropWhile_cons_of_neg (by simpa using hname)]

theorem child_empty_eq_ok_iff {next : Place} : d.child place "" = .ok next ↔
    d.entry? place = some .directory ∧ next = place ++ [""] := by
  rw [child_eq_ok_iff]
  exact and_congr_right fun _ => and_iff_right (by decide)

theorem target_eq_some_iff : d.target p = .ok (some (place,name)) ↔ d.Names p place name := by
  unfold target
  constructor
  · intro h
    obtain ⟨_,hcheck,h⟩ := bind_eq_ok_iff.mp h
    simp only at h
    split at h
    · cases h
    · rename_i last before hparts
      obtain ⟨hempty,back,hsplit,hback⟩ := dropWhile_reverse_eq_cons hparts
      obtain ⟨q,hwalk,h⟩ := bind_eq_ok_iff.mp h
      obtain ⟨_,hchild,h⟩ := bind_eq_ok_iff.mp h
      split at h
      · cases h
      · rename_i hdots
        cases h
        obtain ⟨hdot,hdots⟩ := not_or.mp hdots
        exact ⟨hcheck,⟨hempty,hdot,hdots⟩,(child_empty_eq_ok_iff.mp hchild).1,_,back,hsplit,hback,
          hwalk⟩
  · rintro ⟨hcheck,⟨hempty,hdot,hdots⟩,hdir,front,back,hsplit,hback,hwalk⟩
    refine bind_eq_ok_iff.mpr ⟨(),hcheck,?_⟩
    simp only [hsplit, dropWhile_reverse_append hempty hback, List.reverse_reverse]
    refine bind_eq_ok_iff.mpr ⟨place,hwalk,?_⟩
    refine bind_eq_ok_iff.mpr ⟨_,child_empty_eq_ok_iff.mpr ⟨hdir,rfl⟩,?_⟩
    rw [if_neg (not_or.mpr ⟨hdot,hdots⟩)]
    rfl

theorem Grows.names (h : Grows d d') (hn : d.Names p place name) : d'.Names p place name := by
  obtain ⟨hcheck,hproper,hdir,front,back,hsplit,hback,hwalk⟩ := hn
  refine ⟨hcheck,hproper,h.directory place hdir,front,back,?_,hback,?_⟩
  · rwa [h.startOf]
  · rw [h.startOf]
    exact h.walk hwalk

theorem walk_empties {parts : List String} (hd : d.entry? place = some .directory)
    (hp : ∀ part ∈ parts, part = "") : d.walk place parts = .ok place := by
  induction parts with
  | nil => rfl
  | cons part rest ih =>
    rw [hp part List.mem_cons_self]
    simp only [walk, true_or, ↓reduceIte]
    refine bind_eq_ok_iff.mpr ⟨_,child_empty_eq_ok_iff.mpr ⟨hd,rfl⟩,?_⟩
    exact ih fun q hq => hp q (List.mem_cons_of_mem part hq)

/-- Where an entry is a directory, the path that names it leads to it. -/
theorem Names.resolve_directory (h : d.Names p place name)
    (hd : d.entry? (place ++ [name]) = some .directory) (hsize : name.utf8ByteSize ≤ maxName) :
    d.resolve p = .ok (place ++ [name]) := by
  obtain ⟨front,back,hsplit,hback,hwalk⟩ := h.walk
  refine resolve_eq_ok_iff.mpr ⟨h.check,?_⟩
  rw [hsplit]
  refine walk_append_eq_ok_iff.mpr ⟨place,hwalk,?_⟩
  refine (walk_proper_eq_ok_iff h.proper).mpr ⟨_,child_eq_ok_iff.mpr ⟨h.directory,hsize,rfl⟩,?_,
    walk_empties hd hback⟩
  rw [hd]
  exact Option.some_ne_none _

/-- A directory is made where nothing was. -/
theorem makeDir_eq_ok (h : d.makeDir p = .ok d') : ∃ place name, d.Names p place name ∧
    name.utf8ByteSize ≤ maxName ∧ d.entry? (place ++ [name]) = none ∧
    d' = d.put (place ++ [name]) .directory := by
  unfold makeDir at h
  obtain ⟨target,htarget,h⟩ := bind_eq_ok_iff.mp h
  cases target with
  | none => cases h
  | some entry =>
    obtain ⟨place,name⟩ := entry
    obtain ⟨new,hchild,h⟩ := bind_eq_ok_iff.mp h
    obtain ⟨_,hsize,rfl⟩ := child_eq_ok_iff.mp hchild
    cases hs : d.entry? (place ++ [name]) with
    | some held =>
      rw [hs] at h
      cases h
    | none =>
      rw [hs] at h
      cases h
      exact ⟨place,name,target_eq_some_iff.mp htarget,hsize,hs,rfl⟩

theorem isDir_of_makeDir (h : d.makeDir p = .ok d') : d'.isDir p = true := by
  obtain ⟨place,name,hnames,hsize,hnone,rfl⟩ := makeDir_eq_ok h
  have hself : entry? (d.put (place ++ [name]) .directory) (place ++ [name]) = some .directory :=
    entry?_put_self d (by simp) .directory
  exact isDir_iff.mpr ⟨_,((grows_put_directory hnone).names hnames).resolve_directory hself hsize,
    hself⟩

theorem makeDir_of_isDir (h : d.isDir p = true) : d.makeDir p = .error .alreadyExists := by
  obtain ⟨place,hresolve,hdir⟩ := isDir_iff.mp h
  obtain ⟨hcheck,hwalk⟩ := resolve_eq_ok_iff.mp hresolve
  cases hparts : (d.startOf p).2.reverse.dropWhile (· == "") with
  | nil =>
    have htarget : d.target p = .ok none := by
      unfold target
      refine bind_eq_ok_iff.mpr ⟨(),hcheck,?_⟩
      simp only [hparts]
      rfl
    rw [makeDir, htarget]
    rfl
  | cons last before =>
    obtain ⟨hempty,back,hsplit,hback⟩ := dropWhile_reverse_eq_cons hparts
    rw [hsplit] at hwalk
    obtain ⟨q,hfront,hwalk⟩ := walk_append_eq_ok_iff.mp hwalk
    have hq : d.entry? q = some .directory := directory_of_walk hwalk
    by_cases hdots : last = "." ∨ last = ".."
    · have htarget : d.target p = .ok none := by
        unfold target
        refine bind_eq_ok_iff.mpr ⟨(),hcheck,?_⟩
        simp only [hparts]
        refine bind_eq_ok_iff.mpr ⟨q,hfront,?_⟩
        refine bind_eq_ok_iff.mpr ⟨_,child_empty_eq_ok_iff.mpr ⟨hq,rfl⟩,?_⟩
        rw [if_pos hdots]
        rfl
      rw [makeDir, htarget]
      rfl
    · have hproper : Proper last := ⟨hempty,(not_or.mp hdots).1,(not_or.mp hdots).2⟩
      have htarget : d.target p = .ok (some (q,last)) :=
        target_eq_some_iff.mpr ⟨hcheck,hproper,hq,before.reverse,back,hsplit,hback,hfront⟩
      obtain ⟨next,hchild,hsome,_⟩ := (walk_proper_eq_ok_iff hproper).mp hwalk
      simp only [makeDir, htarget, hchild, bind, Except.bind,
        Option.isSome_iff_ne_none.mpr hsome, ↓reduceIte]
      rfl

/-- A path that is not taken to mean a directory leads to a file that can be replaced. -/
structure LeadsToFile (d : Disk) (p : Path) (place : Place) : Prop where
  names : ∃ directory name, d.Names p directory name ∧ name.utf8ByteSize ≤ maxName ∧
    place = directory ++ [name]
  open_end : p.text.toList.getLast? ≠ some '/'
  file : ∃ bytes, d.entry? place = some (.file bytes)

theorem Grows.leadsToFile (h : Grows d d') (hl : d.LeadsToFile p place) :
    d'.LeadsToFile p place := by
  obtain ⟨⟨directory,name,hnames,hsize,he⟩,hopen,bytes,hfile⟩ := hl
  exact ⟨⟨directory,name,h.names hnames,hsize,he⟩,hopen,h.file place bytes hfile⟩

theorem LeadsToFile.ne_nil (h : d.LeadsToFile p place) : place ≠ [] := by
  obtain ⟨directory,name,_,_,rfl⟩ := h.names
  simp

/-- A text is stored where no directory is, and its path leads to it. -/
theorem store_eq_ok {content : String} (h : d.store p content = .ok d') : ∃ place,
    d.entry? place ≠ some .directory ∧ d' = d.put place (.file content.toUTF8) ∧
    d'.LeadsToFile p place := by
  unfold store at h
  obtain ⟨target,htarget,h⟩ := bind_eq_ok_iff.mp h
  cases target with
  | none => cases h
  | some entry =>
    obtain ⟨directory,name⟩ := entry
    by_cases hopen : p.text.toList.getLast? = some '/'
    · simp only [hopen, ↓reduceIte] at h
      cases h
    simp only [hopen, ↓reduceIte] at h
    obtain ⟨file,hchild,h⟩ := bind_eq_ok_iff.mp h
    obtain ⟨_,hsize,rfl⟩ := child_eq_ok_iff.mp hchild
    by_cases hdir : d.entry? (directory ++ [name]) = some .directory
    · simp only [hdir, ↓reduceIte] at h
      cases h
    simp only [hdir, ↓reduceIte] at h
    cases h
    refine ⟨directory ++ [name],hdir,rfl,⟨directory,name,?_,hsize,rfl⟩,hopen,content.toUTF8,?_⟩
    · exact (grows_put_file hdir _).names (target_eq_some_iff.mp htarget)
    · exact entry?_put_self d (by simp) _

/-- What a path leads to can be replaced at any time. -/
theorem LeadsToFile.store (h : d.LeadsToFile p place) (content : String) :
    d.store p content = .ok (d.put place (.file content.toUTF8)) := by
  obtain ⟨⟨directory,name,hnames,hsize,rfl⟩,hopen,bytes,hfile⟩ := h
  have hdir : d.entry? (directory ++ [name]) ≠ some .directory := by
    rw [hfile]
    simp
  have hchild : d.child directory name = .ok (directory ++ [name]) :=
    child_eq_ok_iff.mpr ⟨hnames.directory,hsize,rfl⟩
  simp only [Disk.store, target_eq_some_iff.mpr hnames, hchild, bind, Except.bind, hopen, hdir,
    ↓reduceIte]
  rfl

end RestScaffold.Disk
