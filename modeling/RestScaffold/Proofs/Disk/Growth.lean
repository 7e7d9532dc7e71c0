import RestScaffold.Disk.Tree
import RestScaffold.Proofs.Keyed
import RestScaffold.Proofs.Sequencing

/-! # Disks that grow

No step of a run takes anything away: directories stay, and files stay files, whatever they come to
hold. So a path that leads somewhere leads there ever after.
-/
namespace RestScaffold.Disk
variable {d d' : Disk} {place next : Place} {name : String} {p : Path}

theorem entry?_of_ne_nil (d : Disk) (h : place ≠ []) : d.entry? place = d.entries.lookup place :=
  if_neg h

theorem entry?_put_self (d : Disk) (h : place ≠ []) (e : Entry) :
    entry? (d.put place e) place = some e :=
  (entry?_of_ne_nil _ h).trans (lookup_putKey_self place e d.entries)

theorem entry?_put_of_ne (d : Disk) {other : Place} (h : other ≠ place) (e : Entry) :
    entry? (d.put place e) other = d.entry? other := by
  unfold entry?
  split
  · rfl
  · exact lookup_putKey_of_ne e d.entries h

/-- What the file at a place holds, if there is one. -/
def file? (d : Disk) (place : Place) : Option ByteArray :=
  match d.entry? place with
  | some (.file bytes) => some bytes
  | _ => none

theorem file?_eq_some_iff {bytes : ByteArray} :
    d.file? place = some bytes ↔ d.entry? place = some (.file bytes) := by
  unfold file?
  split
  · rename_i held he
    simp [he]
  · rename_i hne
    refine ⟨fun h => (nomatch h),fun h => absurd h (hne bytes)⟩

/-- A disk on which directories stay, and files stay files. -/
structure Grows (d d' : Disk) : Prop where
  current : d'.current = d.current
  directory : ∀ place, d.entry? place = some .directory → d'.entry? place = some .directory
  file : ∀ place bytes, d.entry? place = some (.file bytes) →
    ∃ later, d'.entry? place = some (.file later)

theorem Grows.refl (d : Disk) : Grows d d := ⟨rfl,fun _ h => h,fun _ bytes h => ⟨bytes,h⟩⟩

theorem Grows.trans {d'' : Disk} (h : Grows d d') (h' : Grows d' d'') : Grows d d'' := by
  refine ⟨h'.current.trans h.current,fun place hd => h'.directory place (h.directory place hd),?_⟩
  intro place bytes hf
  obtain ⟨later,hl⟩ := h.file place bytes hf
  exact h'.file place later hl

theorem Grows.entry?_ne_none (h : Grows d d') (hs : d.entry? place ≠ none) :
    d'.entry? place ≠ none := by
  cases he : d.entry? place with
  | none => exact absurd he hs
  | some e =>
    cases e with
    | directory =>
      rw [h.directory place he]
      simp
    | file bytes =>
      obtain ⟨later,hl⟩ := h.file place bytes he
      rw [hl]
      simp

theorem grows_put_directory (h : d.entry? place = none) : Grows d (d.put place .directory) := by
  refine ⟨rfl,?_,?_⟩
  · intro other ho
    have hne : other ≠ place := by
      rintro rfl
      rw [h] at ho
      cases ho
    rwa [entry?_put_of_ne d hne]
  · intro other bytes ho
    have hne : other ≠ place := by
      rintro rfl
      rw [h] at ho
      cases ho
    exact ⟨bytes,by rwa [entry?_put_of_ne d hne]⟩

theorem grows_put_file (h : d.entry? place ≠ some .directory) (bytes : ByteArray) :
    Grows d (d.put place (.file bytes)) := by
  have hne : place ≠ [] := by
    rintro rfl
    exact h rfl
  refine ⟨rfl,?_,?_⟩
  · intro other ho
    have hother : other ≠ place := by
      rintro rfl
      exact h ho
    rwa [entry?_put_of_ne d hother]
  · intro other old ho
    by_cases hother : other = place
    · exact ⟨bytes,by rw [hother, entry?_put_self d hne]⟩
    · exact ⟨old,by rwa [entry?_put_of_ne d hother]⟩

theorem child_eq_ok_iff : d.child place name = .ok next ↔
    d.entry? place = some .directory ∧ name.utf8ByteSize ≤ maxName ∧ next = place ++ [name] := by
  unfold child
  split
  · rename_i he
    split
    · rename_i hsize
      simp [he, hsize, eq_comm]
    · rename_i hsize
      simp [hsize]
  · rename_i he
    simp [he]
  · rename_i he
    simp [he]

theorem Grows.child (h : Grows d d') (hc : d.child place name = .ok next) :
    d'.child place name = .ok next := by
  obtain ⟨hdir,hsize,he⟩ := child_eq_ok_iff.mp hc
  exact child_eq_ok_iff.mpr ⟨h.directory place hdir,hsize,he⟩

theorem walk_append (d : Disk) (place : Place) (front back : List String) :
    d.walk place (front ++ back) = d.walk place front >>= fun q => d.walk q back := by
  induction front generalizing place with
  | nil => rfl
  | cons part rest ih =>
    simp only [List.cons_append, walk]
    cases d.child place (if part = "" ∨ part = "." ∨ part = ".." then "" else part) with
    | error fault => rfl
    | ok next =>
      simp only [bind, Except.bind] at ih ⊢
      simp only [ih]
      split
      · rfl
      split
      · rfl
      split <;> rfl

theorem walk_append_eq_ok_iff {front back : List String} :
    d.walk place (front ++ back) = .ok next ↔
      ∃ q, d.walk place front = .ok q ∧ d.walk q back = .ok next := by
  rw [walk_append, bind_eq_ok_iff]

/-- Only from a directory does a path lead on. -/
theorem directory_of_walk {part : String} {rest : List String} {q : Place}
    (h : d.walk place (part :: rest) = .ok q) : d.entry? place = some .directory := by
  rw [walk] at h
  obtain ⟨_,hchild,_⟩ := bind_eq_ok_iff.mp h
  exact (child_eq_ok_iff.mp hchild).1

/-- A part that stands for a name, and not for the way up or the place itself. -/
def Proper (part : String) : Prop := part ≠ "" ∧ part ≠ "." ∧ part ≠ ".."

theorem walk_proper_eq_ok_iff (hp : Proper name) {q : Place} {rest : List String} :
    d.walk place (name :: rest) = .ok q ↔ ∃ next, d.child place name = .ok next ∧
      d.entry? next ≠ none ∧ d.walk next rest = .ok q := by
  obtain ⟨hempty,hdot,hdots⟩ := hp
  simp only [walk, hempty, hdot, hdots, or_self, ↓reduceIte]
  rw [bind_eq_ok_iff]
  refine exists_congr fun next => and_congr_right fun _ => ?_
  cases he : d.entry? next with
  | none =>
    constructor
    · intro h
      cases h
    · rintro ⟨hne,_⟩
      exact absurd rfl hne
  | some e => simp

theorem Grows.walk (h : Grows d d') {parts : List String} {q : Place}
    (hw : d.walk place parts = .ok q) : d'.walk place parts = .ok q := by
  induction parts generalizing place with
  | nil => exact hw
  | cons part rest ih =>
    simp only [Disk.walk] at hw ⊢
    obtain ⟨next,hc,hw⟩ := bind_eq_ok_iff.mp hw
    refine bind_eq_ok_iff.mpr ⟨next,h.child hc,?_⟩
    by_cases hidle : part = "" ∨ part = "."
    · rw [if_pos hidle] at hw ⊢
      exact ih hw
    rw [if_neg hidle] at hw ⊢
    by_cases hup : part = ".."
    · rw [if_pos hup] at hw ⊢
      exact ih hw
    rw [if_neg hup] at hw ⊢
    cases hs : d.entry? next with
    | none =>
      rw [hs] at hw
      cases hw
    | some e =>
      obtain ⟨later,hlater⟩ := Option.ne_none_iff_exists'.mp
        (h.entry?_ne_none (hs ▸ Option.some_ne_none e))
      rw [hs] at hw
      rw [hlater]
      exact ih hw

theorem resolve_eq_ok_iff : d.resolve p = .ok place ↔ checkPath p = .ok () ∧
    d.walk (d.startOf p).1 (d.startOf p).2 = .ok place := by
  unfold resolve
  rw [bind_eq_ok_iff]
  constructor
  · rintro ⟨_,hc,hw⟩
    exact ⟨hc,hw⟩
  · rintro ⟨hc,hw⟩
    exact ⟨(),hc,hw⟩

theorem Grows.startOf (h : Grows d d') (p : Path) : d'.startOf p = d.startOf p := by
  unfold Disk.startOf
  rw [h.current]

theorem Grows.resolve (h : Grows d d') (hr : d.resolve p = .ok place) :
    d'.resolve p = .ok place := by
  obtain ⟨hc,hw⟩ := resolve_eq_ok_iff.mp hr
  refine resolve_eq_ok_iff.mpr ⟨hc,?_⟩
  rw [h.startOf]
  exact h.walk hw

theorem isDir_iff : d.isDir p = true ↔
    ∃ place, d.resolve p = .ok place ∧ d.entry? place = some .directory := by
  unfold isDir
  cases d.resolve p with
  | error fault => simp
  | ok place => simp

theorem Grows.isDir (h : Grows d d') (hd : d.isDir p = true) : d'.isDir p = true := by
  obtain ⟨place,hr,he⟩ := isDir_iff.mp hd
  exact isDir_iff.mpr ⟨place,h.resolve hr,h.directory place he⟩

theorem hasEntry_iff : d.hasEntry p = true ↔ ∃ place, d.resolve p = .ok place := by
  unfold hasEntry
  cases d.resolve p with
  | error fault => simp
  | ok place => simp

theorem Grows.hasEntry (h : Grows d d') (he : d.hasEntry p = true) : d'.hasEntry p = true := by
  obtain ⟨place,hr⟩ := hasEntry_iff.mp he
  exact hasEntry_iff.mpr ⟨place,h.resolve hr⟩

end RestScaffold.Disk
