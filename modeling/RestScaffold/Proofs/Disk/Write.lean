import RestScaffold.Disk.Write
import RestScaffold.Proofs.Disk.Steps

/-! # Directories that are ensured and files that are written

To ensure a directory adds directories where nothing was and touches no file. Once it is there, to
ensure it again does nothing. What is said of a write that succeeds or fails holds wherever a step
that fails leaves the disk alone, whatever made it fail.
-/
namespace RestScaffold
open Disk

section Steps
variable {σ : Type}

theorem stateM_bind {α β : Type} (x : StateM σ α) (f : α → StateM σ β) (s : σ) :
    (x >>= f) s = f (x s).1 (x s).2 := rfl

/-- A step does to the disk in a state what a change does to a disk, or else fails and leaves it
alone. -/
structure Follows (disk : σ → Disk) (step : StateM σ (Except Fault Unit))
    (change : Disk → Except Fault Disk) : Prop where
  ok : ∀ {s s' : σ}, step s = (.ok (), s') → change (disk s) = .ok (disk s')
  error : ∀ {s s' : σ} {fault : Fault}, step s = (.error fault, s') → disk s' = disk s

/-- A question about the disk in a state is answered as it is on a disk. -/
structure Answers (disk : σ → Disk) (question : StateM σ Bool) (answer : Disk → Bool) : Prop where
  eq : ∀ {s s' : σ} {b : Bool}, question s = (b, s') → b = answer (disk s) ∧ disk s' = disk s

/-- A state with a disk in it. Steps may fail on it that would not on the disk alone, as when there
is no room left, but a step that fails changes nothing, and neither does one that only reads. -/
class HasDisk (σ : Type) [MonadDisk (StateM σ)] where
  disk : σ → Disk
  makeDir (p : Path) : Follows disk (MonadDisk.makeDir p) fun d => d.makeDir p
  store (p : Path) (content : String) :
    Follows disk (MonadDisk.store p content) fun d => d.store p content
  isDir (p : Path) : Answers disk (MonadDisk.isDir p) fun d => d.isDir p
  hasEntry (p : Path) : Answers disk (MonadDisk.hasEntry p) fun d => d.hasEntry p
  load (p : Path) {s s' : σ} {result : Except Fault String} :
    (MonadDisk.load p : StateM σ _) s = (result, s') → disk s' = disk s

end Steps

theorem makeDir_apply (p : Path) (d : Disk) : (MonadDisk.makeDir p : StateM Disk _) d =
    match d.makeDir p with
    | .ok d' => (.ok (), d')
    | .error fault => (.error fault, d) := rfl

theorem store_apply (p : Path) (content : String) (d : Disk) :
    (MonadDisk.store p content : StateM Disk _) d =
      match d.store p content with
      | .ok d' => (.ok (), d')
      | .error fault => (.error fault, d) := rfl

theorem follows_attempt (change : Disk → Except Fault Disk) :
    Follows (fun d => d) (attempt change) change := by
  constructor
  · intro d d' h
    unfold attempt at h
    cases hc : change d with
    | ok changed =>
      rw [hc] at h
      cases h
      rfl
    | error fault =>
      rw [hc] at h
      cases h
  · intro d d' fault h
    unfold attempt at h
    cases hc : change d with
    | ok changed =>
      rw [hc] at h
      cases h
    | error fault' =>
      rw [hc] at h
      cases h
      rfl

instance : HasDisk Disk where
  disk := fun d => d
  makeDir _ := follows_attempt _
  store _ _ := follows_attempt _
  isDir p := ⟨fun h => by cases h; exact ⟨rfl,rfl⟩⟩
  hasEntry p := ⟨fun h => by cases h; exact ⟨rfl,rfl⟩⟩
  load p _ _ _ h := by
    cases h
    rfl

/-- A disk that has grown by directories alone. -/
structure AddsDirectories (d d' : Disk) : Prop where
  grows : Grows d d'
  files : ∀ place, d'.file? place = d.file? place

theorem AddsDirectories.refl (d : Disk) : AddsDirectories d d := ⟨.refl d,fun _ => rfl⟩

theorem AddsDirectories.of_eq {d d' : Disk} (h : d' = d) : AddsDirectories d d' := h ▸ .refl d

theorem AddsDirectories.trans {d d' d'' : Disk} (h : AddsDirectories d d')
    (h' : AddsDirectories d' d'') : AddsDirectories d d'' :=
  ⟨h.grows.trans h'.grows,fun place => (h'.files place).trans (h.files place)⟩

theorem addsDirectories_of_makeDir {d d' : Disk} {p : Path} (h : d.makeDir p = .ok d') :
    AddsDirectories d d' := by
  obtain ⟨place,name,_,_,hnone,rfl⟩ := makeDir_eq_ok h
  refine ⟨grows_put_directory hnone,?_⟩
  intro other
  by_cases he : other = place ++ [name]
  · rw [he, file?, file?, entry?_put_self d (by simp), hnone]
  · rw [file?, file?, entry?_put_of_ne d he]

section Ensuring
variable {σ : Type} [MonadDisk (StateM σ)]

theorem settleDir_eq (p : Path) (s : σ) : (settleDir p : StateM σ _) s =
    match (MonadDisk.makeDir p : StateM σ _) s with
    | (.ok (), s') => (.ok (), s')
    | (.error fault, s') =>
      (if ((MonadDisk.isDir p : StateM σ Bool) s').1 then .ok () else .error fault,
        ((MonadDisk.isDir p : StateM σ Bool) s').2) := by
  unfold settleDir
  rw [stateM_bind]
  obtain ⟨result,s'⟩ := (MonadDisk.makeDir p : StateM σ _) s
  cases result with
  | ok _ => rfl
  | error fault => rfl

theorem ensureDirs_cons_eq (p : Path) (above : List Path) (s : σ) :
    (ensureDirs (p :: above) : StateM σ _) s =
      match (MonadDisk.makeDir p : StateM σ _) s with
      | (.ok (), s') => (.ok (), s')
      | (.error .notFound, s') =>
        match (ensureDirs above : StateM σ _) s' with
        | (.ok (), s'') => (settleDir p : StateM σ _) s''
        | (.error fault, s'') => (.error fault, s'')
      | (.error fault, s') =>
        (if ((MonadDisk.isDir p : StateM σ Bool) s').1 then .ok () else .error fault,
          ((MonadDisk.isDir p : StateM σ Bool) s').2) := by
  rw [ensureDirs, stateM_bind]
  obtain ⟨result,s'⟩ := (MonadDisk.makeDir p : StateM σ _) s
  cases result with
  | ok _ => rfl
  | error fault =>
    cases fault with
    | notFound =>
      simp only
      rw [stateM_bind]
      obtain ⟨result,s''⟩ := (ensureDirs above : StateM σ _) s'
      cases result with
      | ok _ => rfl
      | error fault => rfl
    | _ => rfl

variable [HasDisk σ] {p : Path} {s s' : σ} {result : Except Fault Unit}
open HasDisk

/-- A directory that could not be made may be there all the same. -/
theorem isDir_settles {fault : Fault}
    (h : (if ((MonadDisk.isDir p : StateM σ Bool) s).1 then .ok () else .error fault,
      ((MonadDisk.isDir p : StateM σ Bool) s).2) = (result, s')) :
    disk s' = disk s ∧ (result = .ok () → (disk s').isDir p = true) := by
  cases hq : (MonadDisk.isDir p : StateM σ Bool) s with
  | mk there after =>
    obtain ⟨hanswer,hsame⟩ := (isDir p).eq hq
    rw [hq] at h
    cases there with
    | true =>
      cases h
      exact ⟨hsame,fun _ => by rw [hsame, ← hanswer]⟩
    | false =>
      cases h
      exact ⟨hsame,fun he => nomatch he⟩

/-- Ensuring a directory adds directories, and in the end it is there. -/
theorem settleDir_spec (h : (settleDir p : StateM σ _) s = (result, s')) :
    AddsDirectories (disk s) (disk s') ∧ (result = .ok () → (disk s').isDir p = true) := by
  rw [settleDir_eq] at h
  cases hm : (MonadDisk.makeDir p : StateM σ _) s with
  | mk made middle =>
    rw [hm] at h
    cases made with
    | ok _ =>
      cases h
      have hmade := (makeDir p).ok hm
      exact ⟨addsDirectories_of_makeDir hmade,fun _ => isDir_of_makeDir hmade⟩
    | error fault =>
      obtain ⟨hsame,hdir⟩ := isDir_settles h
      exact ⟨.of_eq (hsame.trans ((makeDir p).error hm)),hdir⟩

theorem ensureDirs_spec {paths : List Path} (h : (ensureDirs paths : StateM σ _) s = (result, s')) :
    AddsDirectories (disk s) (disk s') ∧
      (result = .ok () → ∀ p ∈ paths.head?, (disk s').isDir p = true) := by
  induction paths generalizing s s' result with
  | nil =>
    cases h
    exact ⟨.refl _,fun _ p hp => nomatch hp⟩
  | cons p above ih =>
    rw [List.head?_cons]
    simp only [Option.mem_some_iff, forall_eq']
    rw [ensureDirs_cons_eq] at h
    cases hm : (MonadDisk.makeDir p : StateM σ _) s with
    | mk made middle =>
      rw [hm] at h
      cases made with
      | ok _ =>
        cases h
        have hmade := (makeDir p).ok hm
        exact ⟨addsDirectories_of_makeDir hmade,fun _ => isDir_of_makeDir hmade⟩
      | error fault =>
        have hfailed : disk middle = disk s := (makeDir p).error hm
        by_cases hf : fault = .notFound
        · subst hf
          simp only at h
          cases ha : (ensureDirs above : StateM σ _) middle with
          | mk first last =>
            have habove := (ih ha).1
            rw [hfailed] at habove
            rw [ha] at h
            cases first with
            | ok _ =>
              obtain ⟨hadds,hdir⟩ := settleDir_spec h
              exact ⟨habove.trans hadds,hdir⟩
            | error fault =>
              cases h
              exact ⟨habove,fun he => nomatch he⟩
        · have hstay : (if ((MonadDisk.isDir p : StateM σ Bool) middle).1 then .ok ()
              else .error fault, ((MonadDisk.isDir p : StateM σ Bool) middle).2) = (result, s') := by
            cases fault <;> first | exact absurd rfl hf | exact h
          obtain ⟨hsame,hdir⟩ := isDir_settles hstay
          exact ⟨.of_eq (hsame.trans hfailed),hdir⟩

end Ensuring

/-- A path below which nothing has to be made for it to be a directory. -/
def Settled (d : Disk) (p : Path) : Prop := ∀ q ∈ p.ancestors.head?, d.isDir q = true

/-- A file is ready to be written again: the directories above it are there, and so is it. -/
structure Ready (d : Disk) (p : Path) (place : Place) : Prop where
  above : ∀ q ∈ p.parent, Settled d q
  file : d.LeadsToFile p place

section Again
variable {d d' : Disk} {p : Path} {place : Place}

theorem Settled.mono (h : Settled d p) (hg : Grows d d') : Settled d' p :=
  fun q hq => hg.isDir (h q hq)

theorem ensureDir_of_settled (h : Settled d p) : (ensureDir p : StateM Disk _) d = (.ok (), d) := by
  unfold ensureDir
  cases ha : p.ancestors with
  | nil => rfl
  | cons q above =>
    have hq : d.isDir q = true := h q (by rw [ha]; rfl)
    rw [ensureDirs_cons_eq, makeDir_apply, makeDir_of_isDir hq]
    change (if d.isDir q = true then _ else _, d) = _
    rw [if_pos hq]

theorem Ready.mono (h : Ready d p place) (hg : Grows d d') : Ready d' p place :=
  ⟨fun q hq => (h.above q hq).mono hg,hg.leadsToFile h.file⟩

end Again

section Writing
variable {σ : Type} [MonadDisk (StateM σ)] {p : Path} {content : String} {s s' : σ}

theorem writeFile_eq (p : Path) (content : String) (s : σ) :
    (writeFile p content : StateM σ _) s =
      match p.parent with
      | none => (MonadDisk.store p content : StateM σ _) s
      | some above =>
        match (ensureDir above : StateM σ _) s with
        | (.ok (), s') => (MonadDisk.store p content : StateM σ _) s'
        | (.error fault, s') => (.error fault, s') := by
  unfold writeFile
  cases p.parent with
  | none => rfl
  | some above =>
    simp only
    rw [stateM_bind]
    obtain ⟨result,s'⟩ := (ensureDir above : StateM σ _) s
    cases result with
    | ok _ => rfl
    | error fault => rfl

theorem writeFile_of_ready {d : Disk} {place : Place} (h : Ready d p place) (content : String) :
    (writeFile p content : StateM Disk _) d =
      (.ok (), d.put place (.file content.toUTF8)) := by
  rw [writeFile_eq]
  cases hp : p.parent with
  | none =>
    simp only
    rw [store_apply, h.file.store]
  | some above =>
    simp only
    rw [ensureDir_of_settled (h.above above hp)]
    simp only
    rw [store_apply, h.file.store]

theorem writeNew_eq (p : Path) (content : String) (s : σ) :
    (writeNew p content : StateM σ _) s =
      match (writeFile p content : StateM σ _) s with
      | (.ok (), s') => (.ok .written, s')
      | (.error fault, s') => (.error fault, s') := by
  unfold writeNew
  rw [stateM_bind]
  obtain ⟨result,s'⟩ := (writeFile p content : StateM σ _) s
  cases result with
  | ok _ => rfl
  | error fault => rfl

theorem writeWith_ifMissing_eq (p : Path) (content : String) (s : σ) :
    (writeWith .ifMissing p content : StateM σ _) s =
      match (MonadDisk.hasEntry p : StateM σ Bool) s with
      | (true, s') => (.ok .skipped, s')
      | (false, s') => (writeNew p content : StateM σ _) s' := by
  unfold writeWith
  simp only
  rw [stateM_bind]
  obtain ⟨there,s'⟩ := (MonadDisk.hasEntry p : StateM σ Bool) s
  cases there with
  | true => rfl
  | false => rfl

variable [HasDisk σ]
open HasDisk

theorem ensureDir_spec {result : Except Fault Unit}
    (h : (ensureDir p : StateM σ _) s = (result, s')) :
    AddsDirectories (disk s) (disk s') ∧ (result = .ok () → Settled (disk s') p) :=
  ensureDirs_spec h

/-- What a write does to a disk, by how it went. Directories may have been made in any case. -/
inductive WriteCase (overwrite : Overwrite) (p : Path) (content : String) (d d' : Disk) :
    Except Fault WriteResult → Prop where
  | written {middle : Disk} {place : Place}
      (missing : overwrite = .ifMissing → d.hasEntry p = false)
      (adds : AddsDirectories d middle) (free : middle.entry? place ≠ some .directory)
      (put : d' = middle.put place (.file content.toUTF8)) (ready : Ready d' p place) :
      WriteCase overwrite p content d d' (.ok .written)
  | skipped (rule : overwrite = .ifMissing) (there : d.hasEntry p = true) (same : d' = d) :
      WriteCase overwrite p content d d' (.ok .skipped)
  | failed {fault : Fault} (adds : AddsDirectories d d') :
      WriteCase overwrite p content d d' (.error fault)

theorem WriteCase.grows {overwrite : Overwrite} {d d' : Disk} {result : Except Fault WriteResult}
    (h : WriteCase overwrite p content d d' result) : Grows d d' := by
  cases h with
  | @written middle place _ adds free put _ =>
    rw [put]
    exact adds.grows.trans (grows_put_file free _)
  | skipped _ _ same =>
    rw [same]
    exact .refl d
  | failed adds => exact adds.grows

/-- The directory of a file is there by the time the file is stored. -/
theorem storing_case {d : Disk} (hadds : AddsDirectories d (disk s))
    (habove : ∀ q ∈ p.parent, Settled (disk s) q) {result : Except Fault Unit}
    (h : (MonadDisk.store p content : StateM σ _) s = (result, s')) :
    WriteCase .always p content d (disk s') (result.map fun _ => .written) := by
  cases result with
  | error fault => exact .failed (hadds.trans (.of_eq ((store p content).error h)))
  | ok _ =>
    obtain ⟨place,hdir,hput,hleads⟩ := store_eq_ok ((store p content).ok h)
    refine .written (fun he => nomatch he) hadds hdir hput ⟨?_,hleads⟩
    intro q hq
    rw [hput]
    exact (habove q hq).mono (grows_put_file hdir _)

theorem writeFile_case {result : Except Fault Unit}
    (h : (writeFile p content : StateM σ _) s = (result, s')) :
    WriteCase .always p content (disk s) (disk s') (result.map fun _ => .written) := by
  rw [writeFile_eq] at h
  cases hp : p.parent with
  | none =>
    rw [hp] at h
    refine storing_case (.refl _) ?_ h
    rw [hp]
    exact fun q hq => nomatch hq
  | some parent =>
    rw [hp] at h
    simp only at h
    cases he : (ensureDir parent : StateM σ _) s with
    | mk ensured middle =>
      obtain ⟨hadds,hsettled⟩ := ensureDir_spec he
      rw [he] at h
      cases ensured with
      | error fault =>
        cases h
        exact .failed hadds
      | ok _ =>
        refine storing_case hadds ?_ h
        rw [hp]
        intro q hq
        rw [← Option.some.inj hq]
        exact hsettled rfl

theorem writeNew_case {result : Except Fault WriteResult}
    (h : (writeNew p content : StateM σ _) s = (result, s')) :
    WriteCase .always p content (disk s) (disk s') result := by
  rw [writeNew_eq] at h
  cases hw : (writeFile p content : StateM σ _) s with
  | mk wrote after =>
    have hcase := writeFile_case hw
    rw [hw] at h
    cases wrote with
    | ok _ =>
      cases h
      exact hcase
    | error fault =>
      cases h
      exact hcase

/-- Whatever the rule, a write does one of three things to a disk. -/
theorem writeWith_case {overwrite : Overwrite} {result : Except Fault WriteResult}
    (h : (writeWith overwrite p content : StateM σ _) s = (result, s')) :
    WriteCase overwrite p content (disk s) (disk s') result := by
  cases overwrite with
  | always => exact writeNew_case h
  | ifMissing =>
    rw [writeWith_ifMissing_eq] at h
    cases hq : (MonadDisk.hasEntry p : StateM σ Bool) s with
    | mk there middle =>
      obtain ⟨hanswer,hsame⟩ := (hasEntry p).eq hq
      rw [hq] at h
      cases there with
      | true =>
        cases h
        exact .skipped rfl hanswer.symm hsame
      | false =>
        have hcase := writeNew_case h
        rw [hsame] at hcase
        cases hcase with
        | written _ hadds hfree hput hready =>
          exact .written (fun _ => hanswer.symm) hadds hfree hput hready
        | skipped hrule _ _ => cases hrule
        | failed hadds => exact .failed hadds

end Writing
end RestScaffold
