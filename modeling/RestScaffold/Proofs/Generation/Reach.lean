import RestScaffold.Proofs.Generation.Run

/-! # What a run can change

A run that is stopped half way, like one that comes to its end, changes no file but those that its
paths lead to. These stand below the output directory, wherever the paths to it may lead.
-/
namespace RestScaffold
open Disk

namespace Disk
variable {d : Disk} {place : Place} {base p : Path}

/-- The place of an output directory; the empty path stands for the current one. -/
def baseOf (d : Disk) (base : Path) : Except Fault Place :=
  if base.text = "" then .ok d.current else d.resolve base

theorem checkPath_eq_ok_iff : checkPath p = .ok () ↔
    Char.ofNat 0 ∉ p.text.toList ∧ p.text ≠ "" ∧ p.text.utf8ByteSize ≤ maxPath := by
  unfold checkPath
  by_cases hzero : Char.ofNat 0 ∈ p.text.toList
  · simp [hzero]
  · by_cases hempty : p.text = ""
    · simp [hempty]
    · simp [hzero, hempty]

theorem exists_text_join (base : Path) (hp : p.isAbsolute = false) :
    ∃ more, (base.join p).text = base.text ++ more := by
  by_cases hclosed : base.text = "" ∨ base.text.toList.getLast? = some '/'
  · rw [Path.join_of_closed hp hclosed]
    exact ⟨p.text,rfl⟩
  · obtain ⟨hne,hopen⟩ := not_or.mp hclosed
    rw [Path.join_of_open hp hne hopen]
    exact ⟨String.singleton '/' ++ p.text,String.append_assoc⟩

theorem checkPath_of_join (hne : base.text ≠ "") (hp : p.isAbsolute = false)
    (h : checkPath (base.join p) = .ok ()) : checkPath base = .ok () := by
  obtain ⟨more,htext⟩ := exists_text_join base hp
  obtain ⟨hzero,_,hsize⟩ := checkPath_eq_ok_iff.mp h
  rw [htext, String.toList_append, List.mem_append] at hzero
  rw [htext, String.utf8ByteSize_append] at hsize
  exact checkPath_eq_ok_iff.mpr ⟨fun hin => hzero (Or.inl hin),hne,by omega⟩

/-- Apart from a last separator, a path is its stem. -/
theorem startOf_eq (d : Disk) (hne : base.text ≠ "") : ∃ back, (∀ part ∈ back, part = "") ∧
    d.startOf base = ((d.stemStart base).1, (d.stemStart base).2 ++ back) := by
  have hparts : ∃ back, (∀ part ∈ back, part = "") ∧ base.parts = base.stem ++ back := by
    rw [Path.stem, if_neg hne]
    split
    · rename_i hlast
      obtain ⟨front,_,hfront⟩ := Path.parts_of_closed hlast
      exact ⟨[""],by simp,by rw [hfront, List.dropLast_concat]⟩
    · exact ⟨[],by simp,(List.append_nil _).symm⟩
  obtain ⟨back,hback,hparts⟩ := hparts
  refine ⟨back,hback,?_⟩
  unfold startOf stemStart
  cases ha : base.isAbsolute with
  | false => simp [hparts]
  | true =>
    obtain ⟨first,rest,hs⟩ := List.exists_cons_of_ne_nil (Path.stem_ne_nil ha)
    simp [hparts, hs]

/-- What a path leads to that goes down from a base stands below the place of the base. -/
theorem below_baseOf (h : p.Normal) (hr : d.resolve (base.join p) = .ok place) : ∃ root,
    d.baseOf base = .ok root ∧ place = root ++ p.steps := by
  obtain ⟨hcheck,hw⟩ := resolve_eq_ok_iff.mp hr
  rw [startOf_join d base h] at hw
  obtain ⟨root,hroot,hw⟩ := walk_append_eq_ok_iff.mp hw
  refine ⟨root,?_,walk_downward h.downward hw⟩
  obtain ⟨first,rest,hparts⟩ := List.exists_cons_of_ne_nil (splitOnChar_ne_nil '/' p.text)
  have hdir : d.entry? root = some .directory := by
    change d.walk root (splitOnChar '/' p.text) = _ at hw
    rw [hparts] at hw
    exact directory_of_walk hw
  unfold baseOf
  by_cases hne : base.text = ""
  · have hstart : d.stemStart base = (d.current, []) := by
      simp [stemStart, Path.isAbsolute, Path.stem, hne]
    rw [hstart] at hroot
    rw [if_pos hne]
    exact hroot
  · obtain ⟨back,hback,hstart⟩ := startOf_eq d hne
    rw [if_neg hne]
    refine resolve_eq_ok_iff.mpr ⟨checkPath_of_join hne h.isAbsolute hcheck,?_⟩
    rw [hstart]
    exact walk_append_eq_ok_iff.mpr ⟨root,hroot,walk_empties hdir hback⟩

end Disk

section Runs
variable {σ : Type} [MonadDisk (StateM σ)] [HasDisk σ] {files : List OutputFile} {root : Path}
  {s s' : σ} {place : Place}
open HasDisk

theorem Emitter.emitAll_file?_eq {outcome : Emitter × Except GenerationError Unit}
    (h : ((new root).emitAll files : StateM σ _) s = (outcome, s'))
    (hp : ∀ f ∈ files, (disk s').resolve (f.fullPath root) ≠ .ok place) :
    (disk s').file? place = (disk s).file? place := by
  obtain ⟨done,e,s₁,hdone,hend⟩ := emitAll_cases (new root) files s
  obtain ⟨_,writes,hemitted⟩ := hdone.emitted
  rcases hend with ⟨rfl,hrun⟩ | ⟨f,rest,cause,s₂,rfl,hfail,hrun⟩
  · cases hrun.symm.trans h
    exact hemitted.file?_eq fun f hf => hp f (withResult_subset hf)
  · cases hrun.symm.trans h
    obtain ⟨_,_,hadds⟩ := emit_eq_error hfail
    refine (hemitted.before hadds).file?_eq ?_
    exact fun g hg => hp g (List.mem_append_left _ (withResult_subset hg))

/-- Making the directories of a run changes no file. -/
theorem Emitter.writeFiles_file?_eq {outcome : Emitter × Except GenerationError Unit}
    (h : ((new root).writeFiles files : StateM σ _) s = (outcome, s'))
    (hp : ∀ f ∈ files, (disk s').resolve (f.fullPath root) ≠ .ok place) :
    (disk s').file? place = (disk s).file? place := by
  rw [writeFiles_eq] at h
  cases hfirst : ((new root).createDir ⟨"handlers"⟩ : StateM σ _) s with
  | mk first middle =>
    obtain ⟨hadds,_⟩ := createDir_spec hfirst
    rw [hfirst] at h
    cases first with
    | error cause =>
      cases h
      exact hadds.files place
    | ok _ =>
      simp only at h
      cases hsecond : ((new root).createDir ⟨""⟩ : StateM σ _) middle with
      | mk second last =>
        obtain ⟨hmore,_⟩ := createDir_spec hsecond
        have hdirs := (hmore.files place).trans (hadds.files place)
        rw [hsecond] at h
        cases second with
        | error cause =>
          cases h
          exact hdirs
        | ok _ => exact (emitAll_file?_eq h hp).trans hdirs

/-- Where a file has changed, a path of the run leads, however the run went. -/
theorem Job.leads_where_changed {j : Job} (h : j.render = .ok files)
    {result : Except GenerationFailure Report}
    (hg : (j.generate root : StateM σ _) s = (result, s'))
    (hne : (disk s').file? place ≠ (disk s).file? place) :
    ∃ f ∈ files, (disk s').resolve (root.join f.path) = .ok place := by
  rw [generate_of_ok h] at hg
  cases hw : ((Emitter.new root).writeFiles files : StateM σ _) s with
  | mk outcome last =>
    have hsame : s' = last := by
      rw [hw] at hg
      obtain ⟨e,ended⟩ := outcome
      cases ended with
      | ok _ =>
        cases hg
        rfl
      | error cause =>
        cases hg
        rfl
    subst hsame
    by_contra hnone
    refine hne (Emitter.writeFiles_file?_eq hw ?_)
    intro f hf hr
    exact hnone ⟨f,hf,hr⟩

end Runs

open HasDisk in
/-- Whatever it starts from and however it ends, a run changes files only where some paths lead that
go down from the output directory. -/
def Job.StaysBelow (j : Job) (files : List OutputFile) (output : Path) : Prop :=
  ∀ (σ : Type) [MonadDisk (StateM σ)] [HasDisk σ] (s s' : σ)
    (result : Except GenerationFailure Report),
    (j.generate output : StateM σ _) s = (result, s') →
      ∀ place, (disk s').file? place ≠ (disk s).file? place →
        ∃ f ∈ files, ∃ root, (disk s').baseOf output = .ok root ∧ place = root ++ f.path.steps

theorem Job.staysBelow {j : Job} {files : List OutputFile} (hl : j.policy.LowersNames)
    (h : j.render = .ok files) (output : Path) : j.StaysBelow files output := by
  have hn : ∀ f ∈ files, f.path.Normal := by
    intro f hf
    obtain ⟨_,names,hunder⟩ := under_of_render hl h f hf
    exact hunder.normal
  intro σ _ _ s s' result hg place hne
  obtain ⟨f,hf,hr⟩ := leads_where_changed h hg hne
  exact ⟨f,hf,below_baseOf (hn f hf) hr⟩

end RestScaffold
