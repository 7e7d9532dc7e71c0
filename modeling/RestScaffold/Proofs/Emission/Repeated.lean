import RestScaffold.Proofs.Emission.Account

/-! # Files emitted more than once

A file that was emitted is there from then on, however its path is spelled, so when it is emitted
again its rule alone decides whether it is written or skipped. A report counts a path twice exactly
if it was written once and skipped another time, which takes rules that differ from what became of
the path before.
-/
namespace RestScaffold
open Disk

/-- The rule under which this is what becomes of a file that is there already. -/
def WriteResult.rule : WriteResult → Overwrite
  | written => .always
  | skipped => .ifMissing

theorem WriteResult.rule_injective {a b : WriteResult} (h : a.rule = b.rule) : a = b := by
  cases a <;> cases b <;> first | rfl | cases h

/-- Two files have the same path below a root, spelling apart. -/
def OutputFile.Meets (root : Path) (f g : OutputFile) : Prop :=
  (f.fullPath root).sameAs (g.fullPath root) = true

theorem OutputFile.Meets.symm {root : Path} {f g : OutputFile} (h : f.Meets root g) :
    g.Meets root f := by
  rwa [Meets, Path.sameAs_comm]

/-- The written paths that were skipped as well. -/
def Report.shared (r : Report) : List Path := r.written.filter fun p => r.skipped.any p.sameAs

/-- A report that has each of some paths on one of its lists and not on the other. -/
structure Report.ClassifiesOnce (r : Report) (paths : List Path) : Prop where
  apart : ∀ p ∈ r.written, ∀ q ∈ r.skipped, p.sameAs q = false
  total : r.total = paths.length

theorem Report.shared_eq_nil_iff {r : Report} :
    r.shared = [] ↔ ∀ p ∈ r.written, ∀ q ∈ r.skipped, p.sameAs q = false := by
  simp [shared]

namespace Emitter

section Counting
variable {root : Path}

/-- The ways that some files take from a root, spelling apart. -/
def ways (root : Path) (files : List OutputFile) : Finset (List Component) :=
  (files.map fun f => (f.fullPath root).components).toFinset

theorem map_components_listed (root : Path) (files : List OutputFile) :
    (listed root files).map Path.components =
      (files.map fun f => (f.fullPath root).components).eraseDups := by
  have hmap := map_eraseDupsBy (f := Path.components) (r := Path.sameAs) (fun _ _ => rfl)
    (files.map fun f => f.fullPath root)
  rwa [List.map_map] at hmap

theorem nodup_components_listed (root : Path) (files : List OutputFile) :
    ((listed root files).map Path.components).Nodup := by
  rw [map_components_listed]
  exact nodup_eraseDups _

theorem toFinset_components_listed (root : Path) (files : List OutputFile) :
    ((listed root files).map Path.components).toFinset = ways root files := by
  ext c
  simp [map_components_listed, ways]

theorem length_listed (root : Path) (files : List OutputFile) :
    (listed root files).length = (ways root files).card := by
  rw [← toFinset_components_listed, List.toFinset_card_of_nodup (nodup_components_listed root files),
    List.length_map]

/-- Each file was written or skipped. -/
theorem ways_withResult (root : Path) (done : List (OutputFile × WriteResult)) :
    ways root (withResult .written done) ∪ ways root (withResult .skipped done) =
      ways root (done.map Prod.fst) := by
  induction done with
  | nil => rfl
  | cons d rest ih =>
    obtain ⟨f,result⟩ := d
    have hgrown := congrArg (insert (f.fullPath root).components) ih
    cases result with
    | written => simpa [ways, withResult] using hgrown
    | skipped => simpa [ways, withResult] using hgrown

theorem length_shared (root : Path) (written skipped : List OutputFile) :
    (Report.shared ⟨listed root written,listed root skipped⟩).length =
      (ways root written ∩ ways root skipped).card := by
  have hsub : (Report.shared ⟨listed root written,listed root skipped⟩).Sublist
      (listed root written) := List.filter_sublist
  have hnodup := (nodup_components_listed root written).sublist (hsub.map Path.components)
  rw [← List.length_map Path.components, ← List.toFinset_card_of_nodup hnodup,
    ← toFinset_components_listed, ← toFinset_components_listed]
  congr 1
  ext c
  simp only [Report.shared, List.mem_toFinset, List.mem_map, List.mem_filter, List.any_eq_true,
    Path.sameAs_iff, Finset.mem_inter]
  constructor
  · rintro ⟨p,⟨hp,q,hq,he⟩,rfl⟩
    exact ⟨⟨p,hp,rfl⟩,q,hq,he.symm⟩
  · rintro ⟨⟨p,hp,rfl⟩,q,hq,he⟩
    exact ⟨p,⟨hp,q,hq,he.symm⟩,rfl⟩

/-- A path that was written and skipped is counted twice, any other one once. -/
theorem total_noteResults (root : Path) (done : List (OutputFile × WriteResult)) :
    ((new root).noteResults done).finish.total = (listed root (done.map Prod.fst)).length +
      ((new root).noteResults done).finish.shared.length := by
  rw [noteResults_new]
  change (listed root (withResult .written done)).length +
    (listed root (withResult .skipped done)).length = _ + (Report.shared ⟨_,_⟩).length
  rw [length_shared, length_listed, length_listed, length_listed, ← ways_withResult,
    Finset.card_union_add_card_inter]

theorem mem_withResult {done : List (OutputFile × WriteResult)} {f : OutputFile}
    {result : WriteResult} : f ∈ withResult result done ↔ (f, result) ∈ done := by
  simp [withResult]

theorem listed_apart_iff {files others : List OutputFile} :
    (∀ p ∈ listed root files, ∀ q ∈ listed root others, p.sameAs q = false) ↔
      ∀ f ∈ files, ∀ g ∈ others, ¬f.Meets root g := by
  constructor
  · intro h f hf g hg hmeets
    obtain ⟨p,hp,hfp⟩ := exists_mem_listed root hf
    obtain ⟨q,hq,hgq⟩ := exists_mem_listed root hg
    have hsame : p.sameAs q = true := by
      rwa [← Path.sameAs_congr hgq, Path.sameAs_comm, ← Path.sameAs_congr hfp, Path.sameAs_comm]
    exact absurd ((h p hp q hq).symm.trans hsame) Bool.noConfusion
  · intro h p hp q hq
    obtain ⟨f,hf,rfl⟩ := mem_of_mem_listed hp
    obtain ⟨g,hg,rfl⟩ := mem_of_mem_listed hq
    exact Bool.eq_false_iff.mpr (h f hf g hg)

/-- The same became of two files if they have the same path. -/
def SameEnd (root : Path) (x y : OutputFile × WriteResult) : Prop := x.1.Meets root y.1 → x.2 = y.2

instance (root : Path) : Std.Symm (SameEnd root) := ⟨fun _ _ h hmeets => (h hmeets.symm).symm⟩

theorem shared_noteResults_eq_nil_iff (root : Path) (done : List (OutputFile × WriteResult)) :
    ((new root).noteResults done).finish.shared = [] ↔ done.Pairwise (SameEnd root) := by
  rw [Report.shared_eq_nil_iff, noteResults_new]
  refine listed_apart_iff.trans ?_
  constructor
  · intro h
    refine List.pairwise_of_forall_mem_list ?_
    rintro ⟨f,a⟩ hf ⟨g,b⟩ hg hmeets
    cases a <;> cases b
    · rfl
    · exact absurd hmeets (h f (mem_withResult.mpr hf) g (mem_withResult.mpr hg))
    · exact absurd hmeets.symm (h g (mem_withResult.mpr hg) f (mem_withResult.mpr hf))
    · rfl
  · intro h f hf g hg hmeets
    have hall := List.Pairwise.forall_of_forall (fun x _ _ => rfl) h
    cases hall (mem_withResult.mp hf) (mem_withResult.mp hg) hmeets

end Counting

section Runs
variable {σ : Type} [MonadDisk (StateM σ)] [HasDisk σ] {e e' : Emitter} {s s' : σ} {p : Path}
  {done : List (OutputFile × WriteResult)}
open HasDisk

/-- A file that was there already under some spelling of its path is written or skipped as its rule
says. -/
theorem rule_of_hasEntry {f : OutputFile} {result : WriteResult}
    (h : (e.emit f : StateM σ _) s = ((e', .ok result), s')) (hp : p.Normal) (hf : f.path.Normal)
    (hsame : (e.root.join p).sameAs (f.fullPath e.root) = true)
    (hthere : (disk s).hasEntry (e.root.join p) = true) : f.rules.overwrite = result.rule := by
  obtain ⟨rfl,hcase⟩ := emit_eq_ok h
  have hgrows := hcase.grows
  cases hcase with
  | skipped hrule _ _ => exact hrule
  | written hmissing _ _ _ hready =>
    cases hrule : f.rules.overwrite with
    | always => rfl
    | ifMissing =>
      -- it would have been found under the spelling of `f` as well
      obtain ⟨place,hr⟩ := hasEntry_iff.mp hthere
      have hfile : (disk s').LeadsToFile (e.root.join f.path) _ := hready.file
      have hfound := hgrows.resolve_respelled hp hf hsame hr hfile
      exact absurd ((hmissing hrule).symm.trans (hasEntry_iff.mpr ⟨_,hfound⟩)) Bool.noConfusion

theorem hasEntry_of_emit {f : OutputFile} {result : WriteResult}
    (h : (e.emit f : StateM σ _) s = ((e', .ok result), s')) :
    (disk s').hasEntry (f.fullPath e.root) = true := by
  cases (emit_eq_ok h).2 with
  | written _ _ _ _ hready => exact hasEntry_iff.mpr ⟨_,hready.file.resolve⟩
  | skipped _ hthere hsame => rwa [hsame]

theorem Emits.rules_of_hasEntry (h : Emits e s done e' s')
    (hn : ∀ f ∈ done.map Prod.fst, f.path.Normal) (hp : p.Normal)
    (hthere : (disk s).hasEntry (e.root.join p) = true) :
    ∀ d ∈ done, (e.root.join p).sameAs (d.1.fullPath e.root) = true →
      d.1.rules.overwrite = d.2.rule := by
  induction h with
  | nil => simp
  | @cons e e₁ e' s s₁ s' f result rest first _ ih =>
    obtain ⟨hf,hn⟩ := List.forall_mem_cons.mp hn
    have hroot : e₁.root = e.root := by
      rw [(emit_eq_ok first).1, note_root]
    intro d hd hsame
    rcases List.mem_cons.mp hd with rfl | hd
    · exact rule_of_hasEntry first hp hf hsame hthere
    · rw [hroot] at ih
      exact ih hn ((emit_eq_ok first).2.grows.hasEntry hthere) d hd hsame

/-- What becomes of a path that was emitted before is what the rule says. -/
theorem Emits.rules_again (h : Emits e s done e' s')
    (hn : ∀ f ∈ done.map Prod.fst, f.path.Normal) :
    done.Pairwise fun x y => x.1.Meets e.root y.1 → y.1.rules.overwrite = y.2.rule := by
  induction h with
  | nil => exact .nil
  | @cons e e₁ e' s s₁ s' f result rest first hrest ih =>
    obtain ⟨hf,hn⟩ := List.forall_mem_cons.mp hn
    have hroot : e₁.root = e.root := by
      rw [(emit_eq_ok first).1, note_root]
    have hthere := hasEntry_of_emit first
    rw [hroot] at ih
    refine List.pairwise_cons.mpr ⟨?_,ih hn⟩
    rw [OutputFile.fullPath, ← hroot] at hthere
    have hrules := hrest.rules_of_hasEntry hn hf hthere
    rwa [hroot] at hrules

/-- A path is classified once unless it is emitted again under a rule that does not fit what became
of it before: such a path is on both lists, and it is counted twice. -/
theorem Emits.classifiesOnce_iff {root : Path} (h : Emits (new root) s done e s')
    (hn : ∀ f ∈ done.map Prod.fst, f.path.Normal) :
    e.finish.total = (listed root (done.map Prod.fst)).length + e.finish.shared.length ∧
      (e.finish.ClassifiesOnce (listed root (done.map Prod.fst)) ↔
        done.Pairwise fun x y => x.1.Meets root y.1 → y.1.rules.overwrite = x.2.rule) := by
  have he : e = (new root).noteResults done := h.emitted.1
  have htotal := total_noteResults root done
  have hshared := shared_noteResults_eq_nil_iff root done
  rw [← he] at htotal hshared
  refine ⟨htotal,?_⟩
  have hclassifies : e.finish.ClassifiesOnce (listed root (done.map Prod.fst)) ↔
      e.finish.shared = [] := by
    constructor
    · exact fun hc => Report.shared_eq_nil_iff.mpr hc.apart
    · intro hnil
      refine ⟨Report.shared_eq_nil_iff.mp hnil,?_⟩
      rw [htotal, hnil, List.length_nil, Nat.add_zero]
  rw [hclassifies, hshared]
  -- what becomes of a path that was emitted before is what the rule of the later file says
  have hrules := h.rules_again hn
  constructor
  · intro hends
    refine (hends.and hrules).imp ?_
    rintro x y ⟨hend,hrule⟩ hmeets
    rw [hrule hmeets, hend hmeets]
  · intro hfits
    refine (hfits.and hrules).imp ?_
    rintro x y ⟨hfit,hrule⟩ hmeets
    exact WriteResult.rule_injective ((hfit hmeets).symm.trans (hrule hmeets))

end Runs

/-- A file and the same one with a rule to keep it. -/
def reemitted : List OutputFile := [⟨⟨"a.rs"⟩,"one",.plain⟩, ⟨⟨"a.rs"⟩,"two",.createOnce⟩]

/-- A file that is written and then left alone because it is there is counted twice. -/
theorem reemitted_classifiedTwice : ∃ done e s', Emits (new ⟨"out"⟩) Disk.empty done e s' ∧
    done.map Prod.fst = reemitted ∧ (∀ f ∈ reemitted, f.path.Normal) ∧
    e.finish = ⟨[⟨"out/a.rs"⟩],[⟨"out/a.rs"⟩]⟩ ∧ e.finish.total = 2 ∧
    listed ⟨"out"⟩ reemitted = [⟨"out/a.rs"⟩] ∧
    ¬e.finish.ClassifiesOnce (listed ⟨"out"⟩ reemitted) := by
  have hn : ∀ f ∈ reemitted, f.path.Normal := by decide +kernel
  have hrun : (((new ⟨"out"⟩).emitAll reemitted : StateM Disk _) Disk.empty).1 =
      (⟨⟨"out"⟩,[⟨"out/a.rs"⟩],[⟨"out/a.rs"⟩]⟩, .ok ()) := by
    decide +kernel
  have hlisted : listed ⟨"out"⟩ reemitted = [⟨"out/a.rs"⟩] := by decide +kernel
  obtain ⟨done,e,s',hdone,⟨hfiles,hend⟩ | ⟨_,_,_,_,_,_,hend⟩⟩ :=
    emitAll_cases (new ⟨"out"⟩) reemitted Disk.empty
  · rw [hend] at hrun
    obtain ⟨rfl,_⟩ := Prod.mk.inj hrun
    refine ⟨done,_,s',hdone,hfiles.symm,hn,rfl,rfl,hlisted,?_⟩
    intro hc
    have htotal := hc.total
    rw [hlisted] at htotal
    cases htotal
  · rw [hend] at hrun
    cases hrun

end Emitter

namespace LimitedDisk
open Emitter

/-- A run that leaves a file alone and writes another one twice. -/
theorem drafts_classifiedOnce : ∃ done e s', Emits (new ⟨"out"⟩) crowded done e s' ∧
    done.map Prod.fst = drafts.take 4 ∧ (∀ f ∈ done.map Prod.fst, f.path.Normal) ∧
    (done.Pairwise fun x y => x.1.Meets ⟨"out"⟩ y.1 → y.1.rules.overwrite = x.2.rule) ∧
    e.finish.ClassifiesOnce (listed ⟨"out"⟩ (drafts.take 4)) ∧ e.finish.total = 3 := by
  have hn : ∀ f ∈ drafts.take 4, f.path.Normal := by decide +kernel
  have hrun : (((new ⟨"out"⟩).emitAll (drafts.take 4) : StateM LimitedDisk _) crowded).1 =
      (⟨⟨"out"⟩,[⟨"out/sub/x.rs"⟩, ⟨"out/a.rs"⟩],[⟨"out/notes.md"⟩]⟩, .ok ()) := by
    decide +kernel
  have hlisted : (listed ⟨"out"⟩ (drafts.take 4)).length = 3 := by decide +kernel
  obtain ⟨done,e,s',hdone,⟨hfiles,hend⟩ | ⟨_,_,_,_,_,_,hend⟩⟩ :=
    emitAll_cases (new ⟨"out"⟩) (drafts.take 4) crowded
  · rw [hend] at hrun
    obtain ⟨rfl,_⟩ := Prod.mk.inj hrun
    rw [hfiles] at hn hlisted ⊢
    obtain ⟨_,hiff⟩ := hdone.classifiesOnce_iff hn
    have hclassifies : (Report.mk [⟨"out/sub/x.rs"⟩, ⟨"out/a.rs"⟩] [⟨"out/notes.md"⟩]).ClassifiesOnce
        (listed ⟨"out"⟩ (done.map Prod.fst)) :=
      ⟨by decide +kernel,hlisted.symm⟩
    exact ⟨done,_,s',hdone,rfl,hn,hiff.mp hclassifies,hclassifies,rfl⟩
  · rw [hend] at hrun
    cases hrun

end LimitedDisk
end RestScaffold
