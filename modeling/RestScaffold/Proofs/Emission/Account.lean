import RestScaffold.Proofs.Disk.Places
import RestScaffold.Proofs.Distinct
import RestScaffold.Proofs.Emission.Emitter

/-! # What an emitter says of a run

The lists of an emitter name the files that were written and those that were skipped, each once and
in the order of their first mention. They are right about the disk whether the run came to its end
or was stopped by a file that failed.
-/
namespace RestScaffold
open Disk

theorem foldl_noteOnce (ps noted : List Path) :
    ps.foldl (fun noted p => noteOnce p noted) noted.reverse =
      List.eraseDupsBy.loop Path.sameAs ps noted := by
  induction ps generalizing noted with
  | nil => rfl
  | cons p rest ih =>
    rw [List.foldl_cons, noteOnce, List.any_reverse, List.eraseDupsBy.loop]
    cases noted.any p.sameAs with
    | true => exact ih noted
    | false =>
      rw [if_neg Bool.false_ne_true, ← List.reverse_cons]
      exact ih (p :: noted)

namespace Emitter

/-- The paths of some files below a root, each once and under its first spelling. -/
def listed (root : Path) (files : List OutputFile) : List Path :=
  (files.map fun f => f.fullPath root).eraseDupsBy Path.sameAs

section Lists
variable {e : Emitter} {root p : Path} {files : List OutputFile} {f : OutputFile}

theorem noteResults_eq (e : Emitter) (done : List (OutputFile × WriteResult)) :
    e.noteResults done = ⟨e.root,
      ((withResult .written done).map fun f => f.fullPath e.root).foldl
        (fun noted p => noteOnce p noted) e.written,
      ((withResult .skipped done).map fun f => f.fullPath e.root).foldl
        (fun noted p => noteOnce p noted) e.skipped⟩ := by
  induction done generalizing e with
  | nil => rfl
  | cons d rest ih =>
    obtain ⟨f,result⟩ := d
    cases result with
    | written => exact ih (e.note (f.fullPath e.root) .written)
    | skipped => exact ih (e.note (f.fullPath e.root) .skipped)

theorem noteResults_new (root : Path) (done : List (OutputFile × WriteResult)) :
    (new root).noteResults done =
      ⟨root,listed root (withResult .written done),listed root (withResult .skipped done)⟩ := by
  have hloop := fun ps => foldl_noteOnce ps []
  rw [noteResults_eq]
  simp only [new, List.reverse_nil] at hloop ⊢
  rw [hloop, hloop]
  rfl

theorem mem_of_mem_listed (h : p ∈ listed root files) : ∃ f ∈ files, f.fullPath root = p :=
  List.mem_map.mp (mem_of_mem_eraseDupsBy h)

theorem exists_mem_listed (root : Path) (hf : f ∈ files) :
    ∃ p ∈ listed root files, (f.fullPath root).sameAs p = true :=
  exists_mem_eraseDupsBy (fun p => beq_self_eq_true p.components) (List.mem_map_of_mem hf)

end Lists

/-- Of several things of one kind one is the last. -/
theorem exists_last {α : Type} {r : α → Bool} {xs : List α} {x : α} (hx : x ∈ xs)
    (h : r x = true) : ∃ earlier y later, xs = earlier ++ y :: later ∧ r y = true ∧
      ∀ z ∈ later, r z = false := by
  obtain ⟨y,hy⟩ := Option.isSome_iff_exists.mp
    (List.find?_isSome.mpr ⟨x,List.mem_reverse.mpr hx,h⟩)
  obtain ⟨hry,front,back,hsplit,hfront⟩ := List.find?_eq_some_iff_append.mp hy
  refine ⟨back.reverse,y,front.reverse,?_,hry,?_⟩
  · have hreverse := congrArg List.reverse hsplit
    simpa using hreverse
  · intro z hz
    simpa using hfront z (List.mem_reverse.mp hz)

section Places
variable {d d' : Disk} {root : Path} {files earlier later : List OutputFile} {f g : OutputFile}
  {writes : List (Place × Entry)} {w v : Place × Entry} {place : Place}

theorem Wrote.resolve (h : Wrote d root f w) : d.resolve (f.fullPath root) = .ok w.1 :=
  h.ready.file.resolve

theorem Emitted.exists_wrote (h : Emitted d d' root files writes) (hf : f ∈ files) :
    ∃ w, Wrote d' root f w := by
  obtain ⟨before,after,rfl⟩ := List.append_of_mem hf
  obtain ⟨_,w,_,_,hw,_⟩ := exists_of_forall₂_append_cons h.wrote
  exact ⟨w,hw⟩

/-- What goes to a place last is what the place holds. -/
theorem Emitted.held?_last (h : Emitted d d' root files writes) (hs : files = earlier ++ f :: later)
    (hlast : ∀ g ∈ later, d'.resolve (g.fullPath root) ≠ d'.resolve (f.fullPath root)) :
    d'.held? (f.fullPath root) = some f.content.toUTF8 := by
  subst hs
  obtain ⟨before,w,after,rfl,hw,hafter⟩ := exists_of_forall₂_append_cons h.wrote
  have hfree : w.1 ∉ after.map Prod.fst := by
    intro hin
    obtain ⟨u,hu,he⟩ := List.mem_map.mp hin
    obtain ⟨k,hk,hwrote⟩ := exists_of_mem_right hafter hu
    refine hlast k hk ?_
    rw [hwrote.resolve, hw.resolve, he]
  have hlookup : (before ++ w :: after).reverse.lookup w.1 = some w.2 := by
    rw [List.reverse_append, List.reverse_cons, List.append_assoc, List.lookup_append,
      lookup_reverse_eq_none_iff.mpr hfree, Option.none_or, List.singleton_append,
      List.lookup_cons_self]
  have hentry := h.last w.1 w.2 hlookup
  rw [hw.bytes] at hentry
  rw [held?_of_resolve hw.resolve]
  exact file?_eq_some_iff.mpr hentry

/-- Files whose paths go down from the root are at one place exactly if they have one path. -/
theorem Emitted.resolve_eq_iff (h : Emitted d d' root files writes)
    (hn : ∀ f ∈ files, f.path.Normal) (hf : f ∈ files) (hg : g ∈ files) :
    d'.resolve (f.fullPath root) = d'.resolve (g.fullPath root) ↔
      (f.fullPath root).sameAs (g.fullPath root) = true := by
  obtain ⟨w,hw⟩ := h.exists_wrote hf
  obtain ⟨v,hv⟩ := h.exists_wrote hg
  rw [hw.resolve, hv.resolve, Except.ok.injEq]
  exact resolve_join_eq_iff (hn f hf) (hn g hg) hw.resolve hv.resolve

/-- Of several files under one path the last one stays, however the path is spelled. -/
theorem Emitted.held?_eq (h : Emitted d d' root files writes)
    (hn : ∀ f ∈ files, f.path.Normal) (hs : files = earlier ++ f :: later)
    (hlast : ∀ g ∈ later, (g.fullPath root).sameAs (f.fullPath root) = false)
    (hg : g ∈ files) (hsame : (g.fullPath root).sameAs (f.fullPath root) = true) :
    d'.held? (g.fullPath root) = some f.content.toUTF8 := by
  have hf : f ∈ files := by simp [hs]
  rw [held?_congr ((h.resolve_eq_iff hn hg hf).mpr hsame)]
  refine h.held?_last hs ?_
  -- a later file at the same place would have the same path, spelling apart
  intro k hk he
  have hkf := (h.resolve_eq_iff hn (by simp [hs, hk]) hf).mp he
  exact absurd (hkf.symm.trans (hlast k hk)) Bool.noConfusion

/-- Each path that is listed holds the last of the files it was written for. -/
theorem Emitted.held?_of_listed (h : Emitted d d' root files writes)
    (hn : ∀ f ∈ files, f.path.Normal) {p : Path} (hp : p ∈ listed root files) :
    ∃ earlier f later, files = earlier ++ f :: later ∧ (f.fullPath root).sameAs p = true ∧
      (∀ g ∈ later, (g.fullPath root).sameAs p = false) ∧
      d'.held? p = some f.content.toUTF8 := by
  obtain ⟨g,hg,rfl⟩ := mem_of_mem_listed hp
  obtain ⟨earlier,f,later,hsplit,hsame,hlast⟩ :=
    exists_last (r := fun f => (f.fullPath root).sameAs (g.fullPath root)) hg (beq_self_eq_true _)
  refine ⟨earlier,f,later,hsplit,hsame,hlast,h.held?_eq hn hsplit ?_ hg ?_⟩
  · intro k hk
    rw [Path.sameAs_congr hsame]
    exact hlast k hk
  · rwa [Path.sameAs_comm]

/-- A place that no path leads to holds what it held before. -/
theorem Emitted.file?_eq (h : Emitted d d' root files writes)
    (hp : ∀ f ∈ files, d'.resolve (f.fullPath root) ≠ .ok place) :
    d'.file? place = d.file? place := by
  refine h.rest place ?_
  intro hin
  obtain ⟨w,hw,rfl⟩ := List.mem_map.mp hin
  obtain ⟨f,hf,hwrote⟩ := exists_of_mem_right h.wrote hw
  exact hp f hf hwrote.resolve

/-- A place that no listed path leads to holds what it held before, since the other spellings of a
listed path lead to the same place. -/
theorem Emitted.file?_of_listed (h : Emitted d d' root files writes)
    (hn : ∀ f ∈ files, f.path.Normal) (hp : ∀ p ∈ listed root files, d'.resolve p ≠ .ok place) :
    d'.file? place = d.file? place := by
  refine h.file?_eq ?_
  intro f hf hr
  obtain ⟨p,hlisted,hsame⟩ := exists_mem_listed root hf
  obtain ⟨g,hg,rfl⟩ := mem_of_mem_listed hlisted
  obtain ⟨v,hv⟩ := h.exists_wrote hg
  refine hp _ hlisted ?_
  rw [hv.resolve, (resolve_join_eq_iff (hn f hf) (hn g hg) hr hv.resolve).mpr hsame]

/-- What was there from the start stays unless its path is listed. -/
theorem Emitted.held?_kept (h : Emitted d d' root files writes) (hn : ∀ f ∈ files, f.path.Normal)
    {q : Path} (hq : q.Normal) (hthere : d.hasEntry (root.join q) = true)
    (hother : ∀ p ∈ listed root files, p.sameAs (root.join q) = false) :
    d'.held? (root.join q) = d.held? (root.join q) := by
  obtain ⟨place,hr⟩ := hasEntry_iff.mp hthere
  have hlater := h.grows.resolve hr
  rw [held?_of_resolve hr, held?_of_resolve hlater]
  refine h.file?_of_listed hn ?_
  intro p hp hrp
  obtain ⟨g,hg,rfl⟩ := mem_of_mem_listed hp
  have hsame := (resolve_join_eq_iff (hn g hg) hq hrp hlater).mp rfl
  exact absurd (hsame.symm.trans (hother _ hp)) Bool.noConfusion

end Places

/-- The lists of an emitter are right about some files and what has become of the disk. -/
structure Accounts (root : Path) (done : List (OutputFile × WriteResult)) (e : Emitter)
    (d d' : Disk) : Prop where
  written : e.written = listed root (withResult .written done)
  skipped : e.skipped = listed root (withResult .skipped done)
  /-- A path that was written holds the content of the last file written there. -/
  last : ∀ p ∈ e.written, ∃ earlier f later, withResult .written done = earlier ++ f :: later ∧
    (f.fullPath root).sameAs p = true ∧ (∀ g ∈ later, (g.fullPath root).sameAs p = false) ∧
    d'.held? p = some f.content.toUTF8
  /-- A place that no written path leads to holds what it held before. -/
  rest : ∀ place, (∀ p ∈ e.written, d'.resolve p ≠ .ok place) → d'.file? place = d.file? place
  /-- A file that is always overwritten is written. -/
  always : ∀ f result, (f, result) ∈ done → f.rules.overwrite = .always → result = .written
  /-- What was there from the start is not written where it must not be overwritten. -/
  missing : ∀ f result, (f, result) ∈ done → f.rules.overwrite = .ifMissing →
    d.hasEntry (f.fullPath root) = true → result = .skipped
  /-- What was there from the start stays unless its path was written. -/
  kept : ∀ q : Path, q.Normal → d.hasEntry (root.join q) = true →
    (∀ p ∈ e.written, p.sameAs (root.join q) = false) →
    d'.held? (root.join q) = d.held? (root.join q)

section Runs
variable {σ : Type} [MonadDisk (StateM σ)] [HasDisk σ] {e e' : Emitter} {s s' : σ}
  {done : List (OutputFile × WriteResult)}
open HasDisk

theorem Emits.skipped_of_there {f : OutputFile} {result : WriteResult} (h : Emits e s done e' s')
    (hin : (f, result) ∈ done) (hrule : f.rules.overwrite = .ifMissing)
    (hthere : (disk s).hasEntry (f.fullPath e.root) = true) : result = .skipped := by
  induction h with
  | nil => exact absurd hin List.not_mem_nil
  | @cons e e₁ e' s s₁ s' g first rest emitted _ ih =>
    obtain ⟨rfl,hcase⟩ := emit_eq_ok emitted
    rcases List.mem_cons.mp hin with he | hin
    · cases he
      cases hcase with
      | written hmissing _ _ _ _ =>
        rw [hmissing hrule] at hthere
        cases hthere
      | skipped _ _ _ => rfl
    · refine ih hin ?_
      rw [note_root]
      exact hcase.grows.hasEntry hthere

theorem withResult_subset {result : WriteResult} {f : OutputFile}
    (hf : f ∈ withResult result done) : f ∈ done.map Prod.fst := by
  obtain ⟨x,hx,rfl⟩ := List.mem_map.mp hf
  exact List.mem_map_of_mem (List.mem_filter.mp hx).1

/-- The lists are right, and stay so where a file that fails adds directories. -/
theorem Emits.accounts {root : Path} {d' : Disk} (h : Emits (new root) s done e s')
    (hn : ∀ f ∈ done.map Prod.fst, f.path.Normal) (hadds : AddsDirectories (disk s') d') :
    Accounts root done e (disk s) d' := by
  obtain ⟨he,writes,hran⟩ := h.emitted
  have hemitted : Emitted (disk s) d' root (withResult .written done) writes := hran.before hadds
  rw [noteResults_new] at he
  have hwritten : e.written = listed root (withResult .written done) := by rw [he]
  have hnormal : ∀ f ∈ withResult .written done, f.path.Normal :=
    fun f hf => hn f (withResult_subset hf)
  refine ⟨hwritten,by rw [he],?_,?_,?_,?_,?_⟩
  · intro p hp
    exact hemitted.held?_of_listed hnormal (hwritten ▸ hp)
  · intro place hp
    exact hemitted.file?_of_listed hnormal (hwritten ▸ hp)
  · intro f result hin hrule
    exact h.written_of_always hin hrule
  · intro f result hin hrule hthere
    exact h.skipped_of_there hin hrule hthere
  · intro q hq hthere hother
    exact hemitted.held?_kept hnormal hq hthere (hwritten ▸ hother)

/-- A run that emits files comes to its end or is stopped by a file. Either way its lists are right
about the files before, the file that stops it changes no list and no file, and what comes after
that file does not matter. -/
theorem emitAll_accounts (root : Path) (files : List OutputFile)
    (hn : ∀ f ∈ files, f.path.Normal) (s : σ) :
    ∃ done e s₁, Emits (new root) s done e s₁ ∧
      (files = done.map Prod.fst ∧
          ((new root).emitAll files : StateM σ _) s = ((e, .ok ()), s₁) ∧
          Accounts root done e (disk s) (disk s₁) ∨
        ∃ f rest cause s', files = done.map Prod.fst ++ f :: rest ∧
          (e.emit f : StateM σ _) s₁ = ((e, .error cause), s') ∧
          (∀ place, (disk s').file? place = (disk s₁).file? place) ∧
          (∀ others, ((new root).emitAll (done.map Prod.fst ++ f :: others) : StateM σ _) s =
            ((e, .error cause), s')) ∧
          Accounts root done e (disk s) (disk s')) := by
  obtain ⟨done,e,s₁,hdone,hend⟩ := emitAll_cases (new root) files s
  refine ⟨done,e,s₁,hdone,?_⟩
  rcases hend with ⟨rfl,hrun⟩ | ⟨f,rest,cause,s',rfl,hfail,_⟩
  · exact Or.inl ⟨rfl,hrun,hdone.accounts hn (.refl _)⟩
  · have hfront : ∀ g ∈ done.map Prod.fst, g.path.Normal :=
      fun g hg => hn g (List.mem_append_left _ hg)
    obtain ⟨_,_,hadds⟩ := emit_eq_error hfail
    exact Or.inr ⟨f,rest,cause,s',rfl,hfail,hadds.files,fun others => hdone.emitAll_stop hfail others,
      hdone.accounts hfront hadds⟩

end Runs
end Emitter

/-- A disk with room for so many more files to be stored. -/
structure LimitedDisk where
  disk : Disk
  room : Nat

namespace LimitedDisk

/-- A step on the disk that needs no room. -/
def lift {α : Type} (step : StateM Disk α) : StateM LimitedDisk α := fun s =>
  ((step s.disk).1, ⟨(step s.disk).2, s.room⟩)

def noRoom : Fault := .other "No space left on device (os error 28)"

instance : MonadDisk (StateM LimitedDisk) where
  makeDir p := lift (MonadDisk.makeDir p)
  isDir p := lift (MonadDisk.isDir p)
  hasEntry p := lift (MonadDisk.hasEntry p)
  store p content := fun s =>
    if s.room = 0 then (.error noRoom, s) else lift (MonadDisk.store p content) ⟨s.disk, s.room - 1⟩
  load p := lift (MonadDisk.load p)

theorem follows_lift {step : StateM Disk (Except Fault Unit)}
    {change : Disk → Except Fault Disk} (h : Follows (fun d => d) step change) :
    Follows disk (lift step) change := by
  constructor
  · intro s s' hs
    obtain ⟨hr,rfl⟩ := Prod.mk.inj hs
    exact h.ok (Prod.ext hr rfl)
  · intro s s' fault hs
    obtain ⟨hr,rfl⟩ := Prod.mk.inj hs
    exact h.error (Prod.ext hr rfl)

theorem answers_lift {question : StateM Disk Bool} {answer : Disk → Bool}
    (h : Answers (fun d => d) question answer) : Answers disk (lift question) answer := by
  constructor
  intro s s' b hs
  obtain ⟨hr,rfl⟩ := Prod.mk.inj hs
  exact h.eq (Prod.ext hr rfl)

instance : HasDisk LimitedDisk where
  disk := disk
  makeDir p := follows_lift (HasDisk.makeDir p)
  isDir p := answers_lift (HasDisk.isDir p)
  hasEntry p := answers_lift (HasDisk.hasEntry p)
  load p _ _ _ h := by
    obtain ⟨_,rfl⟩ := Prod.mk.inj h
    rfl
  store p content := by
    have hlift := follows_lift (follows_attempt fun d => d.store p content)
    constructor
    · intro s s' hs
      by_cases hroom : s.room = 0
      · simp only [MonadDisk.store, hroom, ↓reduceIte] at hs
        cases hs
      · simp only [MonadDisk.store, hroom, ↓reduceIte] at hs
        exact hlift.ok (s := ⟨s.disk, s.room - 1⟩) hs
    · intro s s' fault hs
      by_cases hroom : s.room = 0
      · simp only [MonadDisk.store, hroom, ↓reduceIte] at hs
        cases hs
        rfl
      · simp only [MonadDisk.store, hroom, ↓reduceIte] at hs
        exact hlift.error (s := ⟨s.disk, s.room - 1⟩) hs

/-- A directory with a file in it, and room for three more. -/
def crowded : LimitedDisk :=
  ⟨⟨[(["out"], .directory), (["out", "notes.md"], .file "kept".toUTF8)], []⟩, 3⟩

/-- Files of which one is there already and one comes twice, in two spellings. -/
def drafts : List OutputFile :=
  [⟨⟨"sub/x.rs"⟩,"one",.plain⟩, ⟨⟨"notes.md"⟩,"new",.createOnce⟩, ⟨⟨"sub//x.rs"⟩,"two",.plain⟩,
    ⟨⟨"a.rs"⟩,"a",.plain⟩, ⟨⟨"b.rs"⟩,"b",.plain⟩, ⟨⟨"c.rs"⟩,"c",.plain⟩]

open Emitter in
/-- A run that is stopped by the fourth file to be stored. -/
theorem drafts_account : (∀ f ∈ drafts, f.path.Normal) ∧ ∃ done e s',
    ((new ⟨"out"⟩).emitAll drafts : StateM LimitedDisk _) crowded =
      ((e, .error (.disk ⟨"out/b.rs"⟩ noRoom)), s') ∧
    e = ⟨⟨"out"⟩,[⟨"out/sub/x.rs"⟩, ⟨"out/a.rs"⟩],[⟨"out/notes.md"⟩]⟩ ∧
    Accounts ⟨"out"⟩ done e crowded.disk s'.disk := by
  have hn : ∀ f ∈ drafts, f.path.Normal := by decide +kernel
  have hstop : (((new ⟨"out"⟩).emitAll drafts : StateM LimitedDisk _) crowded).1 =
      (⟨⟨"out"⟩,[⟨"out/sub/x.rs"⟩, ⟨"out/a.rs"⟩],[⟨"out/notes.md"⟩]⟩,
        .error (.disk ⟨"out/b.rs"⟩ noRoom)) := by
    decide +kernel
  refine ⟨hn,?_⟩
  obtain ⟨done,e,s₁,_,⟨_,hrun,_⟩ | ⟨f,rest,cause,s',hfiles,_,_,hrun,haccounts⟩⟩ :=
    emitAll_accounts ⟨"out"⟩ drafts hn crowded
  · rw [hrun] at hstop
    cases hstop
  · have hall := hrun rest
    rw [← hfiles] at hall
    rw [hall] at hstop
    obtain ⟨rfl,hcause⟩ := Prod.mk.inj hstop
    obtain rfl := Except.error.inj hcause
    exact ⟨done,_,s',hall,rfl,haccounts⟩

end LimitedDisk
end RestScaffold
