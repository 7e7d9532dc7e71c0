import RestScaffold.Proofs.Generation.Run

/-! # Files that are finished before they are written

A file of a batch can be written below a directory as it is composed, or be finished away from any
directory and written there later on. The join that is made first does not matter and the header is
part of the content from the start, so both are one write of the same bytes under the same path.
-/
namespace RestScaffold
open Disk

/-- After a write the path leads to what was written. -/
theorem WriteCase.held?_eq {overwrite : Overwrite} {p : Path} {content : String} {d d' : Disk}
    (h : WriteCase overwrite p content d d' (.ok .written)) : d'.held? p = some content.toUTF8 := by
  cases h with
  | written _ _ _ put ready =>
    rw [held?_of_resolve ready.file.resolve, put]
    exact Emitter.file?_put_self _ ready.file.ne_nil _

theorem FileRules.apply_generated (content : String) : generated.apply content =
    if content = "" then generatedHeader ++ "\n" else generatedHeader ++ "\n\n" ++ content := by
  simp only [apply, generated, String.isEmpty_iff]

namespace GeneratedFile
variable {f : GeneratedFile}

theorem fullPath_finish (hne : f.steps ≠ []) (base : Path) :
    f.finish.fullPath base = f.path base :=
  Path.join_below base hne

/-- On any disk a file that has a name is written as the finished file is. -/
theorem write_eq_writeTo {m : Type → Type} [Monad m] [MonadDisk m] (hne : f.steps ≠ [])
    (base : Path) : (f.write base : m (Except Fault WriteResult)) = f.finish.writeTo base := by
  rw [OutputFile.writeTo, fullPath_finish hne]
  rfl

section Writing
variable {σ : Type} [MonadDisk (StateM σ)] [HasDisk σ]
open HasDisk

/-- A generated file is written anew, or a step on the disk fails and no file has changed. -/
theorem write_cases (hrules : f.rules = .generated) {base : Path} {s s' : σ}
    {result : Except Fault WriteResult} (h : (f.write base : StateM σ _) s = (result, s')) :
    (result = .ok .written ∧ (disk s').held? (f.path base) = some f.content.toUTF8) ∨
      ∃ fault, result = .error fault ∧ ∀ place, (disk s').file? place = (disk s).file? place := by
  have hcase := writeWith_case h
  rw [hrules] at hcase
  cases result with
  | error fault =>
    cases hcase with
    | failed adds => exact Or.inr ⟨fault,rfl,adds.files⟩
  | ok outcome =>
    cases outcome with
    | written => exact Or.inl ⟨rfl,hcase.held?_eq⟩
    | skipped =>
      cases hcase with
      | skipped rule _ _ => cases rule

/-- Every file of a batch is written below a directory as the finished file is: under the same path,
with the same bytes, of which the header is the beginning and comes once, and with the same result
and the same disk afterwards. -/
theorem written_as_finished {models : List Model} {layout : Layout} (hf : f ∈ filesOf layout models)
    (base : Path) (s : σ) :
    f.finish.fullPath base = f.path base ∧
    f.finish.content = f.content ∧
    f.content = (if f.source.render = "" then generatedHeader ++ "\n"
      else generatedHeader ++ "\n\n" ++ f.source.render) ∧
    (f.write base : StateM σ _) s = (f.finish.writeTo base : StateM σ _) s ∧
    ∀ result s', (f.write base : StateM σ _) s = (result, s') →
      (result = .ok .written ∧ (disk s').held? (f.path base) = some f.content.toUTF8) ∨
        ∃ fault, result = .error fault ∧
          ∀ place, (disk s').file? place = (disk s).file? place := by
  have hne := steps_ne_nil hf
  have hrules := rules_eq_generated hf
  refine ⟨fullPath_finish hne base,rfl,?_,?_,fun result s' h => write_cases hrules h⟩
  · rw [content, hrules, FileRules.apply_generated]
  · rw [write_eq_writeTo hne]

end Writing

/-- The model of a reserved word, whose module is escaped but not its file. -/
def typeModel : Model := keyOnlyModel "Type" "type" "r#type" "types"

/-- A disk with an older file of handlers for the model. -/
def regenerated : Disk :=
  ⟨[(["out"], .directory), (["out", "handlers"], .directory),
    (["out", "handlers", "type.rs"], .file "old".toUTF8)], []⟩

/-- An older file is replaced alike, below a directory that ends in a separator. -/
theorem typeModel_written_as_finished :
    modelsOf .naive [keyOnlySchema "Type"] = .ok [typeModel] ∧
    typeModel.handlerFile ∈ filesOf .perModel [typeModel] ∧
    typeModel.handlerFile.finish.path = ⟨"handlers/type.rs"⟩ ∧
    typeModel.handlerFile.finish.fullPath ⟨"out/"⟩ = ⟨"out/handlers/type.rs"⟩ ∧
    ∃ d', (typeModel.handlerFile.write ⟨"out/"⟩ : StateM Disk _) regenerated = (.ok .written, d') ∧
      (typeModel.handlerFile.finish.writeTo ⟨"out/"⟩ : StateM Disk _) regenerated =
        (.ok .written, d') ∧
      d'.held? ⟨"out/handlers/type.rs"⟩ = some typeModel.handlerFile.content.toUTF8 := by
  have hf : typeModel.handlerFile ∈ filesOf .perModel [typeModel] :=
    List.mem_cons_of_mem _ (List.mem_cons_of_mem _ List.mem_cons_self)
  have hresult : ((typeModel.handlerFile.write ⟨"out/"⟩ : StateM Disk _) regenerated).1 =
      .ok .written := by
    decide +kernel
  have hpath : typeModel.handlerFile.path ⟨"out/"⟩ = ⟨"out/handlers/type.rs"⟩ := by decide +kernel
  obtain ⟨hfull,_,_,hsame,hdisk⟩ := written_as_finished hf ⟨"out/"⟩ regenerated
  rw [hpath] at hfull hdisk
  refine ⟨by decide +kernel,hf,by decide +kernel,hfull,?_⟩
  cases hwrite : (typeModel.handlerFile.write ⟨"out/"⟩ : StateM Disk _) regenerated with
  | mk result d' =>
    rw [hwrite] at hresult
    obtain rfl : result = .ok .written := hresult
    refine ⟨d',rfl,hsame.symm.trans hwrite,?_⟩
    rcases hdisk _ d' hwrite with ⟨_,hheld⟩ | ⟨_,hfault,_⟩
    · exact hheld
    · cases hfault

end GeneratedFile
end RestScaffold
