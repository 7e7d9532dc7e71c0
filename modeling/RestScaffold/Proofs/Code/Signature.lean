import RestScaffold.Proofs.Code.Items

/-! # Signatures on one line and on several

A signature that is too wide for one line is cut behind its opening parenthesis, behind each
parameter and before its closing parenthesis. Nothing but a comma behind the last parameter is added
there, and nothing but the space between two parameters is left out, so that the one line can be read
off the others.
-/
namespace RestScaffold
open Fragment

/-- A text without the comma at its end, if there is one. -/
def withoutComma (s : String) : String :=
  if s.toList.getLast? = some ',' then String.ofList s.toList.dropLast else s

theorem withoutComma_append (s : String) : withoutComma (s ++ ",") = s := by
  have hlist : (s ++ ",").toList = s.toList ++ [','] := String.toList_append
  rw [withoutComma, hlist, List.getLast?_concat, if_pos rfl, List.dropLast_concat, String.ofList_toList]

/-- Parameter lines one after the other, with a space behind each but the last, which has no comma
any more. -/
def joinParameters : List String → String
  | [] => ""
  | [last] => withoutComma last
  | text :: next :: rest => text ++ " " ++ joinParameters (next :: rest)

/-- The one line that is cut into these: the first of them, the parameters, and the last of them. -/
def unwrap : List String → String
  | [] => ""
  | opening :: rest => opening ++ joinParameters rest.dropLast ++ rest.getLast?.getD ""

theorem joinParameters_map (ps : List Parameter) :
    joinParameters (ps.map fun p => p.text ++ ",") =
      String.intercalate ", " (ps.map Parameter.text) := by
  induction ps with
  | nil => rfl
  | cons p rest ih =>
    cases rest with
    | nil => simp [joinParameters, withoutComma_append]
    | cons q rest =>
      have hseparator : p.text ++ "," ++ " " = p.text ++ ", " := String.append_assoc
      simp only [List.map_cons] at ih ⊢
      rw [joinParameters, ih, String.intercalate_cons_cons, hseparator]

namespace FunctionItem

/-- A signature is on one line exactly if that line has at most a hundred bytes, and has a line for
each parameter otherwise. Either way the lines that are written are the one line, cut. -/
theorem signature_unwraps (f : FunctionItem) (depth : Nat) :
    (linesOfAll depth f.signature = [.text depth f.inlineSignature] ↔
      f.inlineSignature.utf8ByteSize ≤ 100) ∧
    (100 < f.inlineSignature.utf8ByteSize → linesOfAll depth f.signature =
      .text depth (f.header ++ "(") ::
        (f.parameters.map (fun p => .text (depth + 1) (p.name ++ ": " ++ p.type ++ ",")) ++
          [.text depth (")" ++ f.resultText ++ " \x7b")])) ∧
    unwrap ((linesOfAll depth f.signature).map CodeLine.content) = f.inlineSignature := by
  by_cases hwidth : f.inlineSignature.utf8ByteSize ≤ maxSignatureWidth
  · have hlines := linesOfAll_signature_of_narrow depth hwidth
    refine ⟨iff_of_true hlines hwidth,fun hwide => absurd hwidth (Nat.not_le.mpr hwide),?_⟩
    rw [hlines]
    simp [CodeLine.content, unwrap, joinParameters]
  · have hlines := linesOfAll_signature_of_wide depth hwidth
    refine ⟨iff_of_false ?_ hwidth,fun _ => hlines,?_⟩
    · intro hone
      simpa [hlines] using congrArg List.length hone
    · have hcontents : (linesOfAll depth f.signature).map CodeLine.content = (f.header ++ "(") ::
          ((f.parameters.map fun p => p.text ++ ",") ++ [")" ++ f.resultText ++ " \x7b"]) := by
        simp [hlines, CodeLine.content, Function.comp_def]
      rw [hcontents, unwrap, List.dropLast_concat, List.getLast?_concat, joinParameters_map,
        inlineSignature]
      simp [String.append_assoc]

/-- A handler with more parameters than fit on a line. -/
def updateUser : FunctionItem :=
  { new "update_user" with
    isAsync := true
    parameters := [⟨"State(pool)","State<PgPool>"⟩,⟨"Path(id)","Path<i64>"⟩,
      ⟨"payload","Result<Json<User>, JsonRejection>"⟩]
    result := some "Response" }

/-- A function whose name alone is too long for a line. -/
def refresh : FunctionItem :=
  new ("recompute_the_monthly_totals_of_every_account_" ++
    "whose_balance_has_changed_since_the_last_settlement")

/-- A comma that belongs to a type stays, and without parameters there is none to drop. -/
theorem updateUser_unwraps :
    100 < updateUser.inlineSignature.utf8ByteSize ∧
    linesOfAll 1 updateUser.signature = [.text 1 "pub async fn update_user(",
      .text 2 "State(pool): State<PgPool>,",.text 2 "Path(id): Path<i64>,",
      .text 2 "payload: Result<Json<User>, JsonRejection>,",.text 1 ") -> Response \x7b"] ∧
    unwrap ((linesOfAll 1 updateUser.signature).map CodeLine.content) =
      "pub async fn update_user(State(pool): State<PgPool>, Path(id): Path<i64>, " ++
        "payload: Result<Json<User>, JsonRejection>) -> Response \x7b" ∧
    100 < refresh.inlineSignature.utf8ByteSize ∧
    linesOfAll 0 refresh.signature = [.text 0 (refresh.header ++ "("),.text 0 ") \x7b"] ∧
    unwrap ((linesOfAll 0 refresh.signature).map CodeLine.content) = refresh.inlineSignature := by
  obtain ⟨_,hlines,hunwrap⟩ := signature_unwraps updateUser 1
  obtain ⟨_,hbare,hrestored⟩ := signature_unwraps refresh 0
  have hwide : 100 < updateUser.inlineSignature.utf8ByteSize := by decide +kernel
  have hlong : 100 < refresh.inlineSignature.utf8ByteSize := by decide +kernel
  exact ⟨hwide,hlines hwide,hunwrap,hlong,hbare hlong,hrestored⟩

end FunctionItem
end RestScaffold
