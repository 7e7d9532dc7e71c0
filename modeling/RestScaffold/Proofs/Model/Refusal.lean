import RestScaffold.Proofs.Model.Compose

/-! # What a refused schema says of its slot

Each check blames the slot that it looks at. So a schema whose name is an identifier, and gives a
variable that can be used, is refused for something other than these two.
-/
namespace RestScaffold
variable {c : Convention} {policy : NamingPolicy} {s : Schema} {cause : ModelError}

/-- The slot that an error is about, if it is about one. -/
def ModelError.slot? : ModelError → Option Slot
  | noFields => none
  | missingIdentifier => none
  | emptySlot slot => some slot
  | invalidIdentifier slot _ => some slot
  | invalidLiteral slot _ => some slot
  | reservedName slot _ => some slot
  | duplicateName slot _ _ => some slot

theorem identifierSlot_slot {slot : Slot} {value : String}
    (h : identifierSlot slot value = .error cause) : cause.slot? = some slot := by
  unfold identifierSlot at h
  split at h
  · cases h
    rfl
  · split at h
    · cases h
    · cases h
      rfl

theorem usableSlot_slot {slot : Slot} {value : String}
    (h : usableSlot c slot value = .error cause) : cause.slot? = some slot := by
  unfold usableSlot at h
  split at h
  · cases h
    rfl
  · cases h

theorem tableSlot_slot {value : String} (h : tableSlot value = .error cause) :
    cause.slot? = some .tableName := by
  unfold tableSlot at h
  split at h
  · cases h
    rfl
  · split at h
    · cases h
    · cases h
      rfl

theorem literalSlot_slot {slot : Slot} {value : String}
    (h : literalSlot slot value = .error cause) : cause.slot? = some slot := by
  unfold literalSlot at h
  split at h
  · cases h
    rfl
  · split at h
    · cases h
      rfl
    · cases h

theorem tableOf_slot (h : Model.tableOf policy s = .error cause) :
    cause.slot? = some .tableName := by
  unfold Model.tableOf at h
  split at h
  · exact tableSlot_slot h
  · cases h

/-- A field is refused for its name or for its tag. -/
theorem ofField_slot {f : Field} (h : ModelField.ofField c f = .error cause) :
    cause.slot? = some .field ∨ cause.slot? = some .tag := by
  unfold ModelField.ofField at h
  rcases bind_eq_error_iff.mp h with h | ⟨_,_,h⟩
  · exact Or.inl (identifierSlot_slot h)
  rcases bind_eq_error_iff.mp h with h | ⟨_,_,h⟩
  · exact Or.inl (identifierSlot_slot h)
  rcases bind_eq_error_iff.mp h with h | ⟨_,_,h⟩
  · exact Or.inl (usableSlot_slot h)
  rcases bind_eq_error_iff.mp h with h | ⟨_,_,h⟩
  · exact Or.inr (literalSlot_slot h)
  · cases h

/-- A schema with a usable name is refused neither for it nor for the variable made from it. -/
theorem ofSchema_slot (hname : isIdentifier s.name = true)
    (hvar : c.isForbidden (policy.varName s.name) = false)
    (h : Model.ofSchema policy c s = .error cause) :
    cause.slot? ≠ some .name ∧ cause.slot? ≠ some .varName := by
  have hother : ∀ slot : Slot, slot ≠ .name → slot ≠ .varName → cause.slot? = some slot →
      cause.slot? ≠ some .name ∧ cause.slot? ≠ some .varName := by
    intro slot hn hv he
    simp [he, hn, hv]
  unfold Model.ofSchema at h
  rw [identifierSlot_eq_ok_iff.mpr ⟨hname,rfl⟩] at h
  rcases bind_eq_error_iff.mp h with h | ⟨_,he,h⟩
  · cases h
  cases he
  rcases bind_eq_error_iff.mp h with h | ⟨_,_,h⟩
  · exact hother .tableName (by decide) (by decide) (tableOf_slot h)
  split at h
  · cases h
    exact ⟨nofun,nofun⟩
  rcases bind_eq_error_iff.mp h with h | ⟨fields,_,h⟩
  · obtain ⟨_,f,_,_,_,hf⟩ := mapM_eq_error_iff.mp h
    rcases ofField_slot hf with he | he
    · exact hother .field (by decide) (by decide) he
    · exact hother .tag (by decide) (by decide) he
  split at h
  · rcases bind_eq_error_iff.mp h with h | ⟨_,_,h⟩
    · rw [usableSlot_eq_ok_iff.mpr hvar] at h
      cases h
    rcases bind_eq_error_iff.mp h with h | ⟨_,_,h⟩
    · exact hother .varNamePlural (by decide) (by decide) (usableSlot_slot h)
    · cases h
  · cases h
    exact ⟨nofun,nofun⟩

/-- The fault is that of the name or of the variable made from it: it is empty or no identifier, or
the variable is that of another model. -/
def ModelError.BlamesName : ModelError → Prop
  | emptySlot slot => slot = .name ∨ slot = .varName
  | invalidIdentifier slot _ => slot = .name ∨ slot = .varName
  | duplicateName slot _ _ => slot = .varName
  | _ => False

theorem ModelError.BlamesName.slot (h : cause.BlamesName) :
    cause.slot? = some .name ∨ cause.slot? = some .varName := by
  cases cause with
  | emptySlot slot => exact h.imp (congrArg some) (congrArg some)
  | invalidIdentifier slot value => exact h.imp (congrArg some) (congrArg some)
  | duplicateName slot value other => exact Or.inr (congrArg some h)
  | _ => exact h.elim

theorem ofSchema_not_blamesName (hname : isIdentifier s.name = true)
    (hvar : c.isForbidden (policy.varName s.name) = false)
    (h : Model.ofSchema policy c s = .error cause) : ¬ cause.BlamesName := by
  intro hb
  obtain ⟨hn,hv⟩ := ofSchema_slot hname hvar h
  exact hb.slot.elim hn hv

theorem checkNames_not_blamesName {m : Model} (h : m.checkNames = .error cause) :
    ¬ cause.BlamesName := by
  unfold Model.checkNames at h
  split at h
  · cases h
    exact id
  · split at h
    · cases h
      exact id
    · cases h

theorem clash_not_blamesName {m other : Model} (hne : other.varName ≠ m.varName)
    (h : m.clash other = some cause) : ¬ cause.BlamesName := by
  unfold Model.clash at h
  rw [if_neg hne] at h
  split at h
  · cases h
    exact nofun
  · cases h

end RestScaffold
