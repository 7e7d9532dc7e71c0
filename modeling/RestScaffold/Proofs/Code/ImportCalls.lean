import RestScaffold.Proofs.Code.Items
import RestScaffold.Proofs.Keyed

/-! # Imports that were asked for

Every call on the imports of a file adds a symbol from a module or opens the module itself. All that
it changes is the symbols of its module, and a module keeps the place of its first mention. So after
any calls the groups are the modules in the order of first mention, each with its symbols in
ascending order, and nothing else of the calls is left.
-/
namespace RestScaffold

/-- A call on the imports of a file. -/
inductive ImportCall where
  | add (module symbol : String)
  | addPath (path : String)
  | addModule (module : String)
  deriving DecidableEq, Repr

/-- What a call asks for: a symbol of a module or, without one, the module itself. -/
structure ImportRequest where
  module : String
  symbol? : Option String
  deriving DecidableEq, Repr

namespace ImportCall

/-- The symbols that a call adds from a module. -/
def Adds : ImportCall → String → String → Prop
  | add m s, module, symbol => m = module ∧ s = symbol
  | addPath path, module, symbol => CutsLast path module symbol
  | addModule _, _, _ => False

/-- The module that a call opens as such: a path without colons is one. -/
def Opens : ImportCall → String → Prop
  | add _ _, _ => False
  | addPath path, module => path = module ∧ ∀ m s, path ≠ m ++ "::" ++ s
  | addModule m, module => m = module

def request : ImportCall → ImportRequest
  | add m s => ⟨m,some s⟩
  | addPath path =>
    match Imports.cutAtColons [] path.toList.reverse with
    | some (m,s) => ⟨m,some s⟩
    | none => ⟨path,none⟩
  | addModule m => ⟨m,none⟩

theorem request_eq_symbol_iff {c : ImportCall} {module symbol : String} :
    c.request = ⟨module,some symbol⟩ ↔ c.Adds module symbol := by
  cases c with
  | add m s => simp [request, Adds]
  | addPath path =>
    rw [request, Adds, ← Imports.cutAtColons_eq_some_iff]
    cases Imports.cutAtColons [] path.toList.reverse with
    | none => simp
    | some cut => simp [Prod.ext_iff]
  | addModule m => simp [request, Adds]

theorem request_eq_module_iff {c : ImportCall} {module : String} :
    c.request = ⟨module,none⟩ ↔ c.Opens module := by
  cases c with
  | add m s => simp [request, Opens]
  | addPath path =>
    rw [request, Opens, ← Imports.cutAtColons_eq_none_iff]
    cases Imports.cutAtColons [] path.toList.reverse with
    | none => simp
    | some cut => simp
  | addModule m => simp [request, Opens]

/-- What a call asks for by its path: a symbol of a module or the module. -/
def path : ImportCall → String
  | add m s => m ++ "::" ++ s
  | addPath path => path
  | addModule m => m

theorem path_eq_of_adds {c : ImportCall} {module symbol : String} (h : c.Adds module symbol) :
    c.path = module ++ "::" ++ symbol := by
  cases c with
  | add m s =>
    obtain ⟨rfl,rfl⟩ := h
    rfl
  | addPath path => exact h.cut
  | addModule m => exact h.elim

theorem path_eq_of_opens {c : ImportCall} {module : String} (h : c.Opens module) :
    c.path = module := by
  cases c with
  | add m s => exact h.elim
  | addPath path => exact h.1
  | addModule m => exact h

theorem module_request_iff {c : ImportCall} {module : String} :
    c.request.module = module ↔ (∃ symbol, c.Adds module symbol) ∨ c.Opens module := by
  simp only [← request_eq_symbol_iff, ← request_eq_module_iff]
  obtain ⟨m,s?⟩ := c.request
  cases s? <;> simp

theorem adds_or_opens (c : ImportCall) :
    (∃ module symbol, c.Adds module symbol) ∨ c.Opens c.path := by
  rcases module_request_iff.mp (Eq.refl c.request.module) with ⟨symbol,h⟩ | h
  · exact Or.inl ⟨_,symbol,h⟩
  · rw [path_eq_of_opens h]
    exact Or.inr h

/-- What a call does to the symbols of its module. -/
def change (c : ImportCall) : List String → List String :=
  c.request.symbol?.elim id Imports.insertSymbol

end ImportCall

namespace Imports
variable {i : Imports} {module : String}

/-- The imports after a call. -/
def call (i : Imports) : ImportCall → Imports
  | .add m s => i.add m s
  | .addPath path => i.addPath path
  | .addModule m => i.addModule m

def ofCalls (calls : List ImportCall) : Imports := calls.foldl call empty

/-- One of the calls adds a symbol from a module. -/
def Added (calls : List ImportCall) (module symbol : String) : Prop :=
  ∃ c ∈ calls, c.Adds module symbol

/-- One of the calls opens a module. -/
def Opened (calls : List ImportCall) (module : String) : Prop := ∃ c ∈ calls, c.Opens module

theorem call_eq (i : Imports) (c : ImportCall) :
    i.call c = ⟨updateGroup c.request.module c.change i.groups⟩ := by
  cases c with
  | add m s => rfl
  | addPath path =>
    rw [call, addPath, ImportCall.change, ImportCall.request]
    cases cutAtColons [] path.toList.reverse with
    | none => rfl
    | some cut => rfl
  | addModule m => rfl

/-- The symbols under their modules. -/
def entries (i : Imports) : List (String × List String) := i.groups.map fun g => (g.module,g.symbols)

def symbolsOf (i : Imports) (module : String) : List String := (i.entries.lookup module).getD []

theorem entries_call (i : Imports) (c : ImportCall) : (i.call c).entries =
    putKey c.request.module (c.change (i.symbolsOf c.request.module)) i.entries := by
  obtain ⟨groups⟩ := i
  rw [call_eq]
  induction groups with
  | nil => rfl
  | cons group rest ih =>
    by_cases hm : group.module = c.request.module
    · simp [updateGroup, entries, symbolsOf, putKey, hm]
    · have hne : (c.request.module == group.module) = false := by simpa using Ne.symm hm
      simpa [updateGroup, entries, symbolsOf, putKey, hm, List.lookup_cons, hne] using ih

theorem symbolsOf_call (i : Imports) (c : ImportCall) (module : String) :
    (i.call c).symbolsOf module =
      if module = c.request.module then c.change (i.symbolsOf module) else i.symbolsOf module := by
  rw [symbolsOf, entries_call]
  split
  · rename_i hm
    rw [← hm, lookup_putKey_self, Option.getD_some]
  · rename_i hm
    rw [lookup_putKey_of_ne _ _ hm, symbolsOf]

theorem added_iff {calls : List ImportCall} {module symbol : String} :
    Added calls module symbol ↔ ⟨module,some symbol⟩ ∈ calls.map ImportCall.request := by
  simp only [Added, List.mem_map, ImportCall.request_eq_symbol_iff]

theorem opened_iff {calls : List ImportCall} {module : String} :
    Opened calls module ↔ ⟨module,none⟩ ∈ calls.map ImportCall.request := by
  simp only [Opened, List.mem_map, ImportCall.request_eq_module_iff]

/-- Each module that is mentioned, once and in the order of first mention. -/
def mentioned (calls : List ImportCall) : List String :=
  (calls.map fun c => c.request.module).eraseDups

theorem mem_mentioned {calls : List ImportCall} {module : String} :
    module ∈ mentioned calls ↔ (∃ symbol, Added calls module symbol) ∨ Opened calls module := by
  rw [mentioned, List.mem_eraseDups, List.mem_map]
  simp only [ImportCall.module_request_iff, and_or_left, exists_or]
  refine or_congr_left ⟨?_,?_⟩
  · rintro ⟨c,hc,symbol,h⟩
    exact ⟨symbol,c,hc,h⟩
  · rintro ⟨symbol,c,hc,h⟩
    exact ⟨c,hc,symbol,h⟩

theorem ofCalls_concat (calls : List ImportCall) (c : ImportCall) :
    ofCalls (calls ++ [c]) = (ofCalls calls).call c := by
  simp [ofCalls]

theorem eraseDups_concat (xs : List String) (x : String) :
    (xs ++ [x]).eraseDups = if x ∈ xs then xs.eraseDups else xs.eraseDups ++ [x] := by
  rw [List.eraseDups_append]
  by_cases hx : x ∈ xs
  · simp [List.cons_removeAll, hx]
  · simp [List.cons_removeAll, List.eraseDups_cons, hx]

/-- The modules stand in the order of first mention. -/
theorem keys_ofCalls (calls : List ImportCall) :
    (ofCalls calls).entries.map Prod.fst = mentioned calls := by
  induction calls using List.reverseRecOn with
  | nil => rfl
  | append_singleton calls c ih =>
    rw [ofCalls_concat, entries_call, map_fst_putKey, ih, mentioned, mentioned, List.map_append,
      List.map_singleton, eraseDups_concat]
    simp only [List.mem_eraseDups]

theorem pairwise_insertSymbol (symbol : String) {symbols : List String}
    (h : symbols.Pairwise (· < ·)) : (insertSymbol symbol symbols).Pairwise (· < ·) := by
  induction symbols with
  | nil => simp [insertSymbol]
  | cons first rest ih =>
    obtain ⟨hfirst,hrest⟩ := List.pairwise_cons.mp h
    rw [insertSymbol]
    split
    · rename_i hlt
      refine List.pairwise_cons.mpr ⟨?_,h⟩
      intro s hs
      rcases List.mem_cons.mp hs with rfl | hs
      · exact hlt
      · exact hlt.trans (hfirst s hs)
    split
    · exact h
    · rename_i hnot hne
      refine List.pairwise_cons.mpr ⟨?_,ih hrest⟩
      intro s hs
      rcases mem_insertSymbol.mp hs with rfl | hs
      · exact lt_of_le_of_ne (not_lt.mp hnot) (Ne.symm hne)
      · exact hfirst s hs

/-- A call keeps the symbols in order. -/
theorem pairwise_symbolsOf_call (c : ImportCall) (h : (i.symbolsOf module).Pairwise (· < ·)) :
    ((i.call c).symbolsOf module).Pairwise (· < ·) := by
  rw [symbolsOf_call, ImportCall.change]
  split
  · cases c.request.symbol? with
    | none => exact h
    | some s => exact pairwise_insertSymbol s h
  · exact h

theorem mem_symbolsOf_call {c : ImportCall} {symbol : String} :
    symbol ∈ (i.call c).symbolsOf module ↔ c.Adds module symbol ∨ symbol ∈ i.symbolsOf module := by
  rw [symbolsOf_call, ImportCall.change, ← ImportCall.request_eq_symbol_iff]
  obtain ⟨m,s?⟩ := c.request
  by_cases hm : module = m
  · cases s? with
    | none => simp [hm]
    | some s => simp [hm, mem_insertSymbol, eq_comm]
  · simp [hm, Ne.symm hm]

theorem pairwise_symbolsOf (calls : List ImportCall) (module : String) :
    ((ofCalls calls).symbolsOf module).Pairwise (· < ·) := by
  induction calls using List.reverseRecOn with
  | nil => exact .nil
  | append_singleton calls c ih =>
    rw [ofCalls_concat]
    exact pairwise_symbolsOf_call c ih

theorem mem_symbolsOf {calls : List ImportCall} {symbol : String} :
    symbol ∈ (ofCalls calls).symbolsOf module ↔ Added calls module symbol := by
  induction calls using List.reverseRecOn with
  | nil => simp [ofCalls, symbolsOf, entries, empty, Added]
  | append_singleton calls c ih =>
    rw [ofCalls_concat, mem_symbolsOf_call, ih]
    simp only [Added, List.mem_append, List.mem_singleton, or_and_right, exists_or, exists_eq_left]
    exact or_comm

theorem eq_of_groups {i j : Imports} (h : i.groups = j.groups) : i = j := by
  cases i
  cases j
  simpa using h

theorem groups_eq (h : (i.entries.map Prod.fst).Nodup) :
    i.groups = (i.entries.map Prod.fst).map fun m => ⟨m,i.symbolsOf m⟩ := by
  have hgroup : ∀ g ∈ i.groups, (⟨g.module,i.symbolsOf g.module⟩ : ImportGroup) = g := by
    intro g hg
    have hin : (g.module,g.symbols) ∈ i.entries := List.mem_map_of_mem hg
    rw [symbolsOf, lookup_of_mem_of_nodup h hin, Option.getD_some]
  simpa [entries, Function.comp_def] using ((List.map_congr_left hgroup).trans (List.map_id' _)).symm

/-- After any calls the groups are the modules in the order of first mention with their symbols. -/
theorem groups_ofCalls (calls : List ImportCall) : (ofCalls calls).groups =
    (mentioned calls).map fun m => ⟨m,(ofCalls calls).symbolsOf m⟩ := by
  rw [← keys_ofCalls]
  refine groups_eq ?_
  rw [keys_ofCalls]
  exact nodup_eraseDups _

/-- The order of first mention and the symbols that are added are all that counts of some calls. -/
theorem ofCalls_congr {calls others : List ImportCall} (hm : mentioned others = mentioned calls)
    (hs : ∀ module symbol, Added others module symbol ↔ Added calls module symbol) :
    ofCalls others = ofCalls calls := by
  have hsymbols : ∀ module, (ofCalls others).symbolsOf module = (ofCalls calls).symbolsOf module := by
    intro module
    apply List.Pairwise.eq_of_mem_iff (pairwise_symbolsOf others module)
      (pairwise_symbolsOf calls module)
    intro symbol
    rw [mem_symbolsOf, mem_symbolsOf]
    exact hs module symbol
  refine eq_of_groups ?_
  rw [groups_ofCalls, groups_ofCalls, hm]
  simp only [hsymbols]

end Imports
end RestScaffold
