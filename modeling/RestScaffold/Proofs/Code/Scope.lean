import RestScaffold.Proofs.Code.ImportBlock
import RestScaffold.Proofs.Code.Reading
import RestScaffold.Proofs.Text.Split

/-! # What imports bring into scope

A reader of `use` statements finds the paths that a text brings into scope. Among the imports of a
file these are the symbols that were added and the modules that were opened, but for a module that a
symbol is added from: its statement names the symbols only.
-/
namespace RestScaffold

/-- Blanks have no meaning in a path or a list of paths where nothing is renamed. -/
def unblank (s : String) : String := String.ofList (s.toList.filter (· != ' '))

/-- A name on the list behind `lead`, in which `self` is the module itself. -/
def listedPath (lead name : String) : String :=
  if name = "self" then String.ofList lead.toList.dropLast.dropLast else lead ++ name

/-- The paths that a line brings into scope: those on a list in braces, or the only one. -/
def scopeOfLine (line : String) : List String :=
  match after? "use " line with
  | none => []
  | some rest =>
    match splitOnChar '\x7b' (upTo ';' (unblank rest)) with
    | lead :: names :: _ => (splitOnChar ',' (upTo '\x7d' names)).map (listedPath lead)
    | _ => [upTo ';' (unblank rest)]

def scopeOf (text : String) : List String := (linesOf text).flatMap scopeOfLine

/-- The characters that separate or group the paths of a statement, and the one for all symbols. -/
def useMarks : List Char := ['\x7b', '\x7d', ',', ';', '*', ' ', '\n', '\r']

def Unmarked (s : String) : Prop := ∀ c ∈ s.toList, c ∉ useMarks

instance (s : String) : Decidable (Unmarked s) := List.decidableBAll _ s.toList

section Marks
variable {s t : String}

theorem unmarked_append : Unmarked (s ++ t) ↔ Unmarked s ∧ Unmarked t := by
  simp only [Unmarked, String.toList_append]
  exact List.forall_mem_append

theorem Unmarked.notMem (h : Unmarked s) {c : Char} (hc : c ∈ useMarks) : c ∉ s.toList :=
  fun hm => h c hm hc

theorem Unmarked.oneLine (h : Unmarked s) : OneLine s := by
  intro c hc
  constructor
  · rintro rfl
    exact h.notMem (by decide) hc
  · rintro rfl
    exact h.notMem (by decide) hc

theorem unblank_append (s t : String) : unblank (s ++ t) = unblank s ++ unblank t := by
  rw [← String.toList_inj]
  simp [unblank, String.toList_append]

theorem Unmarked.unblank (h : Unmarked s) : unblank s = s := by
  have hall : ∀ c ∈ s.toList, (c != ' ') = true := by
    intro c hc
    rw [bne_iff_ne]
    rintro rfl
    exact h.notMem (by decide) hc
  rw [RestScaffold.unblank, List.filter_eq_self.mpr hall, String.ofList_toList]

theorem unblank_intercalate {names : List String} (h : ∀ name ∈ names, Unmarked name) :
    unblank (String.intercalate ", " names) = String.intercalate "," names := by
  induction names with
  | nil => rfl
  | cons name rest ih =>
    obtain ⟨hname,hrest⟩ := List.forall_mem_cons.mp h
    cases rest with
    | nil => simpa using hname.unblank
    | cons next rest =>
      have hsep : unblank ", " = "," := by decide
      rw [String.intercalate_cons_cons, String.intercalate_cons_cons, unblank_append,
        unblank_append, hname.unblank, hsep, ih hrest]

end Marks

/-- A statement with a single path brings that path into scope. -/
theorem scopeOfLine_path {path : String} (h : Unmarked path) :
    scopeOfLine ("use " ++ path ++ ";") = [path] := by
  have hrest : upTo ';' (unblank (path ++ ";")) = path := by
    have hend : unblank ";" = String.singleton ';' ++ "" := by decide
    rw [unblank_append, h.unblank, hend, ← String.append_assoc]
    exact upTo_append (h.notMem (by decide)) ""
  have hsplit : splitOnChar '\x7b' path = [path] := splitOnChar_of_notMem (h.notMem (by decide))
  rw [scopeOfLine, String.append_assoc, after?_append]
  simp only [hrest, hsplit]

/-- What stands in braces is a list for the module in front of it. -/
theorem scopeOfLine_braces {rest lead inner : String}
    (hrest : unblank rest = lead ++ "\x7b" ++ inner ++ "\x7d;")
    (hl : '\x7b' ∉ lead.toList ∧ ';' ∉ lead.toList)
    (hi : '\x7b' ∉ inner.toList ∧ '\x7d' ∉ inner.toList ∧ ';' ∉ inner.toList) :
    scopeOfLine ("use " ++ rest) = (splitOnChar ',' inner).map (listedPath lead) := by
  obtain ⟨hopen,hclose,hend⟩ := hi
  have hpath : upTo ';' (unblank rest) = lead ++ "\x7b" ++ (inner ++ "\x7d") := by
    have hsemi : ';' ∉ (lead ++ "\x7b" ++ (inner ++ "\x7d")).toList := by
      simp [String.toList_append, hl, hend]
    have hform : unblank rest =
        lead ++ "\x7b" ++ (inner ++ "\x7d") ++ String.singleton ';' ++ "" := by
      rw [hrest, ← String.toList_inj]
      simp [String.toList_append]
    rw [hform, upTo_append hsemi]
  have hsplit : splitOnChar '\x7b' (lead ++ "\x7b" ++ (inner ++ "\x7d")) =
      [lead,inner ++ "\x7d"] := by
    have hback : '\x7b' ∉ (inner ++ "\x7d").toList := by
      simp [String.toList_append, hopen]
    have hcut := splitOnChar_append '\x7b' lead (inner ++ "\x7d")
    rw [splitOnChar_of_notMem hl.1, splitOnChar_of_notMem hback] at hcut
    exact hcut
  have hlist : upTo '\x7d' (inner ++ "\x7d") = inner := by
    simpa using upTo_append hclose ""
  rw [scopeOfLine, after?_append]
  simp only [hpath, hsplit, hlist]

theorem listedPath_self (module : String) : listedPath (module ++ "::") "self" = module := by
  rw [listedPath, if_pos rfl, ← String.toList_inj]
  simp [String.toList_append]

/-- A statement with a list brings the paths of its names into scope, for `self` the module. -/
theorem scopeOfLine_list {module : String} {names : List String} (hm : Unmarked module)
    (hne : names ≠ []) (h : ∀ name ∈ names, Unmarked name) :
    scopeOfLine ("use " ++ module ++ "::\x7b" ++ String.intercalate ", " names ++ "\x7d;") =
      names.map fun name => if name = "self" then module else module ++ "::" ++ name := by
  have hinner : ∀ c ∈ (String.intercalate "," names).toList, c = ',' ∨ c ∉ useMarks := by
    refine forall_mem_intercalate ?_ ?_
    · intro c hc
      exact Or.inl (List.mem_singleton.mp hc)
    · intro name hname c hc
      exact Or.inr (h name hname c hc)
  have hnot : ∀ c ∈ useMarks, c ≠ ',' → c ∉ (String.intercalate "," names).toList :=
    fun c hmark hcomma hc => (hinner c hc).elim hcomma fun hn => hn hmark
  have hlead : ∀ c ∈ useMarks, c ∉ (module ++ "::").toList := by
    intro c hmark
    exact (unmarked_append.mpr ⟨hm,by decide⟩).notMem hmark
  have hblank : unblank (module ++ ("::\x7b" ++ (String.intercalate ", " names ++ "\x7d;"))) =
      module ++ "::" ++ "\x7b" ++ String.intercalate "," names ++ "\x7d;" := by
    have hcolons : unblank "::\x7b" = "::\x7b" := by decide
    have hend : unblank "\x7d;" = "\x7d;" := by decide
    rw [unblank_append, unblank_append, unblank_append, hm.unblank, hcolons, hend,
      unblank_intercalate h]
    rw [← String.toList_inj]
    simp [String.toList_append]
  have hnames : splitOnChar ',' (String.intercalate "," names) = names :=
    splitOnChar_intercalate hne fun name hname => (h name hname).notMem (by decide)
  have hbraces := scopeOfLine_braces hblank ⟨hlead _ (by decide),hlead _ (by decide)⟩
    ⟨hnot _ (by decide) (by decide),hnot _ (by decide) (by decide),hnot _ (by decide) (by decide)⟩
  rw [hnames] at hbraces
  have hpaths : names.map (listedPath (module ++ "::")) =
      names.map fun name => if name = "self" then module else module ++ "::" ++ name := by
    refine List.map_congr_left ?_
    intro name _
    by_cases hself : name = "self"
    · rw [if_pos hself, hself, listedPath_self]
    · rw [if_neg hself, listedPath, if_neg hself]
  rw [hpaths] at hbraces
  rw [← hbraces]
  simp only [String.append_assoc]

example : scopeOf "use serde_json::\x7bself, json\x7d;\nuse sqlx::PgPool;" =
    ["serde_json", "serde_json::json", "sqlx::PgPool"] := by decide

/-- A statement brings the symbols of its group into scope or, where there are none, the module. -/
theorem mem_scopeOfLine_statement {g : ImportGroup} {path : String} (hm : Unmarked g.module)
    (hs : ∀ symbol ∈ g.symbols, Unmarked symbol ∧ symbol ≠ "self") :
    path ∈ scopeOfLine g.statement ↔ (∃ symbol ∈ g.symbols, path = g.module ++ "::" ++ symbol) ∨
      g.symbols = [] ∧ path = g.module := by
  unfold ImportGroup.statement
  split
  · rename_i hsymbols
    rw [scopeOfLine_path hm]
    simp [hsymbols]
  · rename_i symbol hsymbols
    have hpath : Unmarked (g.module ++ "::" ++ symbol) :=
      unmarked_append.mpr ⟨unmarked_append.mpr ⟨hm,by decide⟩,
        (hs symbol (hsymbols ▸ List.mem_cons_self)).1⟩
    have hline := scopeOfLine_path hpath
    simp only [String.append_assoc] at hline ⊢
    rw [hline]
    simp [hsymbols]
  · rename_i hnil _
    have hne : g.symbols ≠ [] := hnil
    have hpaths : g.symbols.map (fun s => if s = "self" then g.module else g.module ++ "::" ++ s) =
        g.symbols.map fun s => g.module ++ "::" ++ s :=
      List.map_congr_left fun s hmem => if_neg (hs s hmem).2
    rw [scopeOfLine_list hm hne fun s hmem => (hs s hmem).1, hpaths]
    simp [hne, eq_comm]

/-- A call for a plain path: no list, no wildcard, nothing renamed and no symbol `self`. -/
structure ImportCall.Plain (c : ImportCall) : Prop where
  unmarked : Unmarked c.path
  noSelf : ∀ module, ¬c.Adds module "self"

theorem ImportCall.plain_iff {c : ImportCall} :
    c.Plain ↔ Unmarked c.path ∧ c.request.symbol? ≠ some "self" := by
  have hself : (∀ module, ¬c.Adds module "self") ↔ c.request.symbol? ≠ some "self" := by
    simp only [← request_eq_symbol_iff]
    obtain ⟨m,s?⟩ := c.request
    simp
  exact ⟨fun h => ⟨h.unmarked,hself.mp h.noSelf⟩,fun h => ⟨h.1,hself.mpr h.2⟩⟩

instance (c : ImportCall) : Decidable c.Plain := decidable_of_iff _ ImportCall.plain_iff.symm

namespace Imports
variable {calls : List ImportCall} {i : Imports}

theorem Whole.linesOf_text (hi : i.Whole) :
    linesOf i.text = i.groups.map ImportGroup.statement := by
  have hlines : ∀ line ∈ i.groups.map ImportGroup.statement, OneLine line := by
    intro line hline
    obtain ⟨g,hg,rfl⟩ := List.mem_map.mp hline
    have hwhole := hi.unbroken
    rw [linesOfAll_fragments] at hwhole
    exact hwhole _ (List.mem_map_of_mem hg)
  rw [← linesOf_partText .standard, fragments, partText_lines]
  exact linesOf_unlines hlines

theorem unmarked_of_added (h : ∀ c ∈ calls, c.Plain) {module symbol : String}
    (ha : Added calls module symbol) :
    Unmarked module ∧ Unmarked symbol ∧ symbol ≠ "self" := by
  obtain ⟨c,hc,ha⟩ := ha
  have hpath := (h c hc).unmarked
  rw [ImportCall.path_eq_of_adds ha, unmarked_append, unmarked_append] at hpath
  refine ⟨hpath.1.1,hpath.2,?_⟩
  rintro rfl
  exact (h c hc).noSelf module ha

theorem unmarked_of_mentioned (h : ∀ c ∈ calls, c.Plain) {module : String}
    (hm : module ∈ mentioned calls) : Unmarked module := by
  rcases mem_mentioned.mp hm with ⟨symbol,ha⟩ | ⟨c,hc,ho⟩
  · exact (unmarked_of_added h ha).1
  · rw [← ImportCall.path_eq_of_opens ho]
    exact (h c hc).unmarked

theorem whole_ofCalls (h : ∀ c ∈ calls, c.Plain) : (ofCalls calls).Whole := by
  intro g hg
  rw [groups_ofCalls] at hg
  obtain ⟨m,hm,rfl⟩ := List.mem_map.mp hg
  refine ⟨(unmarked_of_mentioned h hm).oneLine,?_⟩
  intro symbol hs
  exact (unmarked_of_added h (mem_symbolsOf.mp hs)).2.1.oneLine

/-- In scope are the symbols that are added and the modules that are opened and not added from. -/
theorem mem_scopeOf_text (h : ∀ c ∈ calls, c.Plain) {path : String} :
    path ∈ scopeOf (ofCalls calls).text ↔
      (∃ module symbol, Added calls module symbol ∧ path = module ++ "::" ++ symbol) ∨
        Opened calls path ∧ ∀ symbol, ¬Added calls path symbol := by
  have hline : ∀ m ∈ mentioned calls,
      (path ∈ scopeOfLine (⟨m,(ofCalls calls).symbolsOf m⟩ : ImportGroup).statement ↔
        (∃ symbol, Added calls m symbol ∧ path = m ++ "::" ++ symbol) ∨
          (∀ symbol, ¬Added calls m symbol) ∧ path = m) := by
    intro m hm
    rw [mem_scopeOfLine_statement (unmarked_of_mentioned h hm) fun symbol hs =>
      (unmarked_of_added h (mem_symbolsOf.mp hs)).2]
    simp only [mem_symbolsOf, List.eq_nil_iff_forall_not_mem]
  rw [scopeOf, (whole_ofCalls h).linesOf_text, groups_ofCalls, List.map_map, List.mem_flatMap]
  simp only [List.mem_map, Function.comp_apply, exists_exists_and_eq_and]
  constructor
  · rintro ⟨m,hm,hpath⟩
    rcases (hline m hm).mp hpath with ⟨symbol,ha,rfl⟩ | ⟨hnone,rfl⟩
    · exact Or.inl ⟨m,symbol,ha,rfl⟩
    · refine Or.inr ⟨(mem_mentioned.mp hm).resolve_left ?_,hnone⟩
      rintro ⟨symbol,ha⟩
      exact hnone symbol ha
  · rintro (⟨m,symbol,ha,rfl⟩ | ⟨ho,hnone⟩)
    · have hm : m ∈ mentioned calls := mem_mentioned.mpr (Or.inl ⟨symbol,ha⟩)
      exact ⟨m,hm,(hline m hm).mpr (Or.inl ⟨symbol,ha,rfl⟩)⟩
    · have hm : path ∈ mentioned calls := mem_mentioned.mpr (Or.inr ho)
      exact ⟨path,hm,(hline path hm).mpr (Or.inr ⟨hnone,rfl⟩)⟩

/-- Every symbol that is added is in scope. Every module that is opened is so as well exactly if
those that symbols are added from are themselves symbols that are added from other modules. -/
theorem requests_inScope_iff (h : ∀ c ∈ calls, c.Plain) :
    (∀ module symbol, Added calls module symbol →
      module ++ "::" ++ symbol ∈ scopeOf (ofCalls calls).text) ∧
    ((∀ c ∈ calls, c.path ∈ scopeOf (ofCalls calls).text) ↔
      ∀ module symbol, Opened calls module → Added calls module symbol →
        ∃ outer inner, Added calls outer inner ∧ module = outer ++ "::" ++ inner) := by
  have hadded : ∀ module symbol, Added calls module symbol →
      module ++ "::" ++ symbol ∈ scopeOf (ofCalls calls).text :=
    fun module symbol ha => (mem_scopeOf_text h).mpr (Or.inl ⟨module,symbol,ha,rfl⟩)
  refine ⟨hadded,?_,?_⟩
  · rintro hall module symbol ⟨c,hc,ho⟩ ha
    have hscope := hall c hc
    rw [ImportCall.path_eq_of_opens ho] at hscope
    rcases (mem_scopeOf_text h).mp hscope with hin | ⟨_,hnone⟩
    · exact hin
    · exact absurd ha (hnone symbol)
  · intro hnested c hc
    rcases c.adds_or_opens with ⟨module,symbol,ha⟩ | ho
    · rw [ImportCall.path_eq_of_adds ha]
      exact hadded module symbol ⟨c,hc,ha⟩
    · by_cases hsymbol : ∃ symbol, Added calls c.path symbol
      · obtain ⟨symbol,ha⟩ := hsymbol
        exact (mem_scopeOf_text h).mpr (Or.inl (hnested c.path symbol ⟨c,hc,ho⟩ ha))
      · exact (mem_scopeOf_text h).mpr (Or.inr ⟨⟨c,hc,ho⟩,not_exists.mp hsymbol⟩)

def routingCalls : List ImportCall :=
  [.addModule "serde_json",.addModule "axum::routing",.addPath "axum::routing::get",
    .addPath "axum::routing"]

/-- A module that a symbol is added from is in scope as a symbol of the module around it. -/
theorem routing_inScope : (∀ c ∈ routingCalls, c.Plain) ∧
    (ofCalls routingCalls).text =
      "use serde_json;\nuse axum::routing::get;\nuse axum::routing;" ∧
    ∀ c ∈ routingCalls, c.path ∈ scopeOf (ofCalls routingCalls).text := by
  have hplain : ∀ c ∈ routingCalls, c.Plain := by decide
  refine ⟨hplain,by decide,(requests_inScope_iff hplain).2.mpr ?_⟩
  have hrequests : routingCalls.map ImportCall.request =
      [⟨"serde_json",none⟩,⟨"axum::routing",none⟩,⟨"axum::routing",some "get"⟩,
        ⟨"axum",some "routing"⟩] := by decide
  intro module symbol ho ha
  refine ⟨"axum","routing",?_,?_⟩
  · rw [added_iff, hrequests]
    simp
  · rw [opened_iff, hrequests] at ho
    rw [added_iff, hrequests] at ha
    simp at ho ha
    rcases ho with rfl | rfl
    · simp at ha
    · decide

def jsonCalls : List ImportCall := [.addModule "serde_json",.add "serde_json" "json"]

/-- A module that is opened and also added from, in either order, is not in scope itself. -/
theorem serdeJson_outOfScope : (∀ c ∈ jsonCalls, c.Plain) ∧
    (ofCalls jsonCalls).text = "use serde_json::json;" ∧
    ofCalls jsonCalls.reverse = ofCalls jsonCalls ∧
    ¬∀ c ∈ jsonCalls, c.path ∈ scopeOf (ofCalls jsonCalls).text := by
  decide

end Imports
end RestScaffold
