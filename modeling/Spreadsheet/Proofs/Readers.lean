/-
# Readers are not lost

* Whatever occurs in a formula is found by the walk that its edges come from, below whatever
  function.
* A formula *strays* if a mention leads beyond the edge of a sheet.  One that does not is a
  dependent of every cell that one of its mentions covers; one that does is a dependent of none.
* A write *spares* a cell if it changes neither what the cell holds nor the settings.  A dependent
  that was spared is among the cells that are evaluated next.
-/
import Spreadsheet.Proofs.Tracking
import Spreadsheet.Proofs.Walk

namespace Spreadsheet

open Grid Formula Conditional

/-! ## 1. What formulas mention -/

/-- **A reference or a name that occurs in a formula,** at whatever place. -/
inductive Formula.Expr.Mentions : Expr → Mention → Prop
  | ref (sheet : Option String) (target : Reference) :
      Mentions (.ref sheet target) (.ref sheet target)
  | name (name : String) : Mentions (.name name) (.name name)
  | left {op : BinaryOp} {left : Expr} (right : Expr) {m : Mention} (h : left.Mentions m) :
      Mentions (.binary op left right) m
  | right {op : BinaryOp} (left : Expr) {right : Expr} {m : Mention} (h : right.Mentions m) :
      Mentions (.binary op left right) m
  | negate {operand : Expr} {m : Mention} (h : operand.Mentions m) : Mentions (.negate operand) m
  | percent {operand : Expr} {m : Mention} (h : operand.Mentions m) : Mentions (.percent operand) m
  | group {inner : Expr} {m : Mention} (h : inner.Mentions m) : Mentions (.group inner) m
  | argument (called : String) {args : List Expr} {e : Expr} {m : Mention} (he : e ∈ args)
      (h : e.Mentions m) : Mentions (.call called args) m

mutual

/-- What the walk over a formula finds occurs in it. -/
theorem mentions_of_mem {checked : Bool} {m : Mention × Bool} :
    ∀ {e : Expr}, m ∈ e.mentions checked → e.Mentions m.1
  | .ref sheet target, h => by
    obtain rfl : m = (.ref sheet target, checked) := by simpa [Expr.mentions] using h
    exact .ref sheet target
  | .name name, h => by
    obtain rfl : m = (.name name, checked) := by simpa [Expr.mentions] using h
    exact .name name
  | .binary op left right, h => by
    rcases List.mem_append.mp h with h | h
    · exact .left right (mentions_of_mem h)
    · exact .right left (mentions_of_mem h)
  | .negate operand, h => .negate (mentions_of_mem (e := operand) h)
  | .percent operand, h => .percent (mentions_of_mem (e := operand) h)
  | .group inner, h => .group (mentions_of_mem (e := inner) h)
  | .call called args, h => by
    rw [Expr.mentions] at h
    obtain ⟨e, he, hm⟩ := exists_mentions_of_mem h
    exact .argument called he hm
  | .number _, h | .text _, h | .bool _, h | .error _, h => by cases h

theorem exists_mentions_of_mem {checked : Bool} {m : Mention × Bool} :
    ∀ {args : List Expr}, m ∈ mentionsAll checked args → ∃ e ∈ args, e.Mentions m.1
  | [], h => by cases h
  | e :: rest, h => by
    rcases List.mem_append.mp h with h | h
    · exact ⟨e, List.mem_cons_self, mentions_of_mem h⟩
    · obtain ⟨e', he', hm⟩ := exists_mentions_of_mem h
      exact ⟨e', List.mem_cons_of_mem _ he', hm⟩

end

theorem exists_mem_mentionsAll {e : Expr} {m : Mention} {checked : Bool}
    (h : ∃ c, (m, c) ∈ e.mentions checked) :
    ∀ {args : List Expr}, e ∈ args → ∃ c, (m, c) ∈ mentionsAll checked args
  | e' :: rest, he => by
    rcases List.mem_cons.mp he with rfl | he
    · obtain ⟨c, hc⟩ := h
      exact ⟨c, List.mem_append_left _ hc⟩
    · obtain ⟨c, hc⟩ := exists_mem_mentionsAll h he
      exact ⟨c, List.mem_append_right _ hc⟩

/-- **The walk over a formula finds whatever occurs in it,** below whatever function. -/
theorem exists_mem_mentions {e : Expr} {m : Mention} (h : e.Mentions m) (checked : Bool) :
    ∃ c, (m, c) ∈ e.mentions checked := by
  induction h generalizing checked with
  | ref sheet target => exact ⟨checked, List.mem_singleton_self _⟩
  | name name => exact ⟨checked, List.mem_singleton_self _⟩
  | left right _ ih =>
    obtain ⟨c, hc⟩ := ih checked
    exact ⟨c, List.mem_append_left _ hc⟩
  | right left _ ih =>
    obtain ⟨c, hc⟩ := ih checked
    exact ⟨c, List.mem_append_right _ hc⟩
  | negate _ ih => exact ih checked
  | percent _ ih => exact ih checked
  | group _ ih => exact ih checked
  | argument called he _ ih => exact exists_mem_mentionsAll (ih _) he

section Changed

variable {f g : Option String → Reference → Expr}

/-- What is mentioned in place of a mention when references are replaced. -/
def replaced (f : Option String → Reference → Expr) : Mention × Bool → List (Mention × Bool)
  | (.ref sheet target, checked) => (f sheet target).mentions checked
  | (.name name, checked) => [(.name name, checked)]

mutual

/-- **A formula whose references are replaced mentions what stands in their place,** and the names
that it mentioned before. -/
theorem mentions_mapRefs (f : Option String → Reference → Expr) (checked : Bool) :
    ∀ e : Expr, (e.mapRefs f).mentions checked = (e.mentions checked).flatMap (replaced f)
  | .ref sheet target => by simp [Expr.mapRefs, Expr.mentions, replaced]
  | .name name => by simp [Expr.mapRefs, Expr.mentions, replaced]
  | .binary op left right => by
    rw [Expr.mapRefs, Expr.mentions, Expr.mentions, List.flatMap_append,
      mentions_mapRefs f checked left, mentions_mapRefs f checked right]
  | .negate operand => mentions_mapRefs f checked operand
  | .percent operand => mentions_mapRefs f checked operand
  | .group inner => mentions_mapRefs f checked inner
  | .call _ args => mentionsAll_mapRefs f _ args
  | .number _ | .text _ | .bool _ | .error _ => rfl

theorem mentionsAll_mapRefs (f : Option String → Reference → Expr) (checked : Bool) :
    ∀ args : List Expr,
      mentionsAll checked (mapRefsAll f args) = (mentionsAll checked args).flatMap (replaced f)
  | [] => rfl
  | e :: rest => by
    rw [mapRefsAll, mentionsAll, mentionsAll, List.flatMap_append, mentions_mapRefs f checked e,
      mentionsAll_mapRefs f checked rest]

end

/-- **What such a formula mentions,** wherever in it. -/
theorem mentions_mapRefs_iff {e : Expr} {m : Mention} : (e.mapRefs f).Mentions m ↔
      (∃ sheet target, e.Mentions (.ref sheet target) ∧ (f sheet target).Mentions m) ∨
        ∃ name, e.Mentions (.name name) ∧ m = .name name := by
  have hmem {old : Mention} {c c' : Bool} (hold : (old, c) ∈ e.mentions true)
      (hm : (m, c') ∈ replaced f (old, c)) : (e.mapRefs f).Mentions m := by
    have hm' : (m, c') ∈ (e.mapRefs f).mentions true := by
      rw [mentions_mapRefs]
      exact List.mem_flatMap.mpr ⟨_, hold, hm⟩
    exact mentions_of_mem hm'
  constructor
  · intro h
    obtain ⟨c, hc⟩ := exists_mem_mentions h true
    rw [mentions_mapRefs] at hc
    obtain ⟨⟨old, c'⟩, hold, hm⟩ := List.mem_flatMap.mp hc
    cases old with
    | ref sheet target => exact .inl ⟨sheet, target, mentions_of_mem hold, mentions_of_mem hm⟩
    | name name =>
      obtain ⟨rfl, -⟩ := Prod.mk.inj (List.mem_singleton.mp hm)
      exact .inr ⟨name, mentions_of_mem hold, rfl⟩
  · rintro (⟨sheet, target, hold, hm⟩ | ⟨name, hold, rfl⟩)
    · obtain ⟨c, hc⟩ := exists_mem_mentions hold true
      obtain ⟨c', hc'⟩ := exists_mem_mentions hm c
      exact hmem hc hc'
    · obtain ⟨c, hc⟩ := exists_mem_mentions hold true
      exact hmem hc (List.mem_singleton_self _)

theorem mentions_refOrError_iff {sheet : Option String} {target? : Option Reference} {m : Mention} :
    (refOrError sheet target?).Mentions m ↔ ∃ target, target? = some target ∧
      m = .ref sheet target := by
  cases target? with
  | none =>
    constructor
    · intro h
      cases h
    · rintro ⟨target, hnone, -⟩
      cases hnone
  | some target =>
    constructor
    · intro h
      cases h
      exact ⟨target, rfl, rfl⟩
    · rintro ⟨target', hsome, rfl⟩
      obtain rfl := Option.some.inj hsome
      exact .ref sheet target

theorem eq_of_mapRefsAll_eq {e : Expr} : ∀ {args : List Expr}, e ∈ args →
    mapRefsAll f args = mapRefsAll g args → e.mapRefs f = e.mapRefs g
  | e' :: rest, he, h => by
    obtain ⟨hhead, hrest⟩ := List.cons.inj h
    rcases List.mem_cons.mp he with rfl | he
    · exact hhead
    · exact eq_of_mapRefsAll_eq he hrest

/-- **Replacing references differently makes different formulas,** if one of them occurs. -/
theorem eq_of_mapRefs_eq {e : Expr} {m : Mention} (hm : e.Mentions m)
    (h : e.mapRefs f = e.mapRefs g) :
    ∀ sheet target, m = .ref sheet target → f sheet target = g sheet target := by
  induction hm with
  | ref sheet target =>
    rintro sheet' target' ⟨rfl, rfl⟩
    exact h
  | name name => exact nofun
  | left right _ ih =>
    rw [Expr.mapRefs, Expr.mapRefs, Expr.binary.injEq] at h
    exact ih h.2.1
  | right left _ ih =>
    rw [Expr.mapRefs, Expr.mapRefs, Expr.binary.injEq] at h
    exact ih h.2.2
  | negate _ ih => exact ih (Expr.negate.inj h)
  | percent _ ih => exact ih (Expr.percent.inj h)
  | group _ ih => exact ih (Expr.group.inj h)
  | argument called he _ ih =>
    rw [Expr.mapRefs, Expr.mapRefs, Expr.call.injEq] at h
    exact ih (eq_of_mapRefsAll_eq he h.2)

end Changed

namespace Workbook

variable {wb wb' : Workbook} {x key : Key}

/-! ## 2. Mentions beyond the edge of a sheet -/

/-- **A formula with a mention that leads beyond the edge of a sheet.** -/
def Strays (wb : Workbook) (home : Key) (e : Expr) : Prop :=
  ∃ m edge s, e.Mentions m ∧ wb.Resolves home m edge s ∧ s.holds edge.target.range = false

/-- A mention that is refused resolves, and its sheet does not admit it. -/
theorem addMention_eq_error {home : Key} {edges : List Edge} {m : Mention × Bool}
    {fault : ReferenceFault} (h : wb.addMention home edges m = .error fault) :
    ∃ edge s, wb.Resolves home m.1 edge s ∧ admission home m.2 edge s = .error fault := by
  by_cases hm : ∃ edge s, wb.Resolves home m.1 edge s
  · obtain ⟨edge, s, hres⟩ := hm
    refine ⟨edge, s, hres, ?_⟩
    rw [addMention_of_resolves hres] at h
    cases hadm : admission home m.2 edge s with
    | ok u =>
      rw [hadm] at h
      cases h
    | error fault' =>
      rw [hadm] at h
      rw [Except.error.inj h]
  · rw [addMention_of_not_resolves hm] at h
    cases h

theorem addMentions_eq_error {home : Key} {fault : ReferenceFault} :
    ∀ {ms : List (Mention × Bool)} {edges : List Edge},
      ms.foldlM (wb.addMention home) edges = .error fault →
        ∃ m ∈ ms, ∃ edge s, wb.Resolves home m.1 edge s ∧
          admission home m.2 edge s = .error fault
  | [], edges, h => by cases h
  | m :: rest, edges, h => by
    rw [List.foldlM_cons] at h
    cases hm : wb.addMention home edges m with
    | error fault' =>
      rw [hm] at h
      obtain rfl : fault' = fault := Except.error.inj h
      exact ⟨m, List.mem_cons_self, addMention_eq_error hm⟩
    | ok mid =>
      rw [hm] at h
      obtain ⟨m', hm', hrefused⟩ := addMentions_eq_error h
      exact ⟨m', List.mem_cons_of_mem _ hm', hrefused⟩

/-- **Edges are refused only for a mention that its sheet does not admit.** -/
theorem exists_of_edges_eq_error {home : Key} {checked : Bool} {e : Expr} {fault : ReferenceFault}
    (h : wb.edges home checked e = .error fault) :
    ∃ m ∈ e.mentions checked, ∃ edge s, wb.Resolves home m.1 edge s ∧
      admission home m.2 edge s = .error fault :=
  addMentions_eq_error h

/-- **Edges are refused for going beyond a sheet only if a mention does.** -/
theorem strays_of_edges_eq_error {home : Key} {checked : Bool} {e : Expr} {name : String}
    {range : Range} (h : wb.edges home checked e = .error (.beyondSheet name range)) :
    wb.Strays home e := by
  obtain ⟨m, hm, edge, s, hres, hrefused⟩ := exists_of_edges_eq_error h
  refine ⟨m.1, edge, s, mentions_of_mem hm, hres, ?_⟩
  unfold admission at hrefused
  split at hrefused
  · rename_i hholds
    simpa using hholds
  · split at hrefused <;> cases hrefused

/-- Edges are refused for reading their own cell only if a mention that may not covers it. -/
theorem covers_of_edges_eq_error {home : Key} {checked : Bool} {e : Expr} {name : String}
    {spot : Spot} (h : wb.edges home checked e = .error (.ownCell name spot)) :
    ∃ m ∈ e.mentions checked, m.2 = true ∧ ∃ edge s, wb.Resolves home m.1 edge s ∧
      edge.target.covers home = true := by
  obtain ⟨m, hm, edge, s, hres, hrefused⟩ := exists_of_edges_eq_error h
  unfold admission at hrefused
  split at hrefused
  · cases hrefused
  · split at hrefused
    · rename_i hown
      rw [Bool.and_eq_true] at hown
      exact ⟨m, hm, hown.1, edge, s, hres, hown.2⟩
    · cases hrefused

/-- A formula that strays has no edges to be found. -/
theorem not_strays_of_edges_eq_ok {home : Key} {checked : Bool} {e : Expr} {edges : List Edge}
    (h : wb.edges home checked e = .ok edges) : ¬ wb.Strays home e := by
  rintro ⟨m, edge, s, hm, hres, hstray⟩
  obtain ⟨c, hmem⟩ := exists_mem_mentions hm checked
  obtain ⟨hholds, -⟩ := exists_edge_of_mention h hmem hres
  rw [hholds] at hstray
  cases hstray

/-- **Whatever a formula mentions is covered by its edges,** if nothing it mentions leads beyond the
edge of a sheet. -/
theorem Tracked.exists_edge (ht : wb.Tracked) {e : Expr} (he : (wb.content key).expr? = some e)
    (hstay : ¬ wb.Strays key e) {m : Mention} (hm : e.Mentions m) {edge : Edge} {s : Sheet}
    (hres : wb.Resolves key m edge s) {x : Key} (hcovers : edge.target.covers x = true) :
    ∃ kept ∈ (wb.content key).edges, kept.target.covers x = true := by
  rcases ht.edges_cases he with hok | ⟨-, name, range, hbeyond⟩
  · obtain ⟨c, hmem⟩ := exists_mem_mentions hm true
    obtain ⟨-, kept, hkept, hincl⟩ := exists_edge_of_mention hok hmem hres
    exact ⟨kept, hkept, Target.covers_of_includes hincl hcovers⟩
  · exact absurd (strays_of_edges_eq_error hbeyond) hstay

/-- A formula that strays reads nothing as far as the graph knows. -/
theorem Tracked.edges_of_strays (ht : wb.Tracked) {e : Expr}
    (he : (wb.content key).expr? = some e) (hstray : wb.Strays key e) :
    (wb.content key).edges = [] := by
  rcases ht.edges_cases he with hok | ⟨hnil, -⟩
  · exact absurd hstray (not_strays_of_edges_eq_ok hok)
  · exact hnil

/-! ## 3. Changes that spread -/

/-- **The cells with edges to a cell are its dependents.** -/
theorem mem_dependents :
    key ∈ wb.dependents x ↔ ∃ edge ∈ (wb.content key).edges, edge.target.covers x = true := by
  rw [dependents, mem_readers]
  simp

/-- **A change that spares a cell:** what the cell holds stays as it is, and so do the settings. -/
structure Spares (wb wb' : Workbook) (key : Key) : Prop where
  settings_eq : wb'.settings = wb.settings
  content_eq : wb'.content key = wb.content key

theorem Spares.refl (wb : Workbook) (key : Key) : Spares wb wb key := ⟨rfl, rfl⟩

theorem Spares.trans {wb'' : Workbook} (h : Spares wb wb' key) (h' : Spares wb' wb'' key) :
    Spares wb wb'' key :=
  ⟨h'.settings_eq.trans h.settings_eq, h'.content_eq.trans h.content_eq⟩

theorem settings_writeAny (wb : Workbook) (x : Key) (content : Content) :
    (wb.writeAny x content).settings = wb.settings := by
  cases content <;> rfl

/-- Writing into another cell spares a cell. -/
theorem spares_writeAny (wb : Workbook) (content : Content) (h : x ≠ key) :
    Spares wb (wb.writeAny x content) key where
  settings_eq := settings_writeAny wb x content
  content_eq := content_writeAny_of_ne wb content h

/-- Evaluating another cell spares a cell. -/
theorem spares_recalculate (wb : Workbook) (h : x ≠ key) :
    Spares wb (wb.recalculate x).1 key :=
  ⟨settings_recalculate wb x, content_recalculate_of_ne wb h⟩

theorem spares_writes {planned : List (Key × Content)} (h : ∀ kc ∈ planned, kc.1 ≠ key)
    (wb : Workbook) : Spares wb (planned.foldl (fun wb kc => wb.writeAny kc.1 kc.2) wb) key := by
  induction planned generalizing wb with
  | nil => exact .refl wb key
  | cons kc planned ih =>
    exact (spares_writeAny wb kc.2 (h kc List.mem_cons_self)).trans
      (ih (fun kc' hkc' => h kc' (List.mem_cons_of_mem _ hkc')) _)

theorem spares_recalculateEach {keys : List Key} (h : key ∉ keys) (wb : Workbook) :
    Spares wb (wb.recalculateEach keys).1 key := by
  induction keys generalizing wb with
  | nil => exact .refl wb key
  | cons k keys ih =>
    rw [List.mem_cons, not_or] at h
    rw [recalculateEach_cons_fst]
    exact (spares_recalculate wb (Ne.symm h.1)).trans (ih h.2 _)

/-- **What an edit leaves behind that recalculates:** the change is spread, and the formats are
applied that this triggers. -/
def spreadChange (wb : Workbook) (changed : List Key) (stack : List (List Key)) : Workbook :=
  (wb.recalculateEach (wb.graph.visits stack changed)).1.refreshFormats
    (changed ++ wb.graph.visits stack changed)

theorem workbook_complete {α : Type} (hauto : wb.settings.autoRecalculate = true)
    (changed : List Key) (stack : List (List Key)) (event : Event) (earlier : List Event)
    (answer : Except Error α) :
    (wb.complete changed stack event earlier answer).workbook = wb.spreadChange changed stack := by
  rw [complete, if_pos hauto]
  rfl

/-- **An edit that evaluates a cell again:** it ends where the change of what was written has been
spread, and the cell is among those that are evaluated for this. -/
structure SpreadsTo (written : Workbook) (changed : List Key) (stack : List (List Key)) (key : Key)
    (final : Workbook) : Prop where
  visited : key ∈ written.graph.visits stack changed
  final_eq : final = written.spreadChange changed stack

/-- **A change spreads to the dependents that were spared.** -/
theorem Spares.spreadsTo {written : Workbook} {changed : List Key} {stack : List (List Key)}
    (hspares : Spares wb written key) (hauto : wb.settings.autoRecalculate = true)
    (h : key ∈ wb.dependents x) (hx : x ∈ changed) (hidle : Graph.onStack stack key = false)
    {α : Type} (event : Event) (earlier : List Event) (answer : Except Error α) :
    written.SpreadsTo changed stack key
      (written.complete changed stack event earlier answer).workbook where
  visited := by
    refine Graph.mem_visits_of_mem_readers (Graph.mem_readers_iff.mpr ⟨x, hx, ?_⟩) hidle
    rw [Graph.Step, ← dependents, mem_dependents, hspares.content_eq]
    exact mem_dependents.mp h
  final_eq := by
    refine workbook_complete ?_ ..
    rw [hspares.settings_eq, hauto]

/-- An operation that answered got past its check. -/
theorem exists_of_guard {α β : Type} {check : Except Error β} {go : β → Reply α} {a : α}
    (h : (Reply.guard wb check go).answer = .ok a) : ∃ b, check = .ok b := by
  cases check with
  | error fault => cases h
  | ok b => exact ⟨b, rfl⟩

/-- **Values that were accepted for a range** are as many as it says and lie on the sheet.  They are
written, and the edit is completed for all of them together. -/
theorem exists_of_setValues {sheet : SheetId} {range : Range} {values : List Value}
    (hanswer : (wb.setValues sheet range values).answer = .ok ()) :
    ∃ s, wb.sheet sheet = .ok s ∧ s.checkRange range = .ok () ∧ values.length = range.size ∧
      wb.setValues sheet range values =
        (((keysOf sheet range).zip values).foldl (fun wb kv => wb.writeValue kv.1 kv.2) wb).complete
          (keysOf sheet range) [] (.changed sheet range .data) [] (.ok ()) := by
  unfold setValues at hanswer ⊢
  obtain ⟨s, hsheet⟩ := exists_of_guard hanswer
  rw [hsheet, Reply.guard_ok] at hanswer ⊢
  obtain ⟨u, hcheck⟩ := exists_of_guard hanswer
  rw [hcheck, Reply.guard_ok] at hanswer ⊢
  split at hanswer
  · cases hanswer
  · rename_i hlength
    exact ⟨s, rfl, hcheck, by simpa using hlength, if_neg hlength⟩

/-- **Editing a cell evaluates a formula again,** be it a value or a formula that is written, a
formula that is refused for reading its own cell, or one that is deleted, or a range or a block
that the cell is part of and the formula is not. -/
structure EvaluatesAgain (wb : Workbook) (x key : Key) : Prop where
  ofValue : ∀ v, SpreadsTo (wb.writeValue x v) [x] [] key (wb.setValue x v).workbook
  ofFormula : ∀ text content, wb.contentOf x text = .ok content →
    SpreadsTo ((wb.writeContent x content).recalculate x).1 [x] [[x]] key
      (wb.setFormula x text).workbook
  ofOwnCell : ∀ text sheet spot, wb.contentOf x text = .error (.ownCell sheet spot) →
    SpreadsTo (wb.writeContent x .discarded) [x] [[x]] key (wb.setFormula x text).workbook
  ofDeletion : (wb.content x).isPlain = false →
    SpreadsTo (wb.writeValue x .empty) [x] [] key (wb.deleteFormula x).workbook
  ofValues : ∀ sheet range values, x ∈ keysOf sheet range → key ∉ keysOf sheet range →
    (wb.setValues sheet range values).answer = .ok () →
      SpreadsTo (((keysOf sheet range).zip values).foldl (fun wb kv => wb.writeValue kv.1 kv.2) wb)
        (keysOf sheet range) [] key (wb.setValues sheet range values).workbook
  ofBlock : ∀ sheet block kind, x ∈ keysOf sheet block.range → key ∉ keysOf sheet block.range →
    (wb.writeBlock sheet block kind).answer = .ok () →
      ∃ planned, ((keysOf sheet block.range).zip block.entries).mapM (fun (key, entry) =>
          (wb.contentOfEntry key entry).map fun content => (key, content)) = .ok planned ∧
        SpreadsTo ((planned.foldl (fun wb kc => wb.writeAny kc.1 kc.2) wb).recalculateEach
            ((planned.filter (·.2.expr?.isSome)).map (·.1))).1
          (keysOf sheet block.range) [] key (wb.writeBlock sheet block kind).workbook

section Dependent

variable (hauto : wb.settings.autoRecalculate = true) (h : key ∈ wb.dependents x)
include hauto h

theorem spreadsTo_setValues {sheet : SheetId} {range : Range} {values : List Value}
    (hx : x ∈ keysOf sheet range) (hkey : key ∉ keysOf sheet range)
    (hanswer : (wb.setValues sheet range values).answer = .ok ()) :
    SpreadsTo (((keysOf sheet range).zip values).foldl (fun wb kv => wb.writeValue kv.1 kv.2) wb)
      (keysOf sheet range) [] key (wb.setValues sheet range values).workbook := by
  obtain ⟨-, -, -, -, hreply⟩ := exists_of_setValues hanswer
  rw [hreply]
  have hne : ∀ kc ∈ ((keysOf sheet range).zip values).map fun kv => (kv.1, Content.value kv.2),
      kc.1 ≠ key := by
    rintro kc hkc rfl
    obtain ⟨kv, hkv, rfl⟩ := List.mem_map.mp hkc
    exact hkey (List.of_mem_zip hkv).1
  have hspares := spares_writes hne wb
  rw [List.foldl_map] at hspares
  exact hspares.spreadsTo hauto h hx rfl ..

theorem spreadsTo_writeBlock {sheet : SheetId} {block : Block} {kind : ChangeKind}
    (hx : x ∈ keysOf sheet block.range) (hkey : key ∉ keysOf sheet block.range)
    (hanswer : (wb.writeBlock sheet block kind).answer = .ok ()) :
    ∃ planned, ((keysOf sheet block.range).zip block.entries).mapM (fun (key, entry) =>
        (wb.contentOfEntry key entry).map fun content => (key, content)) = .ok planned ∧
      SpreadsTo ((planned.foldl (fun wb kc => wb.writeAny kc.1 kc.2) wb).recalculateEach
          ((planned.filter (·.2.expr?.isSome)).map (·.1))).1
        (keysOf sheet block.range) [] key (wb.writeBlock sheet block kind).workbook := by
  unfold writeBlock at hanswer ⊢
  obtain ⟨s, hsheet⟩ := exists_of_guard hanswer
  rw [hsheet, Reply.guard_ok] at hanswer ⊢
  obtain ⟨u, hcheck⟩ := exists_of_guard hanswer
  rw [hcheck, Reply.guard_ok] at hanswer ⊢
  split at hanswer
  · cases hanswer
  · rename_i hlength
    rw [if_neg hlength]
    obtain ⟨planned, hplanned⟩ := exists_of_guard hanswer
    refine ⟨planned, mapError_eq_ok_iff.mp hplanned, ?_⟩
    dsimp only
    rw [hplanned, Reply.guard_ok]
    have hne : ∀ kc ∈ planned, kc.1 ≠ key := by
      rintro kc hkc rfl
      obtain ⟨⟨k, entry⟩, hmem, hkc⟩ := (mem_mapM_iff (mapError_eq_ok_iff.mp hplanned)).mp hkc
      obtain ⟨content, -, rfl⟩ := map_eq_ok_iff.mp hkc
      exact hkey (List.of_mem_zip hmem).1
    have hformulas : key ∉ (planned.filter (·.2.expr?.isSome)).map (·.1) := by
      intro hmem
      obtain ⟨kc, hkc, rfl⟩ := List.mem_map.mp hmem
      exact hne kc (List.mem_filter.mp hkc).1 rfl
    exact ((spares_writes hne wb).trans (spares_recalculateEach hformulas _)).spreadsTo hauto h hx
      rfl ..

/-- **Editing a cell evaluates its readers again.** -/
theorem evaluatesAgain_of_mem_dependents (hon : wb.Has x) (hkey : key ≠ x) :
    wb.EvaluatesAgain x key := by
  obtain ⟨s, hs, hcheck⟩ := hon
  have hsheet : wb.sheet x.sheet = .ok s := by rw [sheet, hs]
  have hspares (content : Content) := spares_writeAny wb content hkey.symm
  have hidle : Graph.onStack [[x]] key = false := by simpa [Graph.onStack] using hkey
  constructor
  · intro v
    rw [setValue, hsheet, Reply.guard_ok, hcheck, Reply.guard_ok]
    exact (hspares (.value v)).spreadsTo hauto h (List.mem_singleton_self x) rfl ..
  · intro text content hcontent
    rw [setFormula, hsheet, Reply.guard_ok, hcheck, Reply.guard_ok]
    simp only [hcontent]
    rw [← writeAny_of_contentOf hcontent]
    exact ((hspares content).trans (spares_recalculate _ hkey.symm)).spreadsTo hauto h
      (List.mem_singleton_self x) hidle ..
  · intro text sheet spot hcontent
    rw [setFormula, hsheet, Reply.guard_ok, hcheck, Reply.guard_ok]
    simp only [hcontent]
    exact (hspares .discarded).spreadsTo hauto h (List.mem_singleton_self x) hidle ..
  · intro hplain
    have hcell : (s.cell x.spot).content.isPlain = false := by
      rw [content, cell_eq_elim, hs] at hplain
      exact hplain
    rw [deleteFormula, hsheet, Reply.guard_ok, hcheck, Reply.guard_ok, hcell]
    exact (hspares (.value .empty)).spreadsTo hauto h (List.mem_singleton_self x) rfl ..
  · intro sheet range values hx hkeys hanswer
    exact spreadsTo_setValues hauto h hx hkeys hanswer
  · intro sheet block kind hx hkeys hanswer
    exact spreadsTo_writeBlock hauto h hx hkeys hanswer

end Dependent

/-! ## 4. Readers are not lost -/

/-- A cell that a range on its sheet covers is there. -/
theorem check_of_holds {s : Sheet} {range : Range} {spot : Spot} (hholds : s.holds range = true)
    (hcovers : range.covers spot = true) : s.check spot = .ok () := by
  simp only [Sheet.holds, Range.fits, Bool.and_eq_true, decide_eq_true_eq] at hholds
  rw [Range.covers_iff, Span.covers_iff, Span.covers_iff] at hcovers
  obtain ⟨⟨-, hrow⟩, -, hcol⟩ := hcovers
  exact check_eq_ok_iff.mpr
    ⟨Nat.lt_of_le_of_lt hrow hholds.1, Nat.lt_of_le_of_lt hcol hholds.2⟩

/-- **No reader is lost unless its formula strays.**  In every workbook there can be, a formula is a
dependent of every cell that one of its mentions covers, so editing the cell evaluates it again.
But a formula with one mention beyond the edge of a sheet is a dependent of no cell at all. -/
theorem dependents_of_reachable (h : wb.Reachable) {e : Expr}
    (he : (wb.content key).expr? = some e) :
    (¬ wb.Strays key e → ∀ m edge s x, e.Mentions m → wb.Resolves key m edge s →
        edge.target.covers x = true → key ∈ wb.dependents x ∧
          (wb.settings.autoRecalculate = true → key ≠ x → wb.EvaluatesAgain x key)) ∧
      (wb.Strays key e → (wb.content key).edges = [] ∧ ∀ x, key ∉ wb.dependents x) := by
  have ht := h.tracked
  refine ⟨fun hstay m edge s x hm hres hcovers => ?_, fun hstray => ?_⟩
  · have hdep : key ∈ wb.dependents x := mem_dependents.mpr (ht.exists_edge he hstay hm hres hcovers)
    refine ⟨hdep, fun hauto hkey => evaluatesAgain_of_mem_dependents hauto hdep ?_ hkey⟩
    obtain ⟨hsheet, hrange⟩ : edge.target.sheet = x.sheet ∧
        edge.target.range.covers x.spot = true := by
      simpa [Target.covers] using hcovers
    have hholds : s.holds edge.target.range = true := by
      cases hholds : s.holds edge.target.range with
      | true => rfl
      | false => exact absurd ⟨m, edge, s, hm, hres, hholds⟩ hstay
    exact ⟨s, hsheet ▸ hres.sheet_eq, check_of_holds hholds hrange⟩
  · have hnil := ht.edges_of_strays he hstray
    refine ⟨hnil, fun x hx => ?_⟩
    obtain ⟨edge, hedge, -⟩ := mem_dependents.mp hx
    rw [hnil] at hedge
    cases hedge

/-- A text that mentions `A1` is written into `B1` of a new workbook. -/
theorem dependents_of_reachable_plain :
    let wb := ((Session.start {}).run [.setFormula ⟨⟨0⟩, ⟨0, 1⟩⟩ "=A1"]).workbook
    wb.Reachable ∧ ∃ e, (wb.content ⟨⟨0⟩, ⟨0, 1⟩⟩).expr? = some e ∧
      ⟨⟨0⟩, ⟨0, 1⟩⟩ ∈ wb.dependents ⟨⟨0⟩, ⟨0, 0⟩⟩ ∧
        wb.EvaluatesAgain ⟨⟨0⟩, ⟨0, 0⟩⟩ ⟨⟨0⟩, ⟨0, 1⟩⟩ := by
  intro wb
  have hreach : wb.Reachable := ⟨_, _, rfl⟩
  have hmentions : (wb.content ⟨⟨0⟩, ⟨0, 1⟩⟩).expr?.map (fun e => e.mentions true) =
      some [(.ref none (.cell (.ofSpot ⟨0, 0⟩)), true)] := by decide +kernel
  have hsheet : (wb.sheet? ⟨0⟩).map (fun s => (s.rows, s.cols)) = some (200, 100) := by
    decide +kernel
  have hauto : wb.settings.autoRecalculate = true := by decide +kernel
  obtain ⟨e, he, hfound⟩ := Option.map_eq_some_iff.mp hmentions
  obtain ⟨s, hs, hextents⟩ := Option.map_eq_some_iff.mp hsheet
  obtain ⟨hrows, hcols⟩ : s.rows = 200 ∧ s.cols = 100 := by simpa using hextents
  have hstay : ¬ wb.Strays ⟨⟨0⟩, ⟨0, 1⟩⟩ e := by
    rintro ⟨m, edge, s', hm, ⟨hedge, hs'⟩, hbeyond⟩
    obtain ⟨c, hmem⟩ := exists_mem_mentions hm true
    obtain ⟨rfl, -⟩ : m = .ref none (.cell (.ofSpot ⟨0, 0⟩)) ∧ c = true := by
      simpa [hfound] using hmem
    obtain rfl := Option.some.inj hedge
    obtain rfl : s = s' := Option.some.inj (hs.symm.trans hs')
    rw [Sheet.holds, hrows, hcols] at hbeyond
    revert hbeyond
    decide
  have hm : e.Mentions (.ref none (.cell (.ofSpot ⟨0, 0⟩))) := by
    have hmem : (.ref none (.cell (.ofSpot ⟨0, 0⟩)), true) ∈ e.mentions true := by
      rw [hfound]
      exact List.mem_singleton_self _
    exact mentions_of_mem hmem
  obtain ⟨hdep, hagain⟩ := (dependents_of_reachable hreach he).1 hstay
    _ _ s ⟨⟨0⟩, ⟨0, 0⟩⟩ hm ⟨rfl, hs⟩ (by decide)
  exact ⟨hreach, e, he, hdep, hagain hauto (by decide)⟩

/-- **A mention beyond the edge of a new sheet takes the others along.**  The formula of `B1` reads
`A1`, but is not a dependent of it any more once the sheet that it also names has come. -/
theorem reader_lost_after_addSheet :
    let wb := ((Session.start {}).run
      [.setFormula ⟨⟨0⟩, ⟨0, 1⟩⟩ "=A1+Data!A9", .addSheetSized "Data" 5 5]).workbook
    wb.Reachable ∧ wb.Has ⟨⟨0⟩, ⟨0, 0⟩⟩ ∧
      ∃ e m edge s, (wb.content ⟨⟨0⟩, ⟨0, 1⟩⟩).expr? = some e ∧ e.callsIndirect = false ∧
        e.Mentions m ∧ wb.Resolves ⟨⟨0⟩, ⟨0, 1⟩⟩ m edge s ∧
        edge.target.covers ⟨⟨0⟩, ⟨0, 0⟩⟩ = true ∧
        ⟨⟨0⟩, ⟨0, 1⟩⟩ ∉ wb.dependents ⟨⟨0⟩, ⟨0, 0⟩⟩ := by
  intro wb
  have hformula : (wb.content ⟨⟨0⟩, ⟨0, 1⟩⟩).expr?.map
      (fun e => (e.callsIndirect, e.mentions true)) =
        some (false, [(.ref none (.cell (.ofSpot ⟨0, 0⟩)), true),
          (.ref (some "Data") (.cell (.ofSpot ⟨8, 0⟩)), true)]) := by decide +kernel
  have hsheet : (wb.sheet? ⟨0⟩).map (fun s => (s.rows, s.cols)) = some (200, 100) := by
    decide +kernel
  obtain ⟨e, he, hfound⟩ := Option.map_eq_some_iff.mp hformula
  obtain ⟨s, hs, hextents⟩ := Option.map_eq_some_iff.mp hsheet
  obtain ⟨hcalls, hmentions⟩ : e.callsIndirect = false ∧ e.mentions true = _ := by
    simpa using hfound
  obtain ⟨hrows, hcols⟩ : s.rows = 200 ∧ s.cols = 100 := by simpa using hextents
  have hm : e.Mentions (.ref none (.cell (.ofSpot ⟨0, 0⟩))) := by
    have hmem : (.ref none (.cell (.ofSpot ⟨0, 0⟩)), true) ∈ e.mentions true := by
      rw [hmentions]
      exact List.mem_cons_self
    exact mentions_of_mem hmem
  refine ⟨⟨_, _, rfl⟩, ⟨s, hs, check_eq_ok_iff.mpr ?_⟩, e, _, _, s, he, hcalls, hm, ⟨rfl, hs⟩,
    ?_, ?_⟩
  · rw [hrows, hcols]
    decide
  · decide
  · decide +kernel

end Workbook

end Spreadsheet
