/-
# Which edges a formula has

The edges of a formula are collected in one walk over its tree.  This module says what comes out of
the walk in terms of the sites that it comes to.

* The *sites* of a formula are its references and names from left to right, each with the calls
  that it stands below.  A site is *watched* if none of them asks for addresses.
* A site *leads* to a range of a sheet: of the sheet of the formula, of the first sheet that is
  called as it says, or to the range that a name stands for.  Its edge says just this
  (`resolves_iff_leads`).
* A site is *refused* if it leads beyond the edge of its sheet or, being watched, covers the cell of
  the formula.  That has nothing to do with the edges found so far.  So the walk fails exactly if
  some site is refused, and it fails as the first of them does (`edges_eq_error_iff`).
* If no site is refused, the walk is a fold over the edges of the sites (`foldlM_visit_eq_ok`).
  One step of the fold keeps an edge or drops one that is included already.  So edges are chosen in
  order, they cover what the sites cover, and none lies in an earlier one (`edges_meet_spec`).
-/
import Mathlib.Data.List.Forall2
import Spreadsheet.Proofs.Readers
import Spreadsheet.Proofs.Tidiness

namespace Spreadsheet

open Grid Formula

/-- A range on the axes that is not included has a cell that is not covered: its first, or its
last. -/
theorem Grid.Target.exists_covers_of_not_includes {t u : Target} (hu : u.range.Starts)
    (h : t.includes u = false) : ∃ key, u.covers key = true ∧ t.covers key = false := by
  refine Classical.byContradiction fun hnone => ?_
  have hcovers (spot : Spot) (hspot : u.range.covers spot = true) :
      t.covers ⟨u.sheet, spot⟩ = true := by
    cases hin : t.covers ⟨u.sheet, spot⟩ with
    | true => rfl
    | false => exact absurd ⟨⟨u.sheet, spot⟩, by simpa [covers] using hspot, hin⟩ hnone
  have hfirst := hcovers _ hu.covers_first
  have hlast := hcovers _ hu.covers_last
  simp only [covers, Bool.and_eq_true, Range.covers_iff, Span.covers_iff] at hfirst hlast
  have hincludes : t.includes u = true := by
    simp only [includes, Range.includes, Span.includes, Bool.and_eq_true, decide_eq_true_eq]
    exact ⟨hfirst.1, ⟨hfirst.2.1.1, hlast.2.1.2⟩, hfirst.2.2.1, hlast.2.2.2⟩
  rw [h] at hincludes
  cases hincludes

/-! ## 1. Sites -/

/-- **A site of a formula:** what it mentions, and the calls that it stands below, from the
outermost on. -/
structure Site where
  mention : Mention
  calls : List String

/-- Whether what stands below some calls may not be of the cell that holds the formula: if that is
checked at all, and none of the calls asks for addresses. -/
def watched (checked : Bool) (calls : List String) : Bool :=
  checked && calls.all fun function => !addressFunctions.contains function

theorem watched_append_singleton (checked : Bool) (calls : List String) (function : String) :
    watched checked (calls ++ [function]) =
      (watched checked calls && !addressFunctions.contains function) := by
  simp [watched, List.all_append, Bool.and_assoc]

mutual

/-- **The sites of a formula** from left to right, given the calls above it. -/
def Formula.Expr.sites (calls : List String) : Expr → List Site
  | .ref sheet target => [⟨.ref sheet target, calls⟩]
  | .name name => [⟨.name name, calls⟩]
  | .binary _ left right => left.sites calls ++ right.sites calls
  | .negate operand => operand.sites calls
  | .percent operand => operand.sites calls
  | .group inner => inner.sites calls
  | .call function args => sitesAll (calls ++ [function]) args
  | .number _ | .text _ | .bool _ | .error _ => []

/-- The sites of several formulas. -/
def sitesAll (calls : List String) : List Expr → List Site
  | [] => []
  | e :: rest => e.sites calls ++ sitesAll calls rest

end

/-- A site as the walk comes to it: what is mentioned, and whether it is watched. -/
def Site.visit (checked : Bool) (site : Site) : Mention × Bool :=
  (site.mention, watched checked site.calls)

mutual

/-- **The walk comes to the sites,** one after the other. -/
theorem mentions_eq_sites (checked : Bool) (calls : List String) : ∀ e : Expr,
    e.mentions (watched checked calls) = (e.sites calls).map (·.visit checked)
  | .ref sheet target => rfl
  | .name name => rfl
  | .binary op left right => by
    rw [Expr.mentions, Expr.sites, List.map_append, mentions_eq_sites checked calls left,
      mentions_eq_sites checked calls right]
  | .negate operand => by rw [Expr.mentions, Expr.sites, mentions_eq_sites checked calls operand]
  | .percent operand => by rw [Expr.mentions, Expr.sites, mentions_eq_sites checked calls operand]
  | .group inner => by rw [Expr.mentions, Expr.sites, mentions_eq_sites checked calls inner]
  | .call function args => by
    rw [Expr.mentions, Expr.sites, ← watched_append_singleton,
      mentionsAll_eq_sites checked (calls ++ [function]) args]
  | .number x => rfl
  | .text s => rfl
  | .bool b => rfl
  | .error code => rfl

/-- The walk comes to the sites of the arguments of a call. -/
theorem mentionsAll_eq_sites (checked : Bool) (calls : List String) : ∀ args : List Expr,
    mentionsAll (watched checked calls) args = (sitesAll calls args).map (·.visit checked)
  | [] => rfl
  | e :: rest => by
    rw [mentionsAll, sitesAll, List.map_append, mentions_eq_sites checked calls e,
      mentionsAll_eq_sites checked calls rest]

end

/-- Whether a mention stays on an axis when the formula is copied: a reference both ends of which
are fixed there, or a name. -/
def Mention.fixedOn (axis : Axis) : Mention → Bool
  | .ref _ target => (target.first.along axis).fixed && (target.last.along axis).fixed
  | .name _ => true

/-- The mark of a mention that leads to a range: the first cell of the range, fixed on the axes on
which the mention stays. -/
def Mention.origin (m : Mention) (range : Range) : Position :=
  ⟨⟨range.rows.first, m.fixedOn .rows⟩, ⟨range.cols.first, m.fixedOn .columns⟩⟩

/-! ## 2. Folds that can fail -/

section Folds

variable {α β ε : Type} {f : β → α → Except ε β} {fails : α → ε → Prop}

/-- A fold goes on while no step fails. -/
theorem exists_foldlM_eq_ok (hf : ∀ b a e, f b a = .error e ↔ fails a e) :
    ∀ {as : List α} {b : β}, (∀ a ∈ as, ∀ e, ¬ fails a e) → ∃ b', as.foldlM f b = .ok b'
  | [], b, _ => ⟨b, rfl⟩
  | a :: rest, b, hpass => by
    rw [List.foldlM_cons]
    cases ha : f b a with
    | error e => exact absurd ((hf b a e).mp ha) (hpass a List.mem_cons_self e)
    | ok b' => exact exists_foldlM_eq_ok hf fun a' ha' => hpass a' (List.mem_cons_of_mem _ ha')

/-- No step of a fold failed that has a result. -/
theorem not_fails_of_foldlM_eq_ok (hf : ∀ b a e, f b a = .error e ↔ fails a e) :
    ∀ {as : List α} {b b' : β}, as.foldlM f b = .ok b' → ∀ a ∈ as, ∀ e, ¬ fails a e
  | [], _, _, _ => nofun
  | a :: rest, b, b', h => by
    rw [List.foldlM_cons] at h
    obtain ⟨mid, ha, hrest⟩ := bind_eq_ok_iff.mp h
    intro a' ha' e hfails
    obtain rfl | ha' := List.mem_cons.mp ha'
    · rw [(hf b a' e).mpr hfails] at ha
      cases ha
    · exact not_fails_of_foldlM_eq_ok hf hrest a' ha' e hfails

/-- **A fold whose steps fail whatever came before fails as the first step that does.** -/
theorem foldlM_eq_error_iff (hf : ∀ b a e, f b a = .error e ↔ fails a e) {e : ε} :
    ∀ {as : List α} {b : β}, as.foldlM f b = .error e ↔ ∃ before a after,
      as = before ++ a :: after ∧ fails a e ∧ ∀ a' ∈ before, ∀ e', ¬ fails a' e' := by
  intro as b
  constructor
  · intro h
    induction as generalizing b with
    | nil => cases h
    | cons a rest ih =>
      rw [List.foldlM_cons] at h
      cases ha : f b a with
      | error e' =>
        rw [ha] at h
        obtain rfl : e' = e := Except.error.inj h
        exact ⟨[], a, rest, rfl, (hf b a e').mp ha, nofun⟩
      | ok mid =>
        rw [ha] at h
        obtain ⟨before, a', after, rfl, hfails, hpass⟩ := ih h
        refine ⟨a :: before, a', after, rfl, hfails, fun x hx e' hx' => ?_⟩
        obtain rfl | hx := List.mem_cons.mp hx
        · rw [(hf b x e').mpr hx'] at ha
          cases ha
        · exact hpass x hx e' hx'
  · rintro ⟨before, a, after, rfl, hfails, hpass⟩
    obtain ⟨mid, hmid⟩ := exists_foldlM_eq_ok (b := b) hf hpass
    rw [List.foldlM_append, hmid]
    change (a :: after).foldlM f mid = .error e
    rw [List.foldlM_cons, (hf mid a e).mpr hfails]
    rfl

end Folds

namespace Workbook

variable {wb : Workbook} {home : Key} {checked : Bool} {e : Expr}

/-! ## 3. Where sites lead -/

/-- **A name leads to the first sheet that is called so,** whatever the case of letters. -/
theorem sheetNamed?_eq_some_iff {name : String} {id : SheetId} : wb.sheetNamed? name = some id ↔
    ∃ s, wb.sheet? id = some s ∧ Text.small s.name = Text.small name ∧
      ∀ earlier s', earlier.number < id.number → wb.sheet? earlier = some s' →
        Text.small s'.name ≠ Text.small name := by
  obtain ⟨i⟩ := id
  simp only [sheetNamed?, Option.map_eq_some_iff, SheetId.mk.injEq, exists_eq_right, sheet?,
    List.findIdx?_eq_some_iff_getElem, beq_iff_eq]
  constructor
  · rintro ⟨hi, hname, hfirst⟩
    refine ⟨_, List.getElem?_eq_getElem hi, hname, ?_⟩
    rintro ⟨j⟩ s' hj hs'
    rw [List.getElem?_eq_getElem (Nat.lt_trans hj hi)] at hs'
    exact Option.some.inj hs' ▸ hfirst j hj
  · rintro ⟨s, hs, hname, hfirst⟩
    obtain ⟨hi, rfl⟩ := List.getElem?_eq_some_iff.mp hs
    exact ⟨hi, hname, fun j hj =>
      hfirst ⟨j⟩ _ hj (List.getElem?_eq_getElem (Nat.lt_trans hj hi))⟩

/-- **Where a mention leads:** to a range of a sheet that is there.  A reference that names no sheet,
and a name, lead to the sheet that the formula stands on. -/
inductive Leads (wb : Workbook) (home : Key) : Mention → Target → Sheet → Prop
  | here {target : Reference} {s : Sheet} (hs : wb.sheet? home.sheet = some s) :
      Leads wb home (.ref none target) ⟨home.sheet, target.range⟩ s
  | there {name : String} {target : Reference} {id : SheetId} {s : Sheet}
      (hs : wb.sheet? id = some s) (hname : Text.small s.name = Text.small name)
      (hfirst : ∀ earlier s', earlier.number < id.number → wb.sheet? earlier = some s' →
        Text.small s'.name ≠ Text.small name) :
      Leads wb home (.ref (some name) target) ⟨id, target.range⟩ s
  | named {name : String} {named : NamedRange} {s : Sheet} (hs : wb.sheet? home.sheet = some s)
      (hnamed : (Text.small name, named) ∈ s.names.byKey.entries) :
      Leads wb home (.name name) ⟨home.sheet, named.range⟩ s

/-- **The edge of a mention says where it leads,** and carries its mark. -/
theorem resolves_iff_leads {m : Mention} {edge : Edge} {s : Sheet} :
    wb.Resolves home m edge s ↔
      wb.Leads home m edge.target s ∧ edge.origin = m.origin edge.target.range := by
  obtain ⟨target, origin⟩ := edge
  constructor
  · rintro ⟨hedge, hs⟩
    cases m with
    | ref sheet r =>
      cases sheet with
      | none =>
        obtain ⟨rfl, rfl⟩ := Edge.mk.inj (Option.some.inj hedge)
        exact ⟨.here hs, rfl⟩
      | some name =>
        obtain ⟨id, hid, hedge⟩ := Option.map_eq_some_iff.mp hedge
        obtain ⟨rfl, rfl⟩ := Edge.mk.inj hedge
        obtain ⟨s', hs', hname, hfirst⟩ := sheetNamed?_eq_some_iff.mp hid
        obtain rfl : s' = s := Option.some.inj (hs'.symm.trans hs)
        exact ⟨.there hs hname hfirst, rfl⟩
    | name name =>
      obtain ⟨range, hrange, hedge⟩ := Option.map_eq_some_iff.mp hedge
      obtain ⟨rfl, rfl⟩ := Edge.mk.inj hedge
      obtain ⟨s', hs', hrange⟩ := Option.bind_eq_some_iff.mp hrange
      obtain ⟨named, hnamed, rfl⟩ := Option.map_eq_some_iff.mp hrange
      obtain rfl : s' = s := Option.some.inj (hs'.symm.trans hs)
      exact ⟨.named hs (s'.names.byKey.get?_eq_some_iff.mp hnamed), rfl⟩
  · dsimp only
    rintro ⟨hleads, rfl⟩
    cases hleads with
    | here hs => exact ⟨rfl, hs⟩
    | there hs hname hfirst =>
      have hid := sheetNamed?_eq_some_iff.mpr ⟨s, hs, hname, hfirst⟩
      exact ⟨Option.map_eq_some_iff.mpr ⟨_, hid, rfl⟩, hs⟩
    | @named name named s hs hnamed =>
      have hrange : wb.namedRange? home.sheet name = some named.range :=
        Option.bind_eq_some_iff.mpr
          ⟨s, hs, Option.map_eq_some_iff.mpr
            ⟨named, s.names.byKey.get?_eq_some_iff.mpr hnamed, rfl⟩⟩
      exact ⟨Option.map_eq_some_iff.mpr ⟨named.range, hrange, rfl⟩, hs⟩

/-- **Whether an edge is that of a site:** it says where the site leads, and carries its mark. -/
def IsEdgeOf (wb : Workbook) (home : Key) (site : Site) (edge : Edge) : Prop :=
  (∃ s, wb.Leads home site.mention edge.target s) ∧
    edge.origin = site.mention.origin edge.target.range

/-- A mention that leads somewhere has an edge. -/
theorem Leads.resolves {m : Mention} {target : Target} {s : Sheet} (h : wb.Leads home m target s) :
    wb.Resolves home m ⟨target, m.origin target.range⟩ s :=
  resolves_iff_leads.mpr ⟨h, rfl⟩

/-! ## 4. Refused sites -/

/-- **What is wrong with a site.**  It may lead beyond the edge of its sheet; if it does not, and is
watched, it may cover the cell of the formula.  A site that leads nowhere is all right. -/
inductive Refused (wb : Workbook) (home : Key) (checked : Bool) (site : Site) :
    ReferenceFault → Prop
  | beyond {target : Target} {s : Sheet} (hleads : wb.Leads home site.mention target s)
      (hbeyond : s.holds target.range = false) :
      Refused wb home checked site (.beyondSheet s.name target.range)
  | own {target : Target} {s : Sheet} (hleads : wb.Leads home site.mention target s)
      (hholds : s.holds target.range = true) (hwatched : watched checked site.calls = true)
      (hown : target.covers home = true) :
      Refused wb home checked site (.ownCell s.name home.spot)

/-- **The walk fails at a site that is refused,** whatever edges it has found. -/
theorem addMention_visit_eq_error_iff {site : Site} {edges : List Edge} {fault : ReferenceFault} :
    wb.addMention home edges (site.visit checked) = .error fault ↔
      wb.Refused home checked site fault := by
  constructor
  · intro h
    obtain ⟨edge, s, hres, hrefused⟩ := addMention_eq_error h
    have hleads := (resolves_iff_leads.mp hres).1
    unfold admission at hrefused
    split at hrefused
    · rename_i hbeyond
      obtain rfl := Except.error.inj hrefused
      exact .beyond hleads (by simpa using hbeyond)
    · rename_i hholds
      split at hrefused
      · rename_i hown
        obtain rfl := Except.error.inj hrefused
        rw [Bool.and_eq_true] at hown
        exact .own hleads (by simpa using hholds) hown.1 hown.2
      · cases hrefused
  · intro h
    cases h with
    | beyond hleads hbeyond =>
      rw [addMention_of_resolves hleads.resolves, admission, hbeyond]
      rfl
    | own hleads hholds hwatched hown =>
      rw [addMention_of_resolves hleads.resolves, admission, hholds, Site.visit, hwatched, hown]
      rfl

/-- The walk over a formula is one over its sites. -/
theorem edges_eq_foldlM (wb : Workbook) (home : Key) (checked : Bool) (e : Expr) :
    wb.edges home checked e = (e.sites []).foldlM
      (fun edges site => wb.addMention home edges (site.visit checked)) [] := by
  have hwatched : watched checked [] = checked := Bool.and_true checked
  have hmentions := mentions_eq_sites checked [] e
  rw [hwatched] at hmentions
  rw [edges, hmentions, List.foldlM_map]

/-- **The walk fails as the first refused site does.** -/
theorem edges_eq_error_iff {fault : ReferenceFault} : wb.edges home checked e = .error fault ↔
    ∃ before site after, e.sites [] = before ++ site :: after ∧
      wb.Refused home checked site fault ∧
      ∀ earlier ∈ before, ∀ fault', ¬ wb.Refused home checked earlier fault' := by
  rw [edges_eq_foldlM]
  refine foldlM_eq_error_iff ?_
  exact fun _ _ _ => addMention_visit_eq_error_iff

/-! ## 5. Choosing edges -/

/-- The edge of a mention, if it leads to a sheet that is there. -/
def resolved? (wb : Workbook) (home : Key) (m : Mention) : Option Edge :=
  (wb.edge? home m).filter fun edge => (wb.sheet? edge.target.sheet).isSome

theorem resolved?_eq_some_iff {m : Mention} {edge : Edge} :
    wb.resolved? home m = some edge ↔ ∃ s, wb.Resolves home m edge s := by
  simp only [resolved?, Option.filter_eq_some_iff, Option.isSome_iff_exists]
  exact ⟨fun ⟨hedge, s, hs⟩ => ⟨s, hedge, hs⟩, fun ⟨s, hres⟩ => ⟨hres.edge_eq, s, hres.sheet_eq⟩⟩

/-- **The edges of sites,** in order.  A site that does not resolve has none. -/
def candidates (wb : Workbook) (home : Key) (sites : List Site) : List Edge :=
  sites.filterMap fun site => wb.resolved? home site.mention

theorem mem_candidates {sites : List Site} {edge : Edge} : edge ∈ wb.candidates home sites ↔
    ∃ site ∈ sites, ∃ s, wb.Resolves home site.mention edge s := by
  simp only [candidates, List.mem_filterMap, resolved?_eq_some_iff]

/-- **The edges of sites cover what the sites lead to.** -/
theorem covers_candidates_iff {sites : List Site} {key : Key} :
    (∃ edge ∈ wb.candidates home sites, edge.target.covers key = true) ↔
      ∃ site ∈ sites, ∃ target s, wb.Leads home site.mention target s ∧
        target.covers key = true := by
  simp only [mem_candidates]
  constructor
  · rintro ⟨edge, ⟨site, hsite, s, hres⟩, hkey⟩
    exact ⟨site, hsite, edge.target, s, (resolves_iff_leads.mp hres).1, hkey⟩
  · rintro ⟨site, hsite, target, s, hleads, hkey⟩
    exact ⟨_, ⟨site, hsite, s, hleads.resolves⟩, hkey⟩

/-- **Some of the edges of sites, in order, are the edges of some of the sites,** in order. -/
theorem exists_sites_of_sublist : ∀ {sites : List Site} {edges : List Edge},
    edges.Sublist (wb.candidates home sites) → ∃ chosen : List Site, chosen.Sublist sites ∧
      List.Forall₂ (wb.IsEdgeOf home) chosen edges
  | [], edges, h => by
    obtain rfl : edges = [] := List.sublist_nil.mp h
    exact ⟨[], .slnil, .nil⟩
  | site :: rest, edges, h => by
    rw [candidates, List.filterMap_cons] at h
    cases hedge : wb.resolved? home site.mention with
    | none =>
      rw [hedge] at h
      obtain ⟨chosen, hsub, hedges⟩ := exists_sites_of_sublist h
      exact ⟨chosen, hsub.cons site, hedges⟩
    | some edge =>
      rw [hedge] at h
      obtain hrest | ⟨others, rfl, hrest⟩ := List.sublist_cons_iff.mp h
      · obtain ⟨chosen, hsub, hedges⟩ := exists_sites_of_sublist hrest
        exact ⟨chosen, hsub.cons site, hedges⟩
      · obtain ⟨chosen, hsub, hedges⟩ := exists_sites_of_sublist hrest
        obtain ⟨s, hres⟩ := resolved?_eq_some_iff.mp hedge
        obtain ⟨hleads, horigin⟩ := resolves_iff_leads.mp hres
        exact ⟨site :: chosen, hsub.cons_cons site, .cons ⟨⟨s, hleads⟩, horigin⟩ hedges⟩

/-- An edge is kept behind the others, or one of them includes it. -/
theorem addEdge_cases (edges : List Edge) (edge : Edge) :
    (addEdge edges edge = edges ++ [edge] ∧
        ∀ kept ∈ edges, kept.target.includes edge.target = false) ∨
      addEdge edges edge = edges ∧ ∃ kept ∈ edges, kept.target.includes edge.target = true := by
  unfold addEdge
  split
  · rename_i hany
    exact .inr ⟨rfl, List.any_eq_true.mp hany⟩
  · rename_i hnone
    exact .inl ⟨rfl, by simpa using hnone⟩

/-- A mention that passes adds its edge, if it has one. -/
theorem addMention_eq_ok_elim {edges edges' : List Edge} {m : Mention × Bool}
    (h : wb.addMention home edges m = .ok edges') :
    edges' = (wb.resolved? home m.1).elim edges (addEdge edges) := by
  by_cases hm : ∃ edge s, wb.Resolves home m.1 edge s
  · obtain ⟨edge, s, hres⟩ := hm
    rw [addMention_of_resolves hres] at h
    obtain ⟨u, -, rfl⟩ := map_eq_ok_iff.mp h
    rw [resolved?_eq_some_iff.mpr ⟨s, hres⟩]
    rfl
  · rw [addMention_of_not_resolves hm] at h
    have hnone : wb.resolved? home m.1 = none := by
      rw [Option.eq_none_iff_forall_ne_some]
      exact fun edge hedge => hm ⟨edge, resolved?_eq_some_iff.mp hedge⟩
    rw [hnone, ← Except.ok.inj h]
    rfl

/-- **A walk that does not fail is a fold over the edges of the sites.** -/
theorem foldlM_visit_eq_ok {sites : List Site} : ∀ {edges edges' : List Edge},
    sites.foldlM (fun edges site => wb.addMention home edges (site.visit checked)) edges =
      .ok edges' → edges' = (wb.candidates home sites).foldl addEdge edges := by
  induction sites with
  | nil =>
    intro edges edges' h
    exact (Except.ok.inj h).symm
  | cons site rest ih =>
    intro edges edges' h
    rw [List.foldlM_cons] at h
    obtain ⟨mid, hsite, hrest⟩ := bind_eq_ok_iff.mp h
    obtain rfl := addMention_eq_ok_elim hsite
    rw [ih hrest]
    cases hedge : wb.resolved? home site.mention with
    | none => simp only [Site.visit, candidates, List.filterMap_cons, hedge, Option.elim_none]
    | some edge =>
      simp only [Site.visit, candidates, List.filterMap_cons, hedge, Option.elim_some,
        List.foldl_cons]

/-- **Chosen edges stand in order,** behind those that were there. -/
theorem exists_foldl_addEdge : ∀ (candidates edges : List Edge), ∃ chosen,
    candidates.foldl addEdge edges = edges ++ chosen ∧ chosen.Sublist candidates
  | [], edges => ⟨[], (List.append_nil edges).symm, .slnil⟩
  | edge :: rest, edges => by
    rw [List.foldl_cons]
    obtain ⟨hadd, -⟩ | ⟨hadd, -⟩ := addEdge_cases edges edge
    · obtain ⟨chosen, hchosen, hsub⟩ := exists_foldl_addEdge rest (edges ++ [edge])
      refine ⟨edge :: chosen, ?_, hsub.cons_cons edge⟩
      rw [hadd, hchosen, List.append_assoc, List.singleton_append]
    · obtain ⟨chosen, hchosen, hsub⟩ := exists_foldl_addEdge rest edges
      exact ⟨chosen, by rw [hadd, hchosen], hsub.cons edge⟩

/-- **No chosen edge is included in an earlier one.** -/
theorem pairwise_foldl_addEdge : ∀ (candidates : List Edge) {edges : List Edge},
    edges.Pairwise (fun a b => a.target.includes b.target = false) →
      (candidates.foldl addEdge edges).Pairwise fun a b => a.target.includes b.target = false
  | [], _, h => h
  | edge :: rest, edges, h => by
    refine pairwise_foldl_addEdge rest ?_
    obtain ⟨hadd, hnew⟩ | ⟨hadd, -⟩ := addEdge_cases edges edge
    · rw [hadd, List.pairwise_append]
      refine ⟨h, List.pairwise_singleton _ _, fun a ha b hb => ?_⟩
      obtain rfl := List.mem_singleton.mp hb
      exact hnew a ha
    · rw [hadd]
      exact h

/-- **Chosen edges cover what the candidates cover.** -/
theorem covers_foldl_addEdge {key : Key} : ∀ {candidates edges : List Edge},
    (∃ edge ∈ candidates.foldl addEdge edges, edge.target.covers key = true) ↔
      (∃ edge ∈ edges, edge.target.covers key = true) ∨
        ∃ edge ∈ candidates, edge.target.covers key = true
  | [], edges => by simp
  | edge :: rest, edges => by
    have hadd : (∃ x ∈ addEdge edges edge, x.target.covers key = true) ↔
        (∃ x ∈ edges, x.target.covers key = true) ∨ edge.target.covers key = true := by
      obtain ⟨hadd, -⟩ | ⟨hadd, kept, hkept, hincludes⟩ := addEdge_cases edges edge
      · simp [hadd, or_and_right, exists_or]
      · rw [hadd, or_iff_left_of_imp]
        exact fun hkey => ⟨kept, hkept, Target.covers_of_includes hincludes hkey⟩
    rw [List.foldl_cons, covers_foldl_addEdge, hadd, or_assoc]
    simp

/-! ## 6. What comes out -/

/-- **The edges of a formula, by its sites.**  If they cannot be found, there is a refused site,
and the fault is that of the first one.  If they can, no site is refused, and the edges are those of
some of the sites, in order and with their marks.  They cover what the sites lead to, and each of them
covers a cell that an earlier one does not. -/
theorem edges_meet_spec (wb : Workbook) (home : Key) (checked : Bool) (e : Expr) :
    match wb.edges home checked e with
    | .error fault => ∃ before site after, e.sites [] = before ++ site :: after ∧
        wb.Refused home checked site fault ∧
        ∀ earlier ∈ before, ∀ fault', ¬ wb.Refused home checked earlier fault'
    | .ok edges => (∀ site ∈ e.sites [], ∀ fault, ¬ wb.Refused home checked site fault) ∧
        (∃ chosen : List Site, chosen.Sublist (e.sites []) ∧
          List.Forall₂ (wb.IsEdgeOf home) chosen edges) ∧
        (∀ key, (∃ edge ∈ edges, edge.target.covers key = true) ↔
          ∃ site ∈ e.sites [], ∃ target s, wb.Leads home site.mention target s ∧
            target.covers key = true) ∧
        edges.Pairwise fun earlier later =>
          ∃ key, later.target.covers key = true ∧ earlier.target.covers key = false := by
  cases h : wb.edges home checked e with
  | error fault => exact edges_eq_error_iff.mp h
  | ok edges =>
    rw [edges_eq_foldlM] at h
    have hpass : ∀ site ∈ e.sites [], ∀ fault, ¬ wb.Refused home checked site fault := by
      refine not_fails_of_foldlM_eq_ok ?_ h
      exact fun _ _ _ => addMention_visit_eq_error_iff
    have hfold := foldlM_visit_eq_ok h
    obtain ⟨chosen, hchosen, hsub⟩ := exists_foldl_addEdge (wb.candidates home (e.sites [])) []
    obtain rfl : edges = chosen := hfold.trans hchosen
    refine ⟨hpass, exists_sites_of_sublist hsub, fun key => ?_, ?_⟩
    · rw [hfold, covers_foldl_addEdge]
      simp only [List.not_mem_nil, false_and, exists_false, false_or, covers_candidates_iff]
    · have hpairwise := pairwise_foldl_addEdge (wb.candidates home (e.sites [])) .nil
      rw [← hfold] at hpairwise
      refine hpairwise.imp_of_mem fun {earlier later} _ hlater hincludes => ?_
      obtain ⟨site, hsite, s, hres⟩ := mem_candidates.mp (hsub.subset hlater)
      cases hholds : s.holds later.target.range with
      | true => exact Target.exists_covers_of_not_includes (Sheet.starts_of_holds hholds) hincludes
      | false =>
        exact absurd (.beyond (resolves_iff_leads.mp hres).1 hholds) (hpass site hsite _)

/-- Three of five sites have edges: the others lie in the first one.  What all of them lead to is
covered, and none of them is refused, also not the one that asks for the address of its own cell. -/
theorem edges_meet_spec_contained :
    let home : Key := ⟨⟨0⟩, ⟨0, 3⟩⟩
    ∃ e edges, parse "=SUM(A1:B5)+A2+B5+ROW(D1)+C1" = .ok e ∧
      (new {}).edges home true e = .ok edges ∧
      edges.map (·.target.range.text) = ["A1:B5", "D1", "C1"] ∧
      (∀ site ∈ e.sites [], ∀ fault, ¬ (new {}).Refused home true site fault) ∧
      ∀ site ∈ e.sites [], ∀ target s, (new {}).Leads home site.mention target s →
        ∀ key, target.covers key = true → ∃ edge ∈ edges, edge.target.covers key = true := by
  intro home
  have hfound : ((parse "=SUM(A1:B5)+A2+B5+ROW(D1)+C1").toOption.bind fun e =>
      ((new {}).edges home true e).toOption).any
        (·.map (·.target.range.text) == ["A1:B5", "D1", "C1"]) = true := by decide +kernel
  cases he : parse "=SUM(A1:B5)+A2+B5+ROW(D1)+C1" with
  | error fault =>
    rw [he] at hfound
    cases hfound
  | ok e =>
    rw [he] at hfound
    obtain ⟨edges, hedges, htexts⟩ := exists_of_any hfound
    have hspec := edges_meet_spec (new {}) home true e
    rw [hedges] at hspec
    obtain ⟨hpass, -, hcovers, -⟩ := hspec
    refine ⟨e, edges, rfl, hedges, by simpa using htexts, hpass, ?_⟩
    exact fun site hsite target s hleads key hkey =>
      (hcovers key).mpr ⟨site, hsite, target, s, hleads, hkey⟩

end Workbook

end Spreadsheet
