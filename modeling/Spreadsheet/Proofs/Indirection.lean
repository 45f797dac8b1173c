/-
# Addresses that are looked up

* An address in letters is the text of a reference to one cell, so it is read as this reference,
  whatever the marks and whatever the name of the sheet in front: a name that is no plain word
  stands in quotes, and those in it are doubled (`parse_reference`).
* The name leads to its sheet, because no two sheets have one name up to case and none has an empty
  one (`sheet?_sheetText?`).  Without a name the sheet is that of the formula.
* So looking up the text of an address gives the value of the cell whose row and column the
  arguments name, and it does so in formulas too (`indirect_address`).

Rows and columns may be numbers with a fraction or texts of numbers; what counts is their whole
part.  Where the cell lies beyond the extents of its sheet it is empty.
-/
import Spreadsheet.Proofs.AddressTexts
import Spreadsheet.Proofs.Places
import Spreadsheet.Proofs.Rendering

namespace Spreadsheet

open Decimal Grid Formula

/-! ## 1. References as texts -/

namespace Formula

/-- **The text of a reference is read as the reference.** -/
theorem parse_reference (sheet : Option String) {target : Reference} (h : target.Proper) :
    parse (String.ofList (sheetMark sheet ++ target.chars)) = .ok (.ref sheet target) := by
  have hcanonical : (Expr.ref sheet target).Canonical := h
  have hnumbers : (Expr.ref sheet target).numbers = [] := rfl
  have hlegible : (Expr.ref sheet target).Legible := ⟨rfl, by simp [hnumbers]⟩
  rw [(solid_reference sheet target).parse_eq.1]
  exact parseTokens_tokens_chars hcanonical (by simp [hnumbers]) hlegible

/-- Arguments that have values are given to their function. -/
theorem mapM_get_evaluateAll {ctx : Context} : ∀ {es : List Expr} {args : List Operand},
    es.map (evaluate ctx) = args.map .ok → (evaluateAll ctx es).mapM Thunk.get = .ok args
  | [], [], _ => rfl
  | e :: es, v :: args, h => by
    obtain ⟨hv, hargs⟩ := List.cons.inj h
    rw [evaluateAll, List.mapM_cons, mapM_get_evaluateAll hargs]
    change (do
      let v ← evaluate ctx e
      let vs ← (Except.ok args : Except Fault (List Operand))
      pure (v :: vs)) = _
    rw [hv]
    rfl

/-- An address takes two to five arguments. -/
theorem checkCount_address (called : String) {count : Nat} (hlow : 2 ≤ count) (hhigh : count ≤ 5) :
    Function.address.checkCount called count = .ok () := by
  unfold Function.checkCount
  rw [if_neg (Nat.not_lt.mpr hlow : ¬ count < Function.address.fewest)]
  exact if_neg (Nat.not_lt.mpr hhigh)

/-- A call of a function that works on values, by the values of its arguments. -/
theorem evaluate_call {ctx : Context} {called : String} {f : Function} {es : List Expr}
    {args : List Operand} (hf : Function.find? called = some f)
    (hcount : f.checkCount called es.length = .ok ()) (hlazy : f.isLazy = false)
    (hargs : es.map (evaluate ctx) = args.map .ok) :
    evaluate ctx (.call called es) = applyToValues ctx f args := by
  rw [evaluate, applyCall, hf]
  dsimp only
  rw [hcount]
  change applyFunction ctx f es (evaluateAll ctx es) = _
  unfold applyFunction
  cases f <;> first | (rw [mapM_get_evaluateAll hargs]; rfl) | cases hlazy

end Formula

namespace Workbook

variable {wb : Workbook}

/-! ## 2. Sheets of names -/

/-- **No sheet of a workbook there can be has an empty name.** -/
theorem Reachable.sheetName_ne_empty (h : wb.Reachable) : ∀ name ∈ wb.sheetNames, name ≠ "" := by
  refine h.induction (P := fun wb => ∀ name ∈ wb.sheetNames, name ≠ "") (fun settings => ?_) ?_
  · simp [sheetNames, new, Sheet.new]
  · intro wb wb' hedit hnames
    rcases sheetNames_edit hedit with heq | ⟨name, hname, heq⟩
    · rw [heq]
      exact hnames
    · rw [heq]
      intro other hother
      rcases List.mem_append.mp hother with hother | hother
      · exact hnames other hother
      · obtain rfl := List.mem_singleton.mp hother
        rintro rfl
        cases hname

/-- **The sheet that the arguments of an address name:** that of the formula if they name none, or a
sheet whose name agrees with theirs up to the case of ASCII letters. -/
def SheetAsked (wb : Workbook) (home : Key) (args : List Operand) (id : SheetId) : Prop :=
  (args[4]? = none ∨ ∃ v, args[4]? = some v ∧ v.shown = "") ∧ id = home.sheet ∨
    ∃ v s, args[4]? = some v ∧ wb.sheet? id = some s ∧ Text.sameLetters v.shown s.name = true

theorem sheet?_sheetText? (h : wb.Reachable) {home : Key} {args : List Operand} {id : SheetId}
    (hid : wb.SheetAsked home args id) :
    Context.sheet? ⟨wb.source, home⟩ (sheetText? args) = some id := by
  rcases hid with ⟨hnone, rfl⟩ | ⟨v, s, hv, hs, hname⟩
  · have hempty : ((args[4]?.map Operand.shown).getD "").isEmpty = true := by
      rcases hnone with hnone | ⟨v, hv, hshown⟩
      · rw [hnone]
        rfl
      · rw [hv, Option.map_some, hshown]
        rfl
    rw [sheetText?, if_pos hempty]
    rfl
  · have hne : ¬ v.shown.isEmpty = true := by
      intro hempty
      have hshown : v.shown = "" := String.isEmpty_iff.mp hempty
      have hmem : s.name ∈ wb.sheetNames := List.mem_map.mpr ⟨s, List.mem_of_getElem? hs, rfl⟩
      rw [hshown, Text.sameLetters, beq_iff_eq, eq_comm] at hname
      refine h.sheetName_ne_empty _ hmem (String.toList_eq_nil_iff.mp ?_)
      simpa [Text.asciiCapital] using congrArg String.toList hname
    rw [sheetText?, hv, Option.map_some, Option.getD_some, if_neg hne]
    exact h.sheetNamed?_of_sameLetters hs hname

/-! ## 3. Looking up an address -/

/-- **An address in letters is asked for:** the whole parts of row and column are those of a cell on
the grid, counted from one, the number of the marks is one from one to four, and the sheet is
there. -/
structure Asks (wb : Workbook) (home : Key) (args : List Operand) (target : Key) : Prop where
  clean : args.findSome? Operand.error? = none
  few : args.length ≤ 5
  row : wholeGiven? args 0 0.0 = some ((target.spot.row + 1 : Nat) : Int)
  col : wholeGiven? args 1 0.0 = some ((target.spot.col + 1 : Nat) : Int)
  onGrid : target.spot.row < maxRows ∧ target.spot.col < maxColumns
  kind : ∃ kind : Nat, wholeGiven? args 2 1.0 = some (kind : Int) ∧ 1 ≤ kind ∧ kind ≤ 4
  letters : lettersAsked args = .ok true
  sheet : wb.SheetAsked home args target.sheet

variable {home target : Key} {args : List Operand}

/-- What is asked for is written as a reference to the cell. -/
theorem Asks.addressOf_eq (h : wb.Asks home args target) :
    ∃ p : Position, p.OnGrid ∧ p.spot = target.spot ∧ addressOf args =
      .ok (.text (String.ofList (sheetMark (sheetText? args) ++ (Reference.cell p).chars))) := by
  obtain ⟨row, hrow, hrowWhole⟩ := Option.bind_eq_some_iff.mp h.row
  obtain ⟨col, hcol, hcolWhole⟩ := Option.bind_eq_some_iff.mp h.col
  obtain ⟨k, hkind, hlow, hhigh⟩ := h.kind
  obtain ⟨kind, hkind, hkindWhole⟩ := Option.bind_eq_some_iff.mp hkind
  refine ⟨⟨⟨target.spot.row, (marksOf k).1⟩, ⟨target.spot.col, (marksOf k).2⟩⟩, h.onGrid, rfl, ?_⟩
  rw [addressOf_of_within ⟨h.clean, hrow, hcol, hkind, h.letters⟩ hrowWhole
    ⟨by omega, h.onGrid.1⟩ hcolWhole ⟨by omega, h.onGrid.2⟩ hkindWhole ⟨hlow, hhigh⟩,
    Nat.add_sub_cancel, Nat.add_sub_cancel]
  rfl

/-- The text of a reference is looked up as the value of the reference. -/
theorem indirectly_reference (ctx : Context) (sheet : Option String) {ref : Reference}
    (h : ref.Proper) :
    indirectly ctx [.text (String.ofList (sheetMark sheet ++ ref.chars))] =
      .ok (ctx.reference sheet ref) := by
  unfold indirectly
  simp only [parse_reference sheet h]
  rfl

/-- **Looking up an address gives the value of the cell that it is the address of.** -/
theorem Asks.indirectly_eq (h : wb.Asks home args target) (hwb : wb.Reachable) :
    ∃ text, addressOf args = .ok (.text text) ∧
      indirectly ⟨wb.source, home⟩ [.text text] = .ok (.ofValue (wb.value target)) := by
  obtain ⟨p, hgrid, hspot, htext⟩ := h.addressOf_eq
  refine ⟨_, htext, ?_⟩
  rw [indirectly_reference _ _ (show (Reference.cell p).Proper from hgrid), Context.reference,
    sheet?_sheetText? hwb h.sheet]
  simp only [Context.cell, hspot]
  rfl

/-- Arguments of an address are at least two. -/
theorem Asks.two_le_length (h : wb.Asks home args target) : 2 ≤ args.length := by
  refine Nat.lt_of_not_le fun hfew => ?_
  have hcol := h.col
  have hzero : Decimal.wholePart? 0.0 = some 0 := by decide +kernel
  rw [wholeGiven?, given?, List.getElem?_eq_none hfew, Option.bind_some, hzero] at hcol
  have := Option.some.inj hcol
  omega

/-- **Whole numbers, the marks, letters and possibly the name of a sheet ask for an address,** be
the numbers made as they may. -/
theorem asks_numbers {row col kind : Float} {r c k : Nat} {sheet : Option String} {id : SheetId}
    (hrow : Denotes row (r + 1 : Nat)) (hcol : Denotes col (c + 1 : Nat)) (hkind : Denotes kind k)
    (hgrid : r < maxRows ∧ c < maxColumns) (hk : 1 ≤ k ∧ k ≤ 4)
    (hsheet : match sheet with
      | none => id = home.sheet
      | some name => ∃ s, wb.sheet? id = some s ∧ s.name = name) :
    wb.Asks home ([.number row, .number col, .number kind, .bool true] ++
      sheet.toList.map .text) ⟨id, ⟨r, c⟩⟩ := by
  cases sheet with
  | none =>
    exact ⟨rfl, by simp, hrow.wholePart?, hcol.wholePart?, hgrid,
      ⟨k, hkind.wholePart?, hk⟩, rfl, .inl ⟨.inl rfl, hsheet⟩⟩
  | some name =>
    obtain ⟨s, hs, rfl⟩ := hsheet
    exact ⟨rfl, by simp, hrow.wholePart?, hcol.wholePart?, hgrid,
      ⟨k, hkind.wholePart?, hk⟩, rfl, .inr ⟨_, s, rfl, hs, Text.sameLetters_refl _⟩⟩

/-- **Looking up an address gives the value of the cell that it is the address of,** and so does a
formula that does both, whatever formulas the arguments are the values of. -/
theorem indirect_address (hwb : wb.Reachable) (h : wb.Asks home args target) :
    (∃ text, addressOf args = .ok (.text text) ∧
      indirectly ⟨wb.source, home⟩ [.text text] = .ok (.ofValue (wb.value target))) ∧
    ∀ es : List Expr, es.map (wb.evaluate home) = args.map .ok →
      wb.evaluate home (.call "INDIRECT" [.call "ADDRESS" es]) =
        .ok (.ofValue (wb.value target)) := by
  obtain ⟨text, htext, hvalue⟩ := h.indirectly_eq hwb
  refine ⟨⟨text, htext, hvalue⟩, fun es hes => ?_⟩
  have hlength : es.length = args.length := by
    have := congrArg List.length hes
    rwa [List.length_map, List.length_map] at this
  have haddress : wb.evaluate home (.call "ADDRESS" es) = .ok (.text text) := by
    refine (evaluate_call (f := .address) (by decide) ?_ rfl hes).trans htext
    exact checkCount_address "ADDRESS" (hlength ▸ h.two_le_length) (hlength ▸ h.few)
  have hinner : [Expr.call "ADDRESS" es].map (wb.evaluate home) = [Operand.text text].map .ok :=
    congrArg (fun outcome => [outcome]) haddress
  exact (evaluate_call (f := .indirect) (by decide) rfl rfl hinner).trans hvalue

/-- A sheet whose name needs quotes and holds one, and a letter that is not ASCII. -/
theorem indirect_address_quoted :
    let wb := ((Session.start {}).run [.addSheet "it's é! (1)",
      .setValue ⟨⟨1⟩, ⟨2, 1⟩⟩ (.text "x")]).workbook
    wb.Reachable ∧ wb.evaluate ⟨⟨0⟩, ⟨0, 0⟩⟩ (.call "INDIRECT" [.call "ADDRESS"
      [.number 3.0, .number 2.0, .number 4.0, .bool true, .text "it's é! (1)"]]) =
        .ok (.text "x") := by
  intro wb
  have hwb : wb.Reachable := ⟨_, _, rfl⟩
  have hthree : (3.0 : Float) = Float.ofNat 3 := by decide +kernel
  have htwo : (2.0 : Float) = Float.ofNat 2 := by decide +kernel
  have hfour : (4.0 : Float) = Float.ofNat 4 := by decide +kernel
  have hname : (wb.sheet? ⟨1⟩).map (·.name) = some "it's é! (1)" := by decide +kernel
  have hvalue : wb.value ⟨⟨1⟩, ⟨2, 1⟩⟩ = .text "x" := by decide +kernel
  have hasks : wb.Asks ⟨⟨0⟩, ⟨0, 0⟩⟩ ([.number (Float.ofNat 3), .number (Float.ofNat 2),
      .number (Float.ofNat 4), .bool true] ++ (some "it's é! (1)").toList.map .text)
      ⟨⟨1⟩, ⟨2, 1⟩⟩ :=
    asks_numbers (denotes_ofNat (by decide)) (denotes_ofNat (by decide))
      (denotes_ofNat (by decide)) (by decide) (by decide) (Option.map_eq_some_iff.mp hname)
  have hboth := indirect_address hwb hasks
  rw [hvalue] at hboth
  rw [hthree, htwo, hfour]
  refine ⟨hwb, hboth.2 _ ?_⟩
  simp only [List.map_cons, List.map_nil, Workbook.evaluate, Formula.evaluate, Option.toList_some,
    List.cons_append, List.nil_append]

end Workbook

end Spreadsheet
