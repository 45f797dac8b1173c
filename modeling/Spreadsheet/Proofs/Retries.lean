/-
# Taking back once more

* A kept action holds what it replaced.  Of all commands only two change what it holds: taking it
  back lets go of it, and carrying it out again captures anew (`action_step_cases`).
* Taking back writes a block as any edit does.  So it is refused where the block cannot be written
  any more (`writeBlock_eq_ok_iff`), and then leaves the workbook alone; but what was held is let go
  of before the block is looked at.
* So after a refusal the action holds nothing, and later only what it captured when it was carried
  out again since then (`held_of_spent`).  Until then it is taken back without complaint and without
  effect, even if its block could be written again by now (`revert_after_refusal`).
-/
import Mathlib.Data.List.Induction
import Spreadsheet.Proofs.Undo

namespace Spreadsheet

open Grid Formula Conditional

namespace Workbook

variable {wb : Workbook} {sheet : SheetId} {block : Block}

/-! ## 1. Blocks that can be written -/

/-- **A block that can be written:** its range is on its sheet, it has an entry for each cell, and
each entry is accepted. -/
def Writable (wb : Workbook) (sheet : SheetId) (block : Block) : Prop :=
  ∃ s, wb.sheet sheet = .ok s ∧ s.checkRange block.range = .ok () ∧
    block.entries.length = block.range.size ∧
    ∀ ke ∈ (keysOf sheet block.range).zip block.entries, wb.accept ke.1 ke.2 = .ok ()

theorem writeBlock_eq_ok_iff (kind : ChangeKind) :
    (wb.writeBlock sheet block kind).answer = .ok () ↔ wb.Writable sheet block := by
  constructor
  · intro h
    obtain ⟨s, hs⟩ := exists_of_guard h
    have hrest := h
    unfold writeBlock at hrest
    rw [hs, Reply.guard_ok] at hrest
    obtain ⟨u, hcheck⟩ := exists_of_guard hrest
    obtain ⟨hlength, hplanned⟩ := (writeBlock_of_checkRange kind hs hcheck).1.mp h
    exact ⟨s, hs, hcheck, hlength, exists_planEntries_iff.mp hplanned⟩
  · rintro ⟨s, hs, hcheck, hlength, haccept⟩
    exact (writeBlock_of_checkRange kind hs hcheck).1.mpr
      ⟨hlength, exists_planEntries_iff.mpr haccept⟩

end Workbook

namespace Session

variable {s : Session} {n : Nat} {a : Action}

/-! ## 2. What a kept action holds -/

theorem step_revert (h : s.actions[n]? = some a) :
    s.step (.revert n) =
      ⟨{ s with workbook := (a.revert s.workbook).1.workbook,
                actions := s.actions.set n (a.revert s.workbook).2 },
        (a.revert s.workbook).1.answer.map fun _ => .acted (a.revert s.workbook).2.name,
        (a.revert s.workbook).1.events⟩ := by
  simp only [step, revert, h]
  rfl

theorem actions_step_apply (h : s.actions[n]? = some a) :
    (s.step (.apply n)).session.actions =
      (a.apply s.workbook).answer.toOption.elim s.actions (s.actions.set n) := by
  simp only [step, apply, h]

/-- **What a command does to a kept action:** nothing, unless it takes it back or carries it out
again. -/
theorem action_step_cases (h : s.actions[n]? = some a) (c : Command) :
    ∃ a', (s.step c).session.actions[n]? = some a' ∧
      (a' = a ∨ c = .revert n ∧ a' = { a with previous := none } ∨
        c = .apply n ∧ ∃ block, s.workbook.capture a.sheet a.block.range = .ok block ∧
          a' = { a with previous := some block }) := by
  have hlt : n < s.actions.length := (List.getElem?_eq_some_iff.mp h).1
  cases c with
  | perform sheet block kind =>
    refine ⟨a, ?_, .inl rfl⟩
    change (s.actions ++ _)[n]? = some a
    rw [List.getElem?_append_left hlt, h]
  | revert m =>
    by_cases hm : m = n
    · subst hm
      refine ⟨(a.revert s.workbook).2, ?_, ?_⟩
      · rw [step_revert h]
        exact List.getElem?_set_self hlt
      · unfold Action.revert
        split
        · exact .inl rfl
        · exact .inr (.inl ⟨rfl, rfl⟩)
    · refine ⟨a, ?_, .inl rfl⟩
      cases hb : s.actions[m]? with
      | none =>
        simp only [step, revert, hb]
        exact h
      | some b =>
        rw [step_revert hb]
        exact (List.getElem?_set_ne hm).trans h
  | apply m =>
    by_cases hm : m = n
    · subst hm
      rw [actions_step_apply h]
      cases hanswer : (a.apply s.workbook).answer with
      | error e => exact ⟨a, h, .inl rfl⟩
      | ok a' =>
        obtain ⟨block, hcapture, -, -, rfl⟩ := Workbook.exists_of_apply hanswer
        exact ⟨_, List.getElem?_set_self hlt, .inr (.inr ⟨rfl, block, hcapture, rfl⟩)⟩
    · refine ⟨a, ?_, .inl rfl⟩
      cases hb : s.actions[m]? with
      | none =>
        simp only [step, apply, hb]
        exact h
      | some b =>
        rw [actions_step_apply hb]
        cases (b.apply s.workbook).answer with
        | error e => exact h
        | ok b' => exact (List.getElem?_set_ne hm).trans h
  | _ => exact ⟨a, h, .inl rfl⟩

theorem run_append (s : Session) (commands later : List Command) :
    s.run (commands ++ later) = (s.run commands).run later := List.foldl_append

/-- **An action that holds nothing holds later what it captured since then,** when it was carried
out again, and nothing else.  The induction is on the commands, the last one taken off. -/
theorem held_of_spent (h : s.actions[n]? = some a) (hspent : a.previous = none)
    (commands : List Command) : ∃ previous,
      (s.run commands).actions[n]? = some { a with previous } ∧
        ∀ block, previous = some block → ∃ earlier later,
          commands = earlier ++ .apply n :: later ∧
            (s.run earlier).workbook.capture a.sheet a.block.range = .ok block := by
  induction commands using List.reverseRecOn with
  | nil => exact ⟨none, by rw [← hspent]; exact h, nofun⟩
  | append_singleton commands c ih =>
    obtain ⟨previous, hheld, hcaptured⟩ := ih
    rw [run_append]
    obtain ⟨a', ha', hcases⟩ := action_step_cases hheld c
    rcases hcases with rfl | ⟨rfl, rfl⟩ | ⟨rfl, block, hcapture, rfl⟩
    · refine ⟨previous, ha', fun block hblock => ?_⟩
      obtain ⟨earlier, later, rfl, hcapture⟩ := hcaptured block hblock
      exact ⟨earlier, later ++ [c], by simp, hcapture⟩
    · exact ⟨none, ha', nofun⟩
    · refine ⟨some block, ha', ?_⟩
      rintro _ ⟨⟩
      exact ⟨commands, [], rfl, hcapture⟩

/-! ## 3. Refusals -/

/-- **Taking back is refused only if the block cannot be written,** and then leaves all alone but
what the action held. -/
theorem of_revert_refused {e : Error} (h : (s.step (.revert n)).answer = .error e) :
    ∃ a previous, s.actions[n]? = some a ∧ a.previous = some previous ∧
      ¬ s.workbook.Writable a.sheet previous ∧
      (s.step (.revert n)).session =
        { s with actions := s.actions.set n { a with previous := none } } := by
  cases hn : s.actions[n]? with
  | none =>
    simp only [step, revert, hn] at h
    cases h
  | some a =>
    rw [step_revert hn] at h ⊢
    have hharmless := Workbook.harmless_revert a s.workbook
    cases hheld : a.previous with
    | none =>
      rw [Action.revert, hheld] at h
      cases h
    | some previous =>
      have hrevert : a.revert s.workbook =
          (s.workbook.writeBlock a.sheet previous a.kind, { a with previous := none }) := by
        rw [Action.revert, hheld]
      rw [hrevert] at h hharmless ⊢
      cases hanswer : (s.workbook.writeBlock a.sheet previous a.kind).answer with
      | ok u =>
        rw [hanswer] at h
        cases h
      | error e' =>
        refine ⟨a, previous, rfl, hheld, fun hwritable => ?_, ?_⟩
        · rw [(Workbook.writeBlock_eq_ok_iff a.kind).mpr hwritable] at hanswer
          cases hanswer
        · rw [hharmless.workbook_eq hanswer]

/-- An action that holds nothing is taken back without effect. -/
theorem step_revert_of_spent (h : s.actions[n]? = some a) (hspent : a.previous = none) :
    s.step (.revert n) = ⟨s, .ok (.acted a.name), []⟩ := by
  have hset : s.actions.set n a = s.actions := by
    obtain ⟨hlt, hget⟩ := List.getElem?_eq_some_iff.mp h
    rw [← hget, List.set_getElem_self]
  have hrevert : a.revert s.workbook = (.keep s.workbook (.ok ()), a) := by
    rw [Action.revert, hspent]
  rw [step_revert h, hrevert, hset]
  rfl

/-- **After a refusal all is as it was, but the action holds nothing any more.**  Later it holds
only what it captured when it was carried out again since then; unless that was asked for, it is
taken back without complaint and without effect. -/
theorem revert_after_refusal {e : Error} (h : (s.step (.revert n)).answer = .error e) :
    ∃ a previous, s.actions[n]? = some a ∧ a.previous = some previous ∧
      ¬ s.workbook.Writable a.sheet previous ∧
      let refused := (s.step (.revert n)).session
      refused = { s with actions := s.actions.set n { a with previous := none } } ∧
        ∀ commands,
          (∀ a' block, (refused.run commands).actions[n]? = some a' → a'.previous = some block →
            ∃ earlier later, commands = earlier ++ .apply n :: later ∧
              (refused.run earlier).workbook.capture a.sheet a.block.range = .ok block) ∧
          (Command.apply n ∉ commands → (refused.run commands).step (.revert n) =
            ⟨refused.run commands, .ok (.acted a.name), []⟩) := by
  obtain ⟨a, previous, ha, hheld, hnot, hsession⟩ := of_revert_refused h
  have hlt := (List.getElem?_eq_some_iff.mp ha).1
  refine ⟨a, previous, ha, hheld, hnot, hsession, fun commands => ?_⟩
  have hkept : (s.step (.revert n)).session.actions[n]? = some { a with previous := none } := by
    rw [hsession]
    exact List.getElem?_set_self hlt
  obtain ⟨later, hlater, hcaptured⟩ := held_of_spent hkept rfl commands
  refine ⟨fun a' block ha' hblock => ?_, fun hnever => ?_⟩
  · obtain rfl := Option.some.inj (hlater.symm.trans ha')
    exact hcaptured block hblock
  · cases later with
    | none => exact step_revert_of_spent (a := { a with previous := none }) hlater rfl
    | some block =>
      obtain ⟨before, after, rfl, -⟩ := hcaptured block rfl
      exact absurd (List.mem_append_right before List.mem_cons_self) hnever

/-- A formula that reads another sheet was replaced, and the sheet became too small for it. -/
theorem revert_after_refusal_small :
    let s := (Session.start {}).run [.addSheetSized "Data" 5 5, .setFormula ⟨⟨0⟩, ⟨0, 0⟩⟩ "=Data!A2",
      .perform ⟨0⟩ ⟨.single ⟨0, 0⟩, [.value (.text "y")]⟩ .data, .resetSheet ⟨1⟩ 1 1]
    ∃ e, (s.step (.revert 0)).answer = .error e ∧
      let later := (s.step (.revert 0)).session.run [.resetSheet ⟨1⟩ 5 5]
      ∃ name, later.step (.revert 0) = ⟨later, .ok (.acted name), []⟩ := by
  intro s
  have hrefused : (s.step (.revert 0)).answer.isOk = false := by decide +kernel
  cases hanswer : (s.step (.revert 0)).answer with
  | ok a =>
    rw [hanswer] at hrefused
    cases hrefused
  | error e =>
    obtain ⟨a, -, -, -, -, -, hrun⟩ := revert_after_refusal hanswer
    exact ⟨e, rfl, a.name, (hrun _).2 (by simp)⟩

/-- **What was replaced is lost by the refusal.**  The sheet is made large enough again, so that the
formula could be written back; but it is not, and nobody is told. -/
theorem replaced_lost_by_refusal :
    let home : Key := ⟨⟨0⟩, ⟨0, 0⟩⟩
    let s := (Session.start {}).run [.addSheetSized "Data" 5 5, .setFormula home "=Data!A2",
      .perform ⟨0⟩ ⟨.single ⟨0, 0⟩, [.value (.text "y")]⟩ .data, .resetSheet ⟨1⟩ 1 1]
    let later := (s.step (.revert 0)).session.run [.resetSheet ⟨1⟩ 5 5]
    ∃ a previous, s.actions[0]? = some a ∧ a.previous = some previous ∧
      (s.step (.revert 0)).answer.isOk = false ∧
      later.workbook.Writable ⟨0⟩ previous ∧
      (later.step (.revert 0)).answer.isOk = true ∧
      (later.step (.revert 0)).session.workbook.value home = .text "y" ∧
      ¬ ∃ a', (s.step (.revert 0)).session.actions[0]? = some a' ∧ a'.previous = some previous := by
  intro home s later
  have hfacts : ((s.actions[0]?).bind (·.previous)).any (fun previous =>
        (later.workbook.writeBlock ⟨0⟩ previous .data).answer.isOk) = true ∧
      (s.step (.revert 0)).answer.isOk = false ∧
      (later.step (.revert 0)).answer.isOk = true ∧
      (later.step (.revert 0)).session.workbook.value home = .text "y" ∧
      (((s.step (.revert 0)).session.actions[0]?).bind (·.previous)).isNone = true := by
    decide +kernel
  obtain ⟨hheld, hrefused, hanswered, hvalue, hnone⟩ := hfacts
  cases hprevious : (s.actions[0]?).bind (·.previous) with
  | none =>
    rw [hprevious] at hheld
    cases hheld
  | some previous =>
    obtain ⟨a, ha, haheld⟩ := Option.bind_eq_some_iff.mp hprevious
    rw [hprevious, Option.any_some] at hheld
    have hwritable := (Workbook.writeBlock_eq_ok_iff .data).mp (eq_ok_of_isOk hheld)
    refine ⟨a, previous, ha, haheld, hrefused, hwritable, hanswered, hvalue, ?_⟩
    rintro ⟨a', ha', hstill⟩
    rw [ha', Option.bind_some, hstill] at hnone
    cases hnone

end Session

end Spreadsheet
