/-
# Checks that passed

What is checked comes out as a result or as a fault.  This module has what holds of all such
outcomes: which of them a result came from, and what a list of checks answers.
-/
import Mathlib.Algebra.Ring.Nat

namespace Spreadsheet

variable {ε α β : Type}

/-! ## 1. One check -/

theorem eq_ok_of_isOk {x : Except ε Unit} (h : x.isOk = true) : x = .ok () := by
  cases x with
  | error fault => cases h
  | ok u => rfl

theorem exists_of_any {x : Except ε α} {p : α → Bool} (h : x.toOption.any p = true) :
    ∃ a, x = .ok a ∧ p a = true := by
  cases x with
  | error fault => cases h
  | ok a => exact ⟨a, rfl, h⟩

theorem map_ok (f : α → β) (a : α) : (Except.ok a : Except ε α).map f = .ok (f a) := rfl

theorem ok_bind (f : α → Except ε β) (a : α) : (Except.ok a >>= f) = f a := rfl

theorem map_eq_ok_iff {x : Except ε α} {f : α → β} {b : β} :
    x.map f = .ok b ↔ ∃ a, x = .ok a ∧ f a = b := by
  cases x <;> simp [Except.map]

theorem mapError_eq_ok_iff {ε' : Type} {x : Except ε α} {f : ε → ε'} {a : α} :
    x.mapError f = .ok a ↔ x = .ok a := by
  cases x with
  | error e => exact ⟨nofun, nofun⟩
  | ok b => exact ⟨fun h => congrArg _ (Except.ok.inj h), fun h => congrArg _ (Except.ok.inj h)⟩

theorem bind_eq_ok_iff {x : Except ε α} {f : α → Except ε β} {b : β} :
    x >>= f = .ok b ↔ ∃ a, x = .ok a ∧ f a = .ok b := by
  cases x <;> simp [bind, Except.bind]

/-! ## 2. Lists of checks -/

/-- **What a list of checks answers, one of them answered,** and the other way round. -/
theorem mem_mapM_iff {f : α → Except ε β} {y : β} : ∀ {xs : List α} {ys : List β},
    xs.mapM f = .ok ys → (y ∈ ys ↔ ∃ x ∈ xs, f x = .ok y)
  | [], ys, h => by
    obtain rfl : [] = ys := by simpa [pure, Except.pure] using h
    simp
  | x :: xs, ys, h => by
    rw [List.mapM_cons] at h
    obtain ⟨z, hz, h⟩ := bind_eq_ok_iff.mp h
    obtain ⟨zs, hzs, h⟩ := bind_eq_ok_iff.mp h
    obtain rfl : z :: zs = ys := by simpa [pure, Except.pure] using h
    rw [List.mem_cons, mem_mapM_iff hzs]
    constructor
    · rintro (rfl | ⟨x', hx', hy⟩)
      · exact ⟨x, List.mem_cons_self, hz⟩
      · exact ⟨x', List.mem_cons_of_mem _ hx', hy⟩
    · rintro ⟨x', hx', hy⟩
      rcases List.mem_cons.mp hx' with rfl | hx'
      · exact .inl (Except.ok.inj (hy.symm.trans hz))
      · exact .inr ⟨x', hx', hy⟩

/-- Checks that all pass have a list of answers. -/
theorem exists_mapM_eq_ok {f : α → Except ε β} : ∀ {xs : List α}, (∀ x ∈ xs, ∃ y, f x = .ok y) →
    ∃ ys, xs.mapM f = .ok ys
  | [], _ => ⟨[], rfl⟩
  | x :: xs, h => by
    obtain ⟨y, hy⟩ := h x List.mem_cons_self
    obtain ⟨ys, hys⟩ := exists_mapM_eq_ok fun x' hx' => h x' (List.mem_cons_of_mem _ hx')
    exact ⟨y :: ys, by rw [List.mapM_cons, hy, hys]; rfl⟩

/-- Lists that are collected, one for each element, are as long together as each of them says. -/
theorem length_flatten_of_mapM {f : α → Except ε (List β)} {count : α → Nat}
    (hf : ∀ {x : α} {ys : List β}, f x = .ok ys → ys.length = count x) :
    ∀ {xs : List α} {yss : List (List β)}, xs.mapM f = .ok yss →
      yss.flatten.length = (xs.map count).sum
  | [], yss, h => by
    obtain rfl : [] = yss := by simpa [pure, Except.pure] using h
    rfl
  | x :: xs, yss, h => by
    rw [List.mapM_cons] at h
    obtain ⟨ys, hys, h⟩ := bind_eq_ok_iff.mp h
    obtain ⟨more, hmore, h⟩ := bind_eq_ok_iff.mp h
    obtain rfl : ys :: more = yss := by simpa [pure, Except.pure] using h
    rw [List.flatten_cons, List.length_append, hf hys, length_flatten_of_mapM hf hmore,
      List.map_cons, List.sum_cons]

end Spreadsheet
