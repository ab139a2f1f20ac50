/-!
# `SchemaModel.FirstMatch` — changing the first element with a property

## Contents
- `modifyFirst p change xs`: the list with its first element that satisfies `p` changed.
- It changes nothing when there is no such element (`modifyFirst_of_find?_none`) or no change
  (`modifyFirst_id`), and is the identity on any view that the change keeps (`map_modifyFirst`). What
  it leaves is old or changed (`mem_modifyFirst`) and stands where it stood
  (`getElem?_modifyFirst`). Where at most one element has the property, it changes that one wherever
  it stands (`modifyFirst_eq_map`); where there is one, it stands behind elements without it
  (`modifyFirst_of_find?_some`), and a second change meets it again (`modifyFirst_modifyFirst`).
- An element that alone has a property is what is found (`find?_of_unique`), and all that is kept
  (`filter_eq_toList_find?`). A change that keeps the property is seen by a search for it
  (`find?_modifyFirst`) and not by a search for elements without it (`find?_modifyFirst_of_not`).
- Looking up and changing commute with a view of the elements under which the property reads the
  same (`find?_map_of_mem`, `modifyFirst_map`).
-/

namespace SchemaModel

/-- Applies a change to the first element with a property. -/
def modifyFirst {α : Type} (p : α → Bool) (change : α → α) : List α → List α
  | [] => []
  | x :: rest => if p x then change x :: rest else x :: modifyFirst p change rest

theorem modifyFirst_of_find?_none {α : Type} {p : α → Bool} {change : α → α} {xs : List α}
    (h : xs.find? p = none) : modifyFirst p change xs = xs := by
  induction xs with
  | nil => rfl
  | cons x rest ih =>
    by_cases hx : p x
    · simp [hx] at h
    · simp only [List.find?_cons, hx] at h
      simp [modifyFirst, hx, ih h]

theorem modifyFirst_id {α : Type} (p : α → Bool) (xs : List α) :
    modifyFirst p (fun x => x) xs = xs := by
  induction xs with
  | nil => rfl
  | cons x rest ih =>
    unfold modifyFirst
    rw [ih, ite_self]

theorem modifyFirst_modifyFirst {α : Type} {p : α → Bool} {first second : α → α}
    (h : ∀ x, p (first x) = p x) (xs : List α) :
    modifyFirst p second (modifyFirst p first xs) = modifyFirst p (fun x => second (first x)) xs := by
  induction xs with
  | nil => rfl
  | cons x rest ih => by_cases hx : p x <;> simp [modifyFirst, hx, h, ih]

/-- The one element that is changed stands behind those without the property. -/
theorem modifyFirst_of_find?_some {α : Type} {p : α → Bool} (change : α → α) {xs : List α} {x : α}
    (h : xs.find? p = some x) :
    ∃ before after, xs = before ++ x :: after ∧ (∀ y ∈ before, p y = false) ∧
      modifyFirst p change xs = before ++ change x :: after := by
  induction xs with
  | nil => cases h
  | cons first rest ih =>
    rw [List.find?_cons] at h
    cases hp : p first with
    | true =>
      rw [hp] at h
      cases h
      refine ⟨[], rest, rfl, nofun, ?_⟩
      rw [modifyFirst, if_pos hp]
      rfl
    | false =>
      rw [hp] at h
      obtain ⟨before, after, hsplit, hbefore, hmodified⟩ := ih h
      refine ⟨first :: before, after, ?_, List.forall_mem_cons.2 ⟨hp, hbefore⟩, ?_⟩
      · rw [hsplit, List.cons_append]
      · rw [modifyFirst, hp, if_neg Bool.false_ne_true, hmodified, List.cons_append]

/-- The only element with a property is found wherever it stands. -/
theorem find?_of_unique {α : Type} {p : α → Bool} {xs : List α} {x : α} (hx : x ∈ xs)
    (hp : p x = true) (hunique : ∀ y ∈ xs, p y = true → y = x) : xs.find? p = some x := by
  have hsome : (xs.find? p).isSome = true := List.find?_isSome.2 ⟨x, hx, hp⟩
  obtain ⟨y, hy⟩ := Option.isSome_iff_exists.1 hsome
  rw [hy, hunique y (List.mem_of_find?_eq_some hy) (List.find?_some hy)]

/-- Where one element at most has a property, the first one is all that is kept. -/
theorem filter_eq_toList_find? {α : Type} {p : α → Bool} {xs : List α}
    (h : xs.Pairwise fun a b => p a = true → p b = false) : xs.filter p = (xs.find? p).toList := by
  induction xs with
  | nil => rfl
  | cons x rest ih =>
    obtain ⟨hfirst, hrest⟩ := List.pairwise_cons.1 h
    cases hx : p x with
    | true =>
      have hnone : rest.filter p = [] := by
        rw [List.filter_eq_nil_iff]
        intro y hy hpy
        rw [hfirst y hy hx] at hpy
        cases hpy
      rw [List.filter_cons_of_pos hx, List.find?_cons_of_pos hx, hnone]
      rfl
    | false =>
      have hneg : ¬p x = true := by
        rw [hx]
        exact Bool.false_ne_true
      rw [List.filter_cons_of_neg hneg, List.find?_cons_of_neg hneg, ih hrest]

theorem mem_modifyFirst {α : Type} {p : α → Bool} {change : α → α} {xs : List α} {y : α}
    (h : y ∈ modifyFirst p change xs) : y ∈ xs ∨ ∃ x ∈ xs, y = change x := by
  induction xs with
  | nil => cases h
  | cons x rest ih =>
    unfold modifyFirst at h
    split at h
    · rcases List.mem_cons.1 h with rfl | hy
      · exact .inr ⟨x, List.mem_cons_self, rfl⟩
      · exact .inl (List.mem_cons_of_mem x hy)
    · rcases List.mem_cons.1 h with rfl | hy
      · exact .inl List.mem_cons_self
      · rcases ih hy with hrest | ⟨z, hz, rfl⟩
        · exact .inl (List.mem_cons_of_mem x hrest)
        · exact .inr ⟨z, List.mem_cons_of_mem x hz, rfl⟩

theorem getElem?_modifyFirst {α : Type} {p : α → Bool} {change : α → α} {xs : List α} {i : Nat}
    {x : α} (h : xs[i]? = some x) :
    (modifyFirst p change xs)[i]? = some x ∨ (modifyFirst p change xs)[i]? = some (change x) := by
  induction xs generalizing i with
  | nil => cases h
  | cons first rest ih =>
    unfold modifyFirst
    by_cases hp : p first
    · rw [if_pos hp]
      cases i with
      | zero =>
        cases h
        exact .inr rfl
      | succ i => exact .inl h
    · rw [if_neg hp]
      cases i with
      | zero => exact .inl h
      | succ i => exact ih h

theorem map_modifyFirst {α β : Type} (p : α → Bool) (change : α → α) (view : α → β)
    (h : ∀ x, view (change x) = view x) (xs : List α) :
    (modifyFirst p change xs).map view = xs.map view := by
  induction xs with
  | nil => rfl
  | cons x rest ih => by_cases hx : p x <;> simp [modifyFirst, hx, h, ih]

/-- The first element with the property is found with its change, where it keeps the property. -/
theorem find?_modifyFirst {α : Type} {p : α → Bool} {change : α → α}
    (h : ∀ x, p (change x) = p x) (xs : List α) :
    (modifyFirst p change xs).find? p = (xs.find? p).map change := by
  induction xs with
  | nil => rfl
  | cons x rest ih => by_cases hx : p x <;> simp [modifyFirst, hx, h, ih]

/-- Elements without the property are found as before, where the change makes none of them. -/
theorem find?_modifyFirst_of_not {α : Type} {p q : α → Bool} {change : α → α}
    (hpq : ∀ x, p x = true → q x = false) (h : ∀ x, q (change x) = q x) (xs : List α) :
    (modifyFirst p change xs).find? q = xs.find? q := by
  induction xs with
  | nil => rfl
  | cons x rest ih =>
    by_cases hx : p x
    · simp [modifyFirst, hx, h, hpq x hx]
    · simp [modifyFirst, hx, List.find?_cons, ih]

theorem modifyFirst_eq_map {α : Type} {p : α → Bool} {change : α → α} {xs : List α}
    (h : xs.Pairwise fun a b => p a = true → p b = false) :
    modifyFirst p change xs = xs.map fun x => if p x then change x else x := by
  induction xs with
  | nil => rfl
  | cons x rest ih =>
      rw [List.pairwise_cons] at h
      by_cases hx : p x
      · have hrest : rest.map (fun y => if p y then change y else y) = rest := by
          rw [List.map_congr_left (g := id)]
          · exact List.map_id rest
          · intro y hy
            simp [h.1 y hy hx]
        simp [modifyFirst, hx, hrest]
      · simp [modifyFirst, hx, ih h.2]

theorem find?_map_of_mem {α β : Type} {p : α → Bool} {q : β → Bool} {view : α → β} {xs : List α}
    (h : ∀ x ∈ xs, q (view x) = p x) : (xs.map view).find? q = (xs.find? p).map view := by
  induction xs with
  | nil => rfl
  | cons x rest ih =>
      have hx := h x List.mem_cons_self
      rw [List.map_cons, List.find?_cons, List.find?_cons, hx]
      cases p x with
      | true => rfl
      | false => exact ih fun y hy => h y (List.mem_cons_of_mem x hy)

theorem modifyFirst_map {α β : Type} {p : α → Bool} {q : β → Bool} {change : α → α}
    {change' : β → β} {view : α → β} {xs : List α} (h : ∀ x ∈ xs, q (view x) = p x)
    (hchange : ∀ x ∈ xs, p x = true → change' (view x) = view (change x)) :
    modifyFirst q change' (xs.map view) = (modifyFirst p change xs).map view := by
  induction xs with
  | nil => rfl
  | cons x rest ih =>
      have hrest := ih (fun y hy => h y (List.mem_cons_of_mem x hy))
        fun y hy => hchange y (List.mem_cons_of_mem x hy)
      rw [List.map_cons]
      unfold modifyFirst
      rw [h x List.mem_cons_self, hrest]
      cases hx : p x with
      | true => exact congrArg (· :: rest.map view) (hchange x List.mem_cons_self hx)
      | false => rfl

end SchemaModel
