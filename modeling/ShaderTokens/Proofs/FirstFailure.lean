import Mathlib.Data.List.Forall2

/-!
# First failures

What is checked or made one after another succeeds if it does for every element.  Otherwise the
failure is that of one of the elements.
-/

namespace ShaderTokens

variable {Element Result Error : Type} {elements : List Element}

section Checks

variable {check : Element → Except Error Unit}

theorem forM_eq_ok_iff :
    elements.forM check = .ok () ↔ ∀ element ∈ elements, check element = .ok () := by
  induction elements with
  | nil => exact iff_of_true rfl (List.forall_mem_nil _)
  | cons first others ih =>
      rw [List.forall_mem_cons, ← ih]
      change (check first >>= fun _ => others.forM check) = _ ↔ _
      cases hfirst : check first with
      | error error => simp [bind, Except.bind]
      | ok => simp [bind, Except.bind]

theorem exists_of_forM_eq_error {error : Error} (h : elements.forM check = .error error) :
    ∃ element ∈ elements, check element = .error error := by
  induction elements with
  | nil => contradiction
  | cons first others ih =>
      change (check first >>= fun _ => others.forM check) = _ at h
      cases hfirst : check first with
      | error found =>
          rw [hfirst] at h
          exact ⟨first, List.mem_cons_self, hfirst.trans h⟩
      | ok =>
          rw [hfirst] at h
          obtain ⟨element, helement, herror⟩ := ih h
          exact ⟨element, List.mem_cons_of_mem _ helement, herror⟩

end Checks

section Results

variable {make : Element → Except Error Result}

theorem mapM_eq_ok_iff_forall₂ {results : List Result} :
    elements.mapM make = .ok results ↔
      List.Forall₂ (fun element result => make element = .ok result) elements results := by
  induction elements generalizing results with
  | nil => simp [pure, Except.pure, eq_comm]
  | cons first others ih =>
      rw [List.mapM_cons, List.forall₂_cons_left_iff]
      simp only [← ih]
      cases hfirst : make first with
      | error error => simp [bind, Except.bind]
      | ok made =>
          cases hothers : others.mapM make with
          | error error => simp [bind, Except.bind]
          | ok rest => simp [bind, Except.bind, pure, Except.pure, eq_comm]

theorem exists_of_mem_of_mapM_eq_ok {results : List Result} (h : elements.mapM make = .ok results)
    {result : Result} (hmem : result ∈ results) :
    ∃ element ∈ elements, make element = .ok result := by
  rw [mapM_eq_ok_iff_forall₂] at h
  induction h with
  | nil => simp at hmem
  | @cons first made others rest hfirst _ ih =>
      rcases List.mem_cons.mp hmem with rfl | hmem
      · exact ⟨first, List.mem_cons_self, hfirst⟩
      · obtain ⟨element, helement, hmake⟩ := ih hmem
        exact ⟨element, List.mem_cons_of_mem _ helement, hmake⟩

theorem exists_of_mapM_eq_error {error : Error} (h : elements.mapM make = .error error) :
    ∃ element ∈ elements, make element = .error error := by
  induction elements with
  | nil => contradiction
  | cons first others ih =>
      rw [List.mapM_cons] at h
      cases hfirst : make first with
      | error found =>
          rw [hfirst] at h
          cases h
          exact ⟨first, List.mem_cons_self, hfirst⟩
      | ok made =>
          cases hothers : others.mapM make with
          | error found =>
              rw [hfirst, hothers] at h
              cases h
              obtain ⟨element, helement, herror⟩ := ih hothers
              exact ⟨element, List.mem_cons_of_mem _ helement, herror⟩
          | ok rest =>
              rw [hfirst, hothers] at h
              contradiction

theorem exists_mapM_eq_ok (h : ∀ element ∈ elements, ∃ result, make element = .ok result) :
    ∃ results, elements.mapM make = .ok results := by
  cases hmade : elements.mapM make with
  | ok results => exact ⟨results, rfl⟩
  | error error =>
      obtain ⟨element, helement, herror⟩ := exists_of_mapM_eq_error hmade
      obtain ⟨result, hresult⟩ := h element helement
      rw [herror] at hresult
      contradiction

end Results

end ShaderTokens
