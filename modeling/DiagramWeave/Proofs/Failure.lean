/-!
# Steps that can fail

A sequence of steps comes to a result when each of them does.
-/
namespace DiagramWeave

variable {ε α β : Type}

theorem bind_eq_ok {first : Except ε α} {next : α → Except ε β} {result : β} :
    first >>= next = .ok result ↔ ∃ value, first = .ok value ∧ next value = .ok result := by
  cases first <;> simp [bind, Except.bind]

theorem map_eq_ok {first : Except ε α} {f : α → β} {result : β} :
    first.map f = .ok result ↔ ∃ value, result = f value ∧ first = .ok value := by
  cases first <;> simp [Except.map, eq_comm]

theorem eq_of_mapError_eq_ok {first : Except ε α} {f : ε → β} {result : α} (fine : first.mapError f = .ok result) :
    first = .ok result := by
  cases first with
  | ok value =>
    cases fine
    rfl
  | error fault => cases fine

/-- Whatever steps over a list came to is the result of one of them. -/
theorem exists_of_mem_mapM {f : α → Except ε β} {items : List α} {results : List β}
    (fine : items.mapM f = .ok results) : ∀ result ∈ results, ∃ item ∈ items, f item = .ok result := by
  induction items generalizing results with
  | nil =>
    cases fine
    nofun
  | cons item items ih =>
    rw [List.mapM_cons, bind_eq_ok] at fine
    obtain ⟨first, here, fine⟩ := fine
    obtain ⟨rest, others, same⟩ := bind_eq_ok.1 fine
    cases same
    intro result member
    rcases List.mem_cons.1 member with rfl | member
    · exact ⟨item, List.mem_cons_self, here⟩
    · obtain ⟨origin, place, made⟩ := ih others result member
      exact ⟨origin, List.mem_cons_of_mem _ place, made⟩

end DiagramWeave
