namespace OpcodeTrace

variable {Error Value Other : Type} {result : Except Error Value}

theorem exists_of_map_eq_ok {change : Value → Other} {changed : Other}
    (succeeds : result.map change = .ok changed) :
    ∃ value, result = .ok value ∧ changed = change value := by
  cases result with
  | ok value => exact ⟨value, rfl, (Except.ok.inj succeeds).symm⟩
  | error problem => cases succeeds

theorem exists_of_bind_eq_ok {next : Value → Except Error Other} {last : Other}
    (succeeds : result.bind next = .ok last) :
    ∃ value, result = .ok value ∧ next value = .ok last := by
  cases result with
  | ok value => exact ⟨value, rfl, succeeds⟩
  | error problem => cases succeeds

end OpcodeTrace
