import CssMinifier.Log

/-! What recording does: the messages become records of one handler if the level lets them
through, and the handler is there afterwards.
-/

namespace CssMinifier.Log

/-- The handler that records go to from now on, if anything is recorded. -/
def recorder (log : Log) : Handler :=
  log.handler.getD .bare

theorem writes_record (log : Log) (messages : List String)
    : (log.record messages).2
      = if log.level ≤ info then messages.map (.record log.recorder) else [] := by
  rw [record]
  split
  · next none => simp [none]
  · rfl

theorem isRecord_of_record {log : Log} {messages : List String} {write : Write}
    (h : write ∈ (log.record messages).2)
    : write.isRecord = true := by
  rw [writes_record] at h
  split at h
  · obtain ⟨message, _, rfl⟩ := List.mem_map.mp h
    rfl
  · cases h

/-- Recording prints nothing. -/
theorem prints_record (log : Log) (messages : List String)
    : (log.record messages).2.filter (!·.isRecord) = [] := by
  rw [List.filter_eq_nil_iff]
  intro write member
  simp [isRecord_of_record member]

end CssMinifier.Log
