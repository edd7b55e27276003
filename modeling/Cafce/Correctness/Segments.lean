import Cafce.Model.Setting

/-! Expansion of a text in segments: where no segment leaves a reference open, the text
expands segment by segment, and its first error is that of its first failing segment.
-/

namespace Cafce

open DelimitedTemplate Fallible

/-- A text that leaves no reference open: it has no unclosed tail and no `$` at its end. -/
structure Closed (text : String) : Prop where
  terminated : (templateOf text).tail = none
  ends : ¬ ['$'] <:+ text.toList

/-- A closed text and what follows it expand one after the other. -/
theorem expandEnvVars_append {var : Variables} {left : String} (closed : Closed left)
    (right : String)
    : expandEnvVars var (left ++ right)
      = (do
          let before ← expandEnvVars var left
          let after ← expandEnvVars var right
          return before ++ after) := by
  have pieces : (templateOf (left ++ right)).toPieces
      = (templateOf right).join (templateOf left).head (templateOf left).refs := by
    change parse references (left ++ right).toList = _
    rw [String.toList_append]
    exact parse_append rfl closed.terminated fun seam => closed.ends seam.1
  have leftPieces : (templateOf left).toPieces
      = ⟨(templateOf left).head, (templateOf left).refs, none⟩ := by
    rw [← closed.terminated]
  rw [expandEnvVars_eq, expandEnvVars_eq, expandEnvVars_eq, pieces, Pieces.eval_join,
    leftPieces]
  cases Pieces.eval (charEnv var) ⟨(templateOf left).head, (templateOf left).refs, none⟩ with
  | error failure => rfl
  | ok before =>
      cases (templateOf right).eval (charEnv var) with
      | error failure => rfl
      | ok after => exact congrArg Except.ok String.ofList_append

/-- Closed segments expand one by one, whatever the environment: the values are joined in
order, and the first segment that fails decides the error. Witness: induction on the
segments, each split off the text that follows.
-/
theorem expandEnvVars_join (var : Variables) {segments : List String}
    (closed : ∀ segment ∈ segments, Closed segment)
    : expandEnvVars var (String.join segments)
      = (segments.mapM (expandEnvVars var)).map String.join := by
  induction segments with
  | nil => exact expandEnvVars_of_free (by decide)
  | cons segment segments ih =>
      obtain ⟨here, later⟩ := List.forall_mem_cons.mp closed
      rw [String.join_cons, expandEnvVars_append here, ih later, List.mapM_cons]
      cases expandEnvVars var segment with
      | error error => rfl
      | ok before =>
          cases segments.mapM (expandEnvVars var) with
          | error error => rfl
          | ok after => exact congrArg Except.ok String.join_cons.symm

/-- A reference with a literal after it, and a literal. -/
theorem expandEnvVars_join_branch
    : expandEnvVars (fun _ => some "main") (String.join ["$\x7bBRANCH\x7d-", "v1"])
      = (["$\x7bBRANCH\x7d-", "v1"].mapM (expandEnvVars fun _ => some "main")).map
          String.join := by
  apply expandEnvVars_join
  refine List.forall_mem_cons.mpr ⟨⟨?_, by decide⟩, List.forall_mem_singleton.mpr ⟨?_, ?_⟩⟩
  · have wellFormed : Pieces.WellFormed references
        ⟨[], [("BRANCH".toList, ['-'])], none⟩ :=
      ⟨by decide, by decide, by decide, by simp⟩
    exact congrArg Pieces.tail (parse_render wellFormed)
  · rw [templateOf_of_free (by decide)]
  · decide

end Cafce
