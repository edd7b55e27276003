import Cafce.Correctness.Configuration

/-! Expanded texts read as configuration texts again: what keeps an inserted value from opening
a reference together with the text around it.
-/

namespace Cafce

open DelimitedTemplate

/-- The value can stand between any texts without opening a reference. -/
structure Pasteable (value : String) : Prop where
  nonempty : value ≠ ""
  lacks_dollar : '$' ∉ value.toList
  head_ne : value.toList.head? ≠ some '\x7b'

theorem Pasteable.inert {value : String} (pasteable : Pasteable value)
    : Inert '$' '\x7b' value.toList where
  nonempty := fun empty => pasteable.nonempty (String.toList_eq_nil_iff.mp empty)
  lacks_first := pasteable.lacks_dollar
  head_ne := pasteable.head_ne

/-- An expansion that succeeds inserts the value of every reference of the text. -/
theorem expandEnvVars_eq_ok_iff {var : Variables} {s t : String}
    : expandEnvVars var s = .ok t
      ↔ (∀ name ∈ (templateOf s).names, (var (String.ofList name)).isSome)
        ∧ (templateOf s).tail = none
        ∧ t.toList = (templateOf s).substitute (valueOf var) := by
  have defined (name : List Char)
      : (charEnv var name).isSome = (var (String.ofList name)).isSome := by
    simp [charEnv]
  have evaluated : expandEnvVars var s = .ok t
      ↔ (templateOf s).eval (charEnv var) = .ok t.toList := by
    rw [expandEnvVars_eq]
    cases (templateOf s).eval (charEnv var) with
    | error failure => simp
    | ok text => simp [← String.toList_inj]
  rw [evaluated, Pieces.eval_eq_ok_iff, charEnv_getD]
  simp only [defined]

/-- Where every inserted value is nonempty, without a `$` and not led by a `{`, no reference is
left in the expanded text, so any environment expands it to itself.
Witness: a reference would lie inside a literal or a value, or across one of their seams.
-/
theorem expandEnvVars_reexpands {var : Variables} {s t : String}
    (expanded : expandEnvVars var s = .ok t)
    (pasteable : ∀ name value, RefersTo s name → var name = some value → Pasteable value)
    : ¬ "$\x7b".toList <:+: t.toList ∧ ∀ other, expandEnvVars other t = .ok t := by
  obtain ⟨defined, _, substituted⟩ := expandEnvVars_eq_ok_iff.mp expanded
  have inert : ∀ name ∈ (templateOf s).names, Inert '$' '\x7b' (valueOf var name) := by
    intro name member
    obtain ⟨value, found⟩ := Option.isSome_iff_exists.mp (defined name member)
    have inserted := pasteable _ value (refersTo_of_mem member) found
    simpa [valueOf, found] using inserted.inert
  have free : ¬ references.opening <:+: t.toList := by
    rw [substituted]
    exact (templateOf s).wellFormed.substitute_free rfl inert
  exact ⟨free, fun other => expandEnvVars_of_free free⟩

/-- A tag between two literals. -/
def taggedPieces : Pieces Char where
  head := "v".toList
  refs := [("TAG".toList, "/x".toList)]
  tail := none

theorem expandEnvVars_reexpands_tag
    : ¬ "$\x7b".toList <:+: "v1.2/x".toList
      ∧ ∀ other, expandEnvVars other "v1.2/x" = .ok "v1.2/x" := by
  have wellFormed : taggedPieces.WellFormed references :=
    ⟨by decide, by decide, by decide, by decide⟩
  have parsed : (templateOf "v$\x7bTAG\x7d/x").toPieces = taggedPieces :=
    parse_render wellFormed
  have expanded : expandEnvVars (fun _ => some "1.2") "v$\x7bTAG\x7d/x" = .ok "v1.2/x" := by
    rw [expandEnvVars_eq_ok_iff, parsed]
    decide
  apply expandEnvVars_reexpands expanded
  intro name value _ given
  cases given
  exact ⟨by decide, by decide, by decide⟩

end Cafce
