import Mathlib.Data.List.Basic

namespace FrameStream

/-- Some step of a history does a thing, and no step after it undoes it. -/
def Since (does undoes : List Step → Step → Prop) (history : List Step) : Prop :=
  ∃ before step after, history = before ++ step :: after ∧ does before step ∧
    ∀ between later rest, after = between ++ later :: rest →
      ¬ undoes (before ++ step :: between) later

variable {Step : Type} {does undoes : List Step → Step → Prop} {history : List Step}

theorem not_since_nil : ¬ Since does undoes [] := by
  rintro ⟨before, step, after, split, -⟩
  exact List.append_ne_nil_of_right_ne_nil before (List.cons_ne_nil step after) split.symm

theorem since_snoc {last : Step} :
    Since does undoes (history ++ [last]) ↔
      does history last ∨ Since does undoes history ∧ ¬ undoes history last := by
  constructor
  · rintro ⟨before, step, after, split, did, kept⟩
    rcases List.eq_nil_or_concat after with rfl | ⟨earlier, later, rfl⟩
    · obtain ⟨rfl, same⟩ := List.append_inj' split rfl
      obtain rfl := List.singleton_inj.mp same
      exact .inl did
    · rw [List.concat_eq_append, ← List.cons_append, ← List.append_assoc] at split
      obtain ⟨rfl, same⟩ := List.append_inj' split rfl
      obtain rfl := List.singleton_inj.mp same
      refine .inr ⟨⟨before, step, earlier, rfl, did, ?_⟩, ?_⟩
      · intro between next rest within
        exact kept between next (rest ++ [last]) (by simp [within])
      · exact kept earlier last [] (List.concat_eq_append ..)
  · rintro (did | ⟨⟨before, step, after, rfl, did, kept⟩, left⟩)
    · refine ⟨history, last, [], rfl, did, ?_⟩
      intro between later rest split
      have longer := List.append_ne_nil_of_right_ne_nil between (List.cons_ne_nil later rest)
      exact absurd split.symm longer
    · refine ⟨before, step, after ++ [last], by simp, did, ?_⟩
      intro between later rest split
      rcases List.eq_nil_or_concat rest with rfl | ⟨earlier, final, rfl⟩
      · obtain ⟨rfl, same⟩ := List.append_inj' split rfl
        obtain rfl := List.singleton_inj.mp same
        exact left
      · rw [List.concat_eq_append, ← List.cons_append, ← List.append_assoc] at split
        exact kept between later earlier (List.append_inj' split rfl).1

end FrameStream
