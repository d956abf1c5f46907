/-!
# Joined texts

To join texts by a separator of several characters is to put all of it but its last
character behind every text that is not the last, and then to join by the last character
alone.  If no text holds that character, splitting at it gives the texts back, whatever
else they hold, and so texts that are joined alike are the same (`eq_of_intercalate_eq`).
A joined text shorter than the separator contains none (`intercalate_eq_iff_of_short`).
-/

set_option autoImplicit false

namespace Hierarchy.Text

theorem mem_of_mem_intercalate {c : Char} {separator : List Char} {texts : List (List Char)}
    (inside : c ∈ List.intercalate separator texts) :
    c ∈ separator ∨ ∃ text ∈ texts, c ∈ text := by
  induction texts with
  | nil => cases inside
  | cons text rest ih =>
      cases rest with
      | nil =>
          rw [List.intercalate_singleton] at inside
          exact Or.inr ⟨text, List.mem_cons_self, inside⟩
      | cons next rest =>
          rw [List.intercalate_cons_cons, List.mem_append, List.mem_append] at inside
          rcases inside with (own | between) | later
          · exact Or.inr ⟨text, List.mem_cons_self, own⟩
          · exact Or.inl between
          · obtain between | ⟨other, listed, held⟩ := ih later
            · exact Or.inl between
            · exact Or.inr ⟨other, List.mem_cons_of_mem text listed, held⟩

/-! ## Short joined texts -/

theorem intercalate_eq_iff_of_short {separator text : List Char} {texts : List (List Char)}
    (short : text.length < separator.length) :
    List.intercalate separator texts = text ↔ (texts = [] ∧ text = []) ∨ texts = [text] := by
  cases texts with
  | nil => simp [eq_comm]
  | cons first rest =>
      cases rest with
      | nil => simp
      | cons second rest =>
          -- two texts have a whole separator between them
          have long : List.intercalate separator (first :: second :: rest) ≠ text := by
            intro same
            have sizes := congrArg List.length same
            rw [List.intercalate_cons_cons, List.length_append, List.length_append] at sizes
            omega
          simp only [long, List.cons_ne_nil, List.cons.injEq, false_and, and_false, or_false]

theorem intercalate_eq_nil_iff {separator : List Char} {texts : List (List Char)}
    (visible : separator ≠ []) (nonempty : [] ∉ texts) :
    List.intercalate separator texts = [] ↔ texts = [] := by
  have short : ([] : List Char).length < separator.length := List.length_pos_iff.2 visible
  rw [intercalate_eq_iff_of_short short]
  constructor
  · rintro (⟨none, _⟩ | single)
    · exact none
    · exact absurd (single ▸ List.mem_singleton_self []) nonempty
  · intro none
    exact Or.inl ⟨none, rfl⟩

/-! ## Separators of several characters -/

/-- The texts with `ending` behind each of them but the last. -/
def withEndings (ending : List Char) : List (List Char) → List (List Char)
  | [] => []
  | [text] => [text]
  | text :: next :: rest => (text ++ ending) :: withEndings ending (next :: rest)

def withoutEndings (size : Nat) : List (List Char) → List (List Char)
  | [] => []
  | [text] => [text]
  | text :: next :: rest => text.take (text.length - size) :: withoutEndings size (next :: rest)

theorem withEndings_cons_ne_nil (ending text : List Char) (rest : List (List Char)) :
    withEndings ending (text :: rest) ≠ [] := by
  cases rest with
  | nil => exact List.cons_ne_nil text []
  | cons next rest => exact List.cons_ne_nil _ _

theorem intercalate_withEndings (ending : List Char) (c : Char) (texts : List (List Char)) :
    List.intercalate [c] (withEndings ending texts) = List.intercalate (ending ++ [c]) texts := by
  fun_induction withEndings ending texts with
  | case1 => rfl
  | case2 text => rw [List.intercalate_singleton, List.intercalate_singleton]
  | case3 text next rest ih =>
      rw [List.intercalate_cons_of_ne_nil (withEndings_cons_ne_nil ending next rest), ih,
        List.intercalate_cons_cons]
      simp only [List.append_assoc]

theorem not_mem_of_mem_withEndings {ending : List Char} {c : Char} {texts : List (List Char)}
    (endingFree : c ∉ ending) (free : ∀ t ∈ texts, c ∉ t) :
    ∀ t ∈ withEndings ending texts, c ∉ t := by
  fun_induction withEndings ending texts with
  | case1 => exact free
  | case2 text => exact free
  | case3 text next rest ih =>
      obtain ⟨textFree, restFree⟩ := List.forall_mem_cons.1 free
      refine List.forall_mem_cons.2 ⟨?_, ih restFree⟩
      rw [List.mem_append, not_or]
      exact ⟨textFree, endingFree⟩

theorem withoutEndings_cons_of_ne_nil (size : Nat) (text : List Char) {rest : List (List Char)}
    (more : rest ≠ []) :
    withoutEndings size (text :: rest) =
      text.take (text.length - size) :: withoutEndings size rest := by
  cases rest with
  | nil => exact absurd rfl more
  | cons next rest => rfl

theorem withoutEndings_withEndings (ending : List Char) (texts : List (List Char)) :
    withoutEndings ending.length (withEndings ending texts) = texts := by
  fun_induction withEndings ending texts with
  | case1 => rfl
  | case2 text => rfl
  | case3 text next rest ih =>
      rw [withoutEndings_cons_of_ne_nil _ _ (withEndings_cons_ne_nil ending next rest), ih,
        List.length_append, Nat.add_sub_cancel, List.take_left]

/-! ## Splitting joined texts -/

theorem withoutEndings_splitOn {ending : List Char} {c : Char} {texts : List (List Char)}
    (endingFree : c ∉ ending) (free : ∀ t ∈ texts, c ∉ t) (nonempty : texts ≠ []) :
    withoutEndings ending.length ((List.intercalate (ending ++ [c]) texts).splitOn c) = texts := by
  obtain ⟨text, rest, rfl⟩ := List.exists_cons_of_ne_nil nonempty
  rw [← intercalate_withEndings,
    List.splitOn_intercalate c (not_mem_of_mem_withEndings endingFree free)
      (withEndings_cons_ne_nil ending text rest),
    withoutEndings_withEndings]

/-- Texts without the last character of the separator are told apart by being joined. -/
theorem eq_of_intercalate_eq {ending : List Char} {c : Char} {ts us : List (List Char)}
    (endingFree : c ∉ ending) (tsFree : ∀ t ∈ ts, c ∉ t) (usFree : ∀ u ∈ us, c ∉ u)
    (tsNonempty : [] ∉ ts) (usNonempty : [] ∉ us)
    (same : List.intercalate (ending ++ [c]) ts = List.intercalate (ending ++ [c]) us) :
    ts = us := by
  have visible : ending ++ [c] ≠ [] := List.append_ne_nil_of_right_ne_nil ending (by simp)
  by_cases none : ts = []
  · rw [none, List.intercalate_nil, eq_comm, intercalate_eq_nil_iff visible usNonempty] at same
    rw [none, same]
  · have some : us ≠ [] := by
      intro usNone
      rw [usNone, List.intercalate_nil, intercalate_eq_nil_iff visible tsNonempty] at same
      exact none same
    rw [← withoutEndings_splitOn endingFree tsFree none, same,
      withoutEndings_splitOn endingFree usFree some]

end Hierarchy.Text
