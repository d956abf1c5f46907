import Hierarchy.Proofs.Locator.Extent
import Hierarchy.Proofs.Locator.Isomorphism

/-!
# Moving locators

Rebasing takes the locators under a source to the same places under a target.  A place
under the target is then covered by a moved locator just as the place that it stems from
was covered (`mem_subtree_rebase`), and a list of locators falls into those that move and
those that stay (`mem_extent_map_rebase`).  Unless a locator lies above the source, each of
the two parts can be told by the place alone.  A target is free if no locator that stays
overlaps it: then the two parts remain apart (`scattered_map_rebase`), and moving back
takes every locator to where it was (`map_rebase_rebase`).
-/

set_option autoImplicit false

namespace Hierarchy.Locator

universe u

variable {α : Type u} [DecidableEq α]

theorem mem_subtree_rebase {m source : Locator α} (below : source.isPrefixOf m = true)
    (target x : Locator α) :
    x ∈ subtree (m.rebase source target) ↔
      target.isPrefixOf x = true ∧ x.rebase target source ∈ subtree m := by
  have stems (under : target.isPrefixOf x = true) :
      (m.rebase source target).isPrefixOf x = true ↔
        m.isPrefixOf (x.rebase target source) = true := by
    have moved := rebase_isPrefixOf_rebase_iff below (isPrefixOf_rebase under source) target
    rwa [rebase_rebase_of_isPrefixOf under] at moved
  constructor
  · intro inside
    have under := isPrefixOf_trans (isPrefixOf_rebase below target) inside
    exact ⟨under, (stems under).1 inside⟩
  · intro found
    exact (stems found.1).2 found.2

theorem mem_extent_map_rebase {ls : List (Locator α)} {source target x : Locator α} :
    x ∈ extent (ls.map (·.rebase source target)) ↔
      (∃ m ∈ ls, source.isPrefixOf m = false ∧ m.isPrefixOf x = true) ∨
        target.isPrefixOf x = true ∧
          ∃ m ∈ ls, source.isPrefixOf m = true ∧
            m.isPrefixOf (x.rebase target source) = true := by
  constructor
  · rintro ⟨moved, listed, inside⟩
    obtain ⟨m, member, rfl⟩ := List.mem_map.1 listed
    cases below : source.isPrefixOf m with
    | false =>
        rw [rebase_of_not_isPrefixOf target below] at inside
        exact Or.inl ⟨m, member, below, inside⟩
    | true =>
        obtain ⟨underTarget, stems⟩ := (mem_subtree_rebase below target x).1 inside
        exact Or.inr ⟨underTarget, m, member, below, stems⟩
  · rintro (⟨m, member, outside, inside⟩ | ⟨underTarget, m, member, below, stems⟩)
    · refine ⟨m.rebase source target, List.mem_map_of_mem member, ?_⟩
      rw [rebase_of_not_isPrefixOf target outside]
      exact inside
    · refine ⟨m.rebase source target, List.mem_map_of_mem member, ?_⟩
      exact (mem_subtree_rebase below target x).2 ⟨underTarget, stems⟩

/-! ## With a free target -/

section FreeTarget

variable {ls : List (Locator α)} {source target : Locator α}
  (free : ∀ m ∈ ls, source.isPrefixOf m = false → m.overlaps target = false)

include free

theorem rebase_rebase_of_mem {m : Locator α} (member : m ∈ ls) :
    (m.rebase source target).rebase target source = m := by
  cases below : source.isPrefixOf m with
  | true => exact rebase_rebase_of_isPrefixOf below target
  | false =>
      have apart := free m member below
      rw [overlaps, Bool.or_eq_false_iff] at apart
      rw [rebase_of_not_isPrefixOf target below, rebase_of_not_isPrefixOf source apart.1]

theorem map_rebase_rebase :
    (ls.map (·.rebase source target)).map (·.rebase target source) = ls := by
  rw [List.map_map]
  apply (List.map_congr_left _).trans (List.map_id ls)
  intro m member
  exact rebase_rebase_of_mem free member

theorem overlaps_append_of_outside {m : Locator α} (member : m ∈ ls)
    (outside : source.isPrefixOf m = false) (inner : Locator α) :
    m.overlaps (target ++ inner) = false := by
  refine Bool.eq_false_iff.2 ?_
  intro shared
  have reached := overlaps_of_isPrefixOf (isPrefixOf_append target inner) shared
  rw [free m member outside] at reached
  contradiction

theorem overlaps_rebase_rebase {m k : Locator α} (mMember : m ∈ ls) (kMember : k ∈ ls)
    (apart : m.overlaps k = false) :
    (m.rebase source target).overlaps (k.rebase source target) = false := by
  cases mBelow : source.isPrefixOf m with
  | true =>
      obtain ⟨mInner, rfl⟩ := isPrefixOf_iff.1 mBelow
      rw [rebase_append]
      cases kBelow : source.isPrefixOf k with
      | true =>
          obtain ⟨kInner, rfl⟩ := isPrefixOf_iff.1 kBelow
          rwa [rebase_append, overlaps_append_append, ← overlaps_append_append source]
      | false =>
          rw [rebase_of_not_isPrefixOf target kBelow, overlaps_comm]
          exact overlaps_append_of_outside free kMember kBelow mInner
  | false =>
      rw [rebase_of_not_isPrefixOf target mBelow]
      cases kBelow : source.isPrefixOf k with
      | true =>
          obtain ⟨kInner, rfl⟩ := isPrefixOf_iff.1 kBelow
          rw [rebase_append]
          exact overlaps_append_of_outside free mMember mBelow kInner
      | false => rwa [rebase_of_not_isPrefixOf target kBelow]

theorem scattered_map_rebase (scattered : Scattered ls) :
    Scattered (ls.map (·.rebase source target)) := by
  refine List.pairwise_map.2 (scattered.imp_of_mem ?_)
  intro m k mMember kMember apart
  exact overlaps_rebase_rebase free mMember kMember apart

end FreeTarget

/-! ## Without a locator above the source -/

section NoneAbove

variable {ls : List (Locator α)} {source : Locator α}
  (noneAbove : ∀ m ∈ ls, m.isPrefixOf source = true → m = source)

include noneAbove

theorem exists_outside_iff {x : Locator α} :
    (∃ m ∈ ls, source.isPrefixOf m = false ∧ m.isPrefixOf x = true) ↔
      x ∈ extent ls ∧ source.isPrefixOf x = false := by
  constructor
  · rintro ⟨m, member, outside, inside⟩
    refine ⟨⟨m, member, inside⟩, Bool.eq_false_iff.2 ?_⟩
    intro below
    rcases isPrefixOf_or_isPrefixOf inside below with above | under
    · -- only the source itself is left above the source, and that is not outside
      rw [noneAbove m member above, isPrefixOf_refl] at outside
      contradiction
    · rw [under] at outside
      contradiction
  · rintro ⟨⟨m, member, inside⟩, outside⟩
    refine ⟨m, member, Bool.eq_false_iff.2 ?_, inside⟩
    intro below
    rw [isPrefixOf_trans below inside] at outside
    contradiction

theorem exists_inside_iff {y : Locator α} (below : source.isPrefixOf y = true) :
    (∃ m ∈ ls, source.isPrefixOf m = true ∧ m.isPrefixOf y = true) ↔ y ∈ extent ls := by
  constructor
  · rintro ⟨m, member, _, inside⟩
    exact ⟨m, member, inside⟩
  · rintro ⟨m, member, inside⟩
    refine ⟨m, member, ?_, inside⟩
    rcases isPrefixOf_or_isPrefixOf inside below with above | under
    · rw [noneAbove m member above]
      exact isPrefixOf_refl source
    · exact under

end NoneAbove

end Hierarchy.Locator
