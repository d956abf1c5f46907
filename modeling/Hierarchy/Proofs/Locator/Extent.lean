import Hierarchy.Proofs.Locator.Prefix
import Mathlib.Data.List.Sort
import Mathlib.Data.Set.Lattice

/-!
# The places that a list of locators covers

Every locator stands for the subtree below it, and a list of locators for the union of
those subtrees, its `extent`.  Many lists have the same extent, but only one of them is
`Canonical`, that is increasing and without a locator below another one
(`Canonical.eq_of_extent_eq`).  It consists of the `Outermost` locators of any list with
that extent.
-/

set_option autoImplicit false

namespace Hierarchy.Locator

universe u

variable {α : Type u} [DecidableEq α]

/-! ## Extents -/

def subtree (l : Locator α) : Set (Locator α) := {x | l.isPrefixOf x = true}

/-- The places at or below some locator of `ls`. -/
def extent (ls : List (Locator α)) : Set (Locator α) := {x | ∃ l ∈ ls, x ∈ subtree l}

@[simp] theorem mem_subtree {l x : Locator α} : x ∈ subtree l ↔ l.isPrefixOf x = true :=
  Iff.rfl

theorem subtree_subset_subtree_iff {p l : Locator α} :
    subtree l ⊆ subtree p ↔ p.isPrefixOf l = true := by
  constructor
  · intro included
    exact included (isPrefixOf_refl l)
  · intro above x below
    exact isPrefixOf_trans above below

theorem subtree_inter_subtree_eq_empty {a b : Locator α} (apart : a.overlaps b = false) :
    subtree a ∩ subtree b = ∅ := by
  apply Set.eq_empty_of_forall_notMem
  intro x both
  have shared : a.overlaps b = true := overlaps_iff_exists_below.2 ⟨x, both.1, both.2⟩
  rw [apart] at shared
  contradiction

theorem mem_extent {ls : List (Locator α)} {x : Locator α} :
    x ∈ extent ls ↔ ∃ l ∈ ls, l.isPrefixOf x = true :=
  Iff.rfl

theorem mem_extent_of_mem {ls : List (Locator α)} {l : Locator α} (listed : l ∈ ls) :
    l ∈ extent ls :=
  ⟨l, listed, isPrefixOf_refl l⟩

theorem mem_extent_of_isPrefixOf {ls : List (Locator α)} {x y : Locator α}
    (inside : x ∈ extent ls) (below : x.isPrefixOf y = true) : y ∈ extent ls := by
  obtain ⟨l, listed, above⟩ := inside
  exact ⟨l, listed, isPrefixOf_trans above below⟩

@[simp] theorem extent_nil : extent ([] : List (Locator α)) = ∅ := by
  ext x
  simp [mem_extent]

@[simp] theorem extent_append (ls ks : List (Locator α)) :
    extent (ls ++ ks) = extent ls ∪ extent ks := by
  ext x
  simp [mem_extent, or_and_right, exists_or]

@[simp] theorem extent_cons (l : Locator α) (ls : List (Locator α)) :
    extent (l :: ls) = subtree l ∪ extent ls := by
  ext x
  simp [mem_extent]

theorem extent_cons_filter (l : Locator α) (ls : List (Locator α)) :
    extent (l :: ls.filter (!l.isPrefixOf ·)) = extent (l :: ls) := by
  ext x
  simp only [mem_extent, List.mem_cons, List.mem_filter]
  constructor
  · rintro ⟨m, rfl | ⟨listed, _⟩, above⟩
    · exact ⟨m, Or.inl rfl, above⟩
    · exact ⟨m, Or.inr listed, above⟩
  · rintro ⟨m, rfl | listed, above⟩
    · exact ⟨m, Or.inl rfl, above⟩
    · by_cases below : l.isPrefixOf m = true
      -- `m` is filtered out, and `l` takes its place
      · exact ⟨l, Or.inl rfl, isPrefixOf_trans below above⟩
      · exact ⟨m, Or.inr ⟨listed, by simpa using below⟩, above⟩

theorem extent_congr {ls ks : List (Locator α)} (same : ∀ l, l ∈ ls ↔ l ∈ ks) :
    extent ls = extent ks := by
  ext x
  simp [mem_extent, same]

theorem subtree_subset_extent_iff {l : Locator α} {ls : List (Locator α)} :
    subtree l ⊆ extent ls ↔ l ∈ extent ls := by
  constructor
  · intro included
    exact included (isPrefixOf_refl l)
  · intro inside x below
    exact mem_extent_of_isPrefixOf inside below

theorem extent_subset_iff {ls ks : List (Locator α)} :
    extent ls ⊆ extent ks ↔ ∀ l ∈ ls, l ∈ extent ks := by
  constructor
  · intro included l listed
    exact included (mem_extent_of_mem listed)
  · rintro inside x ⟨l, listed, below⟩
    exact mem_extent_of_isPrefixOf (inside l listed) below

theorem exists_overlaps_iff {ls : List (Locator α)} {x : Locator α} :
    (∃ l ∈ ls, l.overlaps x = true) ↔ ∃ y ∈ extent ls, x.isPrefixOf y = true := by
  constructor
  · rintro ⟨l, listed, shared⟩
    rcases overlaps_iff.1 shared with below | above
    · exact ⟨l, mem_extent_of_mem listed, below⟩
    · exact ⟨x, ⟨l, listed, above⟩, isPrefixOf_refl x⟩
  · rintro ⟨y, ⟨l, listed, above⟩, below⟩
    exact ⟨l, listed, overlaps_iff.2 (isPrefixOf_or_isPrefixOf below above)⟩

theorem extent_nonempty_iff {ls : List (Locator α)} : (extent ls).Nonempty ↔ ls ≠ [] := by
  constructor
  · rintro ⟨x, l, listed, _⟩
    exact List.ne_nil_of_mem listed
  · intro nonempty
    obtain ⟨l, listed⟩ := List.exists_mem_of_ne_nil ls nonempty
    exact ⟨l, mem_extent_of_mem listed⟩

theorem extent_inter_nonempty_iff {ls ks : List (Locator α)} :
    (extent ls ∩ extent ks).Nonempty ↔ ∃ l ∈ ls, ∃ k ∈ ks, l.overlaps k = true := by
  constructor
  · rintro ⟨x, ⟨l, lListed, lx⟩, ⟨k, kListed, kx⟩⟩
    exact ⟨l, lListed, k, kListed, overlaps_iff_exists_below.2 ⟨x, lx, kx⟩⟩
  · rintro ⟨l, lListed, k, kListed, shared⟩
    obtain ⟨x, lx, kx⟩ := overlaps_iff_exists_below.1 shared
    exact ⟨x, ⟨l, lListed, lx⟩, ⟨k, kListed, kx⟩⟩

/-- Of any two locators of the list neither lies below the other. -/
def Scattered (ls : List (Locator α)) : Prop := ls.Pairwise fun a b => a.overlaps b = false

theorem Scattered.perm {ls ks : List (Locator α)} (scattered : Scattered ls)
    (permuted : ls.Perm ks) : Scattered ks := by
  refine permuted.pairwise scattered ?_
  intro a b apart
  rw [overlaps_comm]
  exact apart

/-! ## Canonical lists -/

section Order

variable [Ord α]

def Increasing (ls : List (Locator α)) : Prop :=
  ls.Pairwise fun a b => compare a b = .lt

structure Canonical (members : List (Locator α)) : Prop where
  increasing : Increasing members
  minimal : ∀ a ∈ members, ∀ b ∈ members, a.isPrefixOf b = true → a = b

/-- `members` are, in increasing order, the locators of `ls` that have no other locator of
`ls` above them. -/
structure Outermost (ls members : List (Locator α)) : Prop where
  increasing : Increasing members
  mem_iff : ∀ l, l ∈ members ↔ l ∈ ls ∧ ∀ p ∈ ls, p.isPrefixOf l = true → p = l

def Apart (a b : Locator α) : Prop := compare a b = .lt ∧ a.isPrefixOf b = false

variable [Std.TransOrd α] [Std.LawfulEqOrd α]

omit [DecidableEq α] [Std.TransOrd α] in
theorem ne_of_compare_eq_lt {a b : Locator α} (less : compare a b = .lt) : a ≠ b := by
  rintro rfl
  simp [Std.ReflOrd.compare_self] at less

omit [Std.LawfulEqOrd α] in
theorem isPrefixOf_eq_false_of_lt {a b : Locator α} (less : compare a b = .lt) :
    b.isPrefixOf a = false := by
  cases above : b.isPrefixOf a with
  | false => rfl
  | true => exact absurd (isLE_of_isPrefixOf above) (Std.OrientedCmp.not_isLE_of_lt less)

omit [Std.TransOrd α] in
theorem apart_of_isLE {a b : Locator α} (ordered : (compare a b).isLE = true)
    (outside : ¬a.isPrefixOf b = true) : Apart a b := by
  refine ⟨?_, Bool.eq_false_iff.2 outside⟩
  rcases Ordering.isLE_iff_eq_lt_or_eq_eq.1 ordered with less | equal
  · exact less
  · have same : a = b := Std.LawfulEqOrd.eq_of_compare equal
    exact absurd (same ▸ isPrefixOf_refl a) outside

theorem Apart.trans {a b c : Locator α} (ab : Apart a b) (bc : Apart b c) : Apart a c := by
  refine ⟨Std.TransCmp.lt_trans ab.1 bc.1, ?_⟩
  cases above : a.isPrefixOf c with
  | false => rfl
  | true =>
      -- `b` lies between `a` and `c`, so `a` would cover it as well
      have covered := isPrefixOf_of_between (Ordering.isLE_of_eq_lt ab.1)
        (Ordering.isLE_of_eq_lt bc.1) above
      rw [ab.2] at covered
      exact absurd covered (by simp)

theorem canonical_iff_pairwise {members : List (Locator α)} :
    Canonical members ↔ members.Pairwise Apart := by
  constructor
  · intro canonical
    refine canonical.increasing.imp_of_mem ?_
    intro a b aMember bMember less
    refine ⟨less, Bool.eq_false_iff.2 ?_⟩
    intro above
    exact ne_of_compare_eq_lt less (canonical.minimal a aMember b bMember above)
  · intro apart
    refine ⟨apart.imp And.left, ?_⟩
    refine List.Pairwise.forall_of_forall_of_flip (fun _ _ _ => rfl) ?_ ?_
    · refine apart.imp ?_
      intro a b ab above
      rw [ab.2] at above
      contradiction
    · refine apart.imp ?_
      intro a b ab above
      rw [isPrefixOf_eq_false_of_lt ab.1] at above
      contradiction

theorem Canonical.scattered {members : List (Locator α)} (canonical : Canonical members) :
    Scattered members := by
  refine (canonical_iff_pairwise.1 canonical).imp ?_
  intro a b apart
  rw [overlaps, isPrefixOf_eq_false_of_lt apart.1, apart.2]
  rfl

theorem Canonical.sublist {members kept : List (Locator α)} (canonical : Canonical members)
    (part : kept.Sublist members) : Canonical kept :=
  canonical_iff_pairwise.2 ((canonical_iff_pairwise.1 canonical).sublist part)

/-- A locator at or after all of a canonical list is covered by the last of them if it is
covered at all. -/
theorem Canonical.any_getLast?_iff {earlier : List (Locator α)} {l : Locator α}
    (canonical : Canonical earlier) (passed : ∀ m ∈ earlier, (compare m l).isLE = true) :
    earlier.getLast?.any (·.isPrefixOf l) = true ↔ l ∈ extent earlier := by
  rw [Option.any_eq_true]
  constructor
  · rintro ⟨last, found, above⟩
    exact ⟨last, List.mem_of_getLast? found, above⟩
  · rintro ⟨m, listed, above⟩
    rcases List.eq_nil_or_concat earlier with rfl | ⟨others, last, rfl⟩
    · cases listed
    · rw [List.concat_eq_append] at *
      refine ⟨last, List.getLast?_concat, ?_⟩
      rcases List.mem_append.1 listed with inside | atEnd
      · have lastListed : last ∈ others ++ [last] := by simp
        have less : compare m last = .lt :=
          (List.pairwise_append.1 canonical.increasing).2.2 m inside last (by simp)
        -- `last` lies between `m` and `l`, so `m` would cover it as well
        have covered : m.isPrefixOf last = true :=
          isPrefixOf_of_between (Ordering.isLE_of_eq_lt less) (passed last lastListed) above
        exact canonical.minimal m listed last lastListed covered ▸ above
      · exact List.mem_singleton.1 atEnd ▸ above

omit [DecidableEq α] in
theorem eq_of_increasing {ls ks : List (Locator α)} (lsIncreasing : Increasing ls)
    (ksIncreasing : Increasing ks) (same : ∀ l, l ∈ ls ↔ l ∈ ks) : ls = ks := by
  have lsNodup : ls.Nodup := lsIncreasing.imp ne_of_compare_eq_lt
  have ksNodup : ks.Nodup := ksIncreasing.imp ne_of_compare_eq_lt
  have permuted : ls.Perm ks := (List.perm_ext_iff_of_nodup lsNodup ksNodup).2 same
  refine permuted.eq_of_pairwise ?_ lsIncreasing ksIncreasing
  intro a b _ _ ab ba
  exact absurd ba (Std.OrientedCmp.not_lt_of_lt ab)

omit [Std.TransOrd α] [Std.LawfulEqOrd α] in
private theorem Canonical.mem_of_extent_eq {ls ks : List (Locator α)} {m : Locator α}
    (canonical : Canonical ls) (same : extent ls = extent ks) (listed : m ∈ ls) :
    m ∈ ks := by
  have inside : m ∈ extent ks := same ▸ mem_extent_of_mem listed
  obtain ⟨k, kListed, km⟩ := inside
  have kInside : k ∈ extent ls := same ▸ mem_extent_of_mem kListed
  obtain ⟨l, lListed, lk⟩ := kInside
  -- `l` is above `k`, which is above `m`, so all three are the same
  have top : l = m := canonical.minimal l lListed m listed (isPrefixOf_trans lk km)
  subst top
  exact isPrefixOf_antisymm km lk ▸ kListed

/-- Every extent is that of at most one canonical list. -/
theorem Canonical.eq_of_extent_eq {ls ks : List (Locator α)} (lsCanonical : Canonical ls)
    (ksCanonical : Canonical ks) (same : extent ls = extent ks) : ls = ks := by
  refine eq_of_increasing lsCanonical.increasing ksCanonical.increasing ?_
  intro l
  exact ⟨lsCanonical.mem_of_extent_eq same, ksCanonical.mem_of_extent_eq same.symm⟩

omit [Std.TransOrd α] [Std.LawfulEqOrd α] in
theorem Canonical.outermost {ls members : List (Locator α)} (canonical : Canonical members)
    (listed : ∀ m ∈ members, m ∈ ls) (same : extent members = extent ls) :
    Outermost ls members := by
  refine ⟨canonical.increasing, ?_⟩
  intro l
  constructor
  · intro member
    refine ⟨listed l member, ?_⟩
    intro p pListed pl
    have inside : p ∈ extent members := same ▸ mem_extent_of_mem pListed
    obtain ⟨m, mMember, mp⟩ := inside
    have top : m = l := canonical.minimal m mMember l member (isPrefixOf_trans mp pl)
    subst top
    exact isPrefixOf_antisymm pl mp
  · rintro ⟨lListed, outer⟩
    have inside : l ∈ extent members := same ▸ mem_extent_of_mem lListed
    obtain ⟨m, mMember, ml⟩ := inside
    exact outer m (listed m mMember) ml ▸ mMember

end Order

end Hierarchy.Locator
