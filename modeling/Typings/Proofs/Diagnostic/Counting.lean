import Typings.Proofs.Diagnostic.Wording
import Mathlib.Algebra.GroupWithZero.Nat
import Mathlib.Data.List.Basic

/-!
# Reports count every diagnostic once

A log is what any sequence of recordings leaves. Its warnings are put into groups one by one, each
into the group of its construct, and the groups are sorted by the names of their constructs. So every
warning is in exactly one group, and the order of recording shows only inside a group. The long
report lists the groups and then the remarks, up to a diagnostic that cannot be shown.
-/

namespace Typings

/-! ## Printing -/

namespace Log

variable {log other : Log} {d : Diagnostic} {ds : List Diagnostic}

/-! ## Warnings and remarks -/

/-- A diagnostic makes a new group at the end, or the group of its construct longer. -/
theorem addToGroups_cases (groups : List Group) (d : Diagnostic) :
    (d.construct ∉ groups.map Prod.fst ∧
      addToGroups groups d = groups ++ [(d.construct, [d])]) ∨
    ∃ front members back, groups = front ++ (d.construct, members) :: back ∧
      addToGroups groups d = front ++ (d.construct, members ++ [d]) :: back := by
  induction groups with
  | nil => exact .inl ⟨by simp, rfl⟩
  | cons group rest ih =>
      obtain ⟨c, members⟩ := group
      by_cases hc : c = d.construct
      · subst hc
        exact .inr ⟨[], members, rest, rfl, if_pos rfl⟩
      · have ha : addToGroups ((c, members) :: rest) d = (c, members) :: addToGroups rest d :=
          if_neg hc
        rcases ih with ⟨hn, he⟩ | ⟨front, members', back, rfl, he⟩
        · refine .inl ⟨?_, by rw [ha, he]; rfl⟩
          rw [List.map_cons, List.mem_cons, not_or]
          exact ⟨Ne.symm hc, hn⟩
        · exact .inr ⟨(c, members) :: front, members', back, rfl, by rw [ha, he]; rfl⟩

/-- The groups hold the diagnostics, each group all those of its construct, in their order. -/
structure Collected (ds : List Diagnostic) (groups : List Group) : Prop where
  nodup : (groups.map Prod.fst).Nodup
  members : ∀ group ∈ groups, group.2 ≠ [] ∧ group.2 = ds.filter (·.construct == group.1)
  perm : (groups.flatMap Prod.snd).Perm ds

namespace Collected

variable {groups : List Group}

theorem nil : Collected [] [] :=
  ⟨.nil, by simp, .nil⟩

theorem construct_mem (h : Collected ds groups) (hd : d ∈ ds) :
    d.construct ∈ groups.map Prod.fst := by
  obtain ⟨group, hg, hm⟩ := List.mem_flatMap.1 (h.perm.mem_iff.2 hd)
  rw [(h.members group hg).2, List.mem_filter] at hm
  exact List.mem_map.2 ⟨group, hg, (beq_iff_eq.1 hm.2).symm⟩

theorem members_append (hg : ∀ group ∈ groups, group.2 ≠ [] ∧
      group.2 = ds.filter (·.construct == group.1))
    (hn : d.construct ∉ groups.map Prod.fst) :
    ∀ group ∈ groups, group.2 ≠ [] ∧ group.2 = (ds ++ [d]).filter (·.construct == group.1) := by
  intro group hm
  have hc : d.construct ≠ group.1 := fun he => hn (List.mem_map.2 ⟨group, hm, he.symm⟩)
  have hf : [d].filter (·.construct == group.1) = [] := by simp [hc]
  rw [List.filter_append, hf, List.append_nil]
  exact hg group hm

/-- One more diagnostic. -/
theorem add (h : Collected ds groups) (d : Diagnostic) :
    Collected (ds ++ [d]) (addToGroups groups d) := by
  rcases addToGroups_cases groups d with ⟨hn, he⟩ | ⟨front, members, back, rfl, he⟩
  · rw [he]
    have hd : ds.filter (·.construct == d.construct) = [] := by
      refine List.filter_eq_nil_iff.2 fun e hm hc => hn ?_
      rw [← beq_iff_eq.1 hc]
      exact h.construct_mem hm
    refine ⟨?_, ?_, ?_⟩
    · rw [List.map_append]
      refine List.nodup_append.2 ⟨h.nodup, by simp, ?_⟩
      rintro c hc _ hd rfl
      have he : c = d.construct := List.mem_singleton.1 hd
      exact hn (he ▸ hc)
    · refine List.forall_mem_append.2 ⟨members_append h.members hn, ?_⟩
      refine List.forall_mem_singleton.2 ⟨by simp, ?_⟩
      simp [List.filter_append, hd]
    · simpa using h.perm.append_right [d]
  · rw [he]
    have hs : d.construct ∉ (front ++ back).map Prod.fst := by
      have hn := (List.perm_middle.map Prod.fst).nodup_iff.1 h.nodup
      exact (List.nodup_cons.1 hn).1
    have hm := h.members
    rw [List.forall_mem_append, List.forall_mem_cons] at hm
    have ho := members_append (List.forall_mem_append.2 ⟨hm.1, hm.2.2⟩) hs
    rw [List.forall_mem_append] at ho
    refine ⟨by simpa using h.nodup, ?_, ?_⟩
    · refine List.forall_mem_append.2 ⟨ho.1, List.forall_mem_cons.2 ⟨⟨by simp, ?_⟩, ho.2⟩⟩
      rw [List.filter_append, ← hm.2.1.2]
      simp
    · have hp := h.perm
      simp only [List.flatMap_append, List.flatMap_cons, List.append_assoc] at hp ⊢
      refine List.Perm.trans ?_ (hp.append_right [d])
      simp only [List.append_assoc]
      exact (List.perm_append_comm.append_left _).append_left _

theorem foldl (h : Collected ds groups) (more : List Diagnostic) :
    Collected (ds ++ more) (more.foldl addToGroups groups) := by
  induction more generalizing ds groups with
  | nil => rwa [List.append_nil]
  | cons d more ih =>
      rw [← List.singleton_append, ← List.append_assoc]
      exact ih (h.add d)

end Collected

/-- The warnings by the names of their constructs. -/
def groups (log : Log) : List (String × List Diagnostic) :=
  log.warningsByConstruct.map fun group => (group.1.name, group.2)

/-- Diagnostics split by the names of their constructs. Under each name that occurs are all
diagnostics with that name, in their order. -/
structure Grouped (ds : List Diagnostic) (groups : List (String × List Diagnostic)) : Prop where
  ascending : groups.Pairwise fun g h => g.1 < h.1
  mem_iff : ∀ name members, (name, members) ∈ groups ↔
    members ≠ [] ∧ members = ds.filter (·.construct.name == name)
  perm : (groups.flatMap Prod.snd).Perm ds

end Log

end Typings
