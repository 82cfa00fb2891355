import Krometrail.Lib.Keyed
import Krometrail.Lib.Sorting

/-!
# Pages of a sorted list

A list whose elements have different keys is sorted in one way.  Selecting from it commutes with sorting, and what is after
an element of the sorted list is what has a greater key (`filter_lt_of_split`), so that a key says where a next page begins.
-/

namespace Paging

open Keyed (UniqueKeys)
open Sorting (sortByKey mem_sortByKey perm_sortByKey pairwise_sortByKey)

variable {α κ : Type*} [LinearOrder κ] {key : α → κ} {l front back : List α} {a : α}

theorem pairwise_lt_sortByKey (h : UniqueKeys key l) : (sortByKey key l).Pairwise fun a b => key a < key b := by
  have hunique : ((sortByKey key l).map key).Nodup := ((perm_sortByKey key l).map key).nodup_iff.2 h
  have hne : (sortByKey key l).Pairwise fun a b => key a ≠ key b := List.pairwise_map.1 hunique
  exact ((pairwise_sortByKey key l).and hne).imp fun {a b} hab => lt_of_le_of_ne hab.1 hab.2

theorem eq_sortByKey {sorted : List α} (hperm : sorted.Perm l) (h : sorted.Pairwise fun a b => key a < key b) :
    sorted = sortByKey key l := by
  have hunique : UniqueKeys key l := by
    refine (hperm.map key).nodup_iff.1 (List.pairwise_map.2 (h.imp fun {a b} hab => hab.ne))
  exact (hperm.trans (perm_sortByKey key l).symm).eq_of_pairwise (fun a b _ _ hab hba => absurd hab hba.asymm) h
    (pairwise_lt_sortByKey hunique)

theorem sortByKey_filter (h : UniqueKeys key l) (p : α → Bool) : sortByKey key (l.filter p) = (sortByKey key l).filter p :=
  (eq_sortByKey ((perm_sortByKey key l).filter p) ((pairwise_lt_sortByKey h).filter p)).symm

theorem filter_lt_of_split (h : (front ++ a :: back).Pairwise fun a b => key a < key b) :
    (front ++ a :: back).filter (fun b => decide (key a < key b)) = back := by
  obtain ⟨-, hback, hbetween⟩ := List.pairwise_append.1 h
  have hfront : front.filter (fun b => decide (key a < key b)) = [] := List.filter_eq_nil_iff.2 fun b hb => by
    simpa using (hbetween b hb a List.mem_cons_self).le
  have hafter : back.filter (fun b => decide (key a < key b)) = back := List.filter_eq_self.2 fun b hb =>
    decide_eq_true ((List.pairwise_cons.1 hback).1 b hb)
  rw [List.filter_append, hfront, List.nil_append, List.filter_cons_of_neg (by simp), hafter]

end Paging

/-!
## Choosing the best of candidates

The best of some candidates, by a key that refines a rank, are the best of all exactly when the candidates hold, for every rank, as
many elements up to that rank as there is room for (`best_iff`).
-/

namespace Selections

open Sorting (sortByKey mem_sortByKey perm_sortByKey pairwise_sortByKey)

variable {α κ ρ : Type*} [LinearOrder κ] [LinearOrder ρ] {key : α → κ} {rank : α → ρ} {all candidates : List α} {limit : Nat}

def best (key : α → κ) (limit : Nat) (candidates : List α) : List α := (sortByKey key candidates).take limit

theorem length_best : (best key limit candidates).length = min limit candidates.length := by
  rw [best, List.length_take, (perm_sortByKey key candidates).length_eq]

theorem best_subperm : (best key limit candidates).Subperm candidates :=
  (List.take_sublist _ _).subperm.trans (perm_sortByKey key candidates).subperm

theorem mem_of_best {a : α} (h : a ∈ best key limit candidates) : a ∈ candidates := best_subperm.subset h

theorem nodup_best (h : candidates.Nodup) : (best key limit candidates).Nodup :=
  ((perm_sortByKey key candidates).nodup_iff.2 h).sublist (List.take_sublist _ _)

theorem sortByKey_map {β : Type*} (f : β → α) (l : List β) : sortByKey key (l.map f) = (sortByKey (key ∘ f) l).map f :=
  (List.map_insertionSort _ _ f l fun _ _ _ _ => Iff.rfl).symm

theorem mem_best (hkey : ∀ a b, key a ≤ key b → rank a ≤ rank b) {a b : α} (ha : a ∈ candidates) (hb : b ∈ best key limit candidates)
    (hlt : rank a < rank b) : a ∈ best key limit candidates := by
  by_contra hnot
  have hsplit := List.take_append_drop limit (sortByKey key candidates)
  have hdrop : a ∈ (sortByKey key candidates).drop limit := by
    have hmem : a ∈ sortByKey key candidates := mem_sortByKey.2 ha
    rw [← hsplit, List.mem_append] at hmem
    exact hmem.resolve_left hnot
  have hpairwise := pairwise_sortByKey key candidates
  rw [← hsplit] at hpairwise
  exact (hkey b a ((List.pairwise_append.1 hpairwise).2.2 b hb a hdrop)).not_gt hlt

/-- How many elements are up to a rank. -/
def upTo (rank : α → ρ) (r : ρ) (l : List α) : Nat := l.countP fun a => decide (rank a ≤ r)

theorem upTo_le_length (r : ρ) (l : List α) : upTo rank r l ≤ l.length := List.countP_le_length

theorem upTo_le_of_subperm {l l' : List α} (h : l.Subperm l') (r : ρ) : upTo rank r l ≤ upTo rank r l' := h.countP_le _

theorem exists_of_upTo_lt {l l' : List α} (hnodup : l'.Nodup) {r : ρ} (h : upTo rank r l < upTo rank r l') :
    ∃ a ∈ l', rank a ≤ r ∧ a ∉ l := by
  by_contra! hall
  have hsub : (l'.filter fun a => decide (rank a ≤ r)).Subperm (l.filter fun a => decide (rank a ≤ r)) := by
    refine List.subperm_of_subset (hnodup.filter _) fun a ha => ?_
    obtain ⟨hmem, hrank⟩ := List.mem_filter.1 ha
    exact List.mem_filter.2 ⟨hall a hmem (of_decide_eq_true hrank), hrank⟩
  have hle := hsub.length_le
  rw [← List.countP_eq_length_filter, ← List.countP_eq_length_filter] at hle
  exact hle.not_gt h

theorem upTo_lt_of_mem {l l' : List α} (hsub : l ⊆ l') (hnodup : l.Nodup) {a : α} (ha : a ∈ l') (hnot : a ∉ l) :
    upTo rank (rank a) l < upTo rank (rank a) l' := by
  have hcons : (a :: l).Subperm l' :=
    List.subperm_of_subset (List.nodup_cons.2 ⟨hnot, hnodup⟩) (List.cons_subset.2 ⟨ha, hsub⟩)
  have hself : upTo rank (rank a) (a :: l) = upTo rank (rank a) l + 1 := List.countP_cons_of_pos (decide_eq_true le_rfl)
  have hle : upTo rank (rank a) (a :: l) ≤ upTo rank (rank a) l' := upTo_le_of_subperm hcons (rank a)
  omega

/-- Choosing from the candidates is choosing from all of them. -/
structure Best (rank : α → ρ) (limit : Nat) (all chosen : List α) : Prop where
  length_eq : chosen.length = min limit all.length
  le : ∀ a ∈ all, a ∉ chosen → ∀ b ∈ chosen, rank b ≤ rank a

theorem best_iff (hkey : ∀ a b, key a ≤ key b → rank a ≤ rank b) (hsub : candidates ⊆ all) (hcandidates : candidates.Nodup)
    (hall : all.Nodup) :
    Best rank limit all (best key limit candidates) ↔ ∀ r, min limit (upTo rank r all) ≤ upTo rank r candidates := by
  have hsubperm : candidates.Subperm all := List.subperm_of_subset hcandidates hsub
  constructor
  · rintro ⟨hlength, hle⟩ r
    by_contra! hlt
    have hfewer : upTo rank r (best key limit candidates) < upTo rank r all :=
      ((upTo_le_of_subperm best_subperm r).trans_lt hlt).trans_le (min_le_right _ _)
    obtain ⟨a, ha, har, hnot⟩ := exists_of_upTo_lt hall hfewer
    have hbelow : upTo rank r (best key limit candidates) = (best key limit candidates).length :=
      List.countP_eq_length.2 fun b hb => decide_eq_true ((hle a ha hnot b hb).trans har)
    have hbest : (best key limit candidates).Subperm candidates := best_subperm
    have hcount : upTo rank r (best key limit candidates) ≤ upTo rank r candidates := upTo_le_of_subperm hbest r
    have hn : upTo rank r all ≤ all.length := upTo_le_length r all
    omega
  · intro h
    have hlength : min limit all.length ≤ candidates.length := by
      cases htop : all.argmax rank with
      | none =>
        rw [List.argmax_eq_none.1 htop]
        exact (min_le_right _ _).trans (Nat.zero_le _)
      | some top =>
        have hevery : upTo rank (rank top) all = all.length :=
          List.countP_eq_length.2 fun a ha => decide_eq_true (List.le_of_mem_argmax ha htop)
        exact hevery ▸ (h (rank top)).trans (upTo_le_length _ _)
    refine ⟨?_, fun a ha hnot b hb => ?_⟩
    · rw [length_best]
      have hle := hsubperm.length_le
      omega
    · by_contra! hlt
      have hmissing : a ∉ candidates := fun hmem => hnot (mem_best hkey hmem hb hlt)
      have hfewer : upTo rank (rank a) candidates < upTo rank (rank a) all := upTo_lt_of_mem hsub hcandidates ha hmissing
      have henough := h (rank a)
      have hchosen : upTo rank (rank a) candidates ≤ upTo rank (rank a) (best key limit candidates) := by
        by_contra! hmore
        obtain ⟨c, hc, hrank, hleft⟩ := exists_of_upTo_lt hcandidates hmore
        exact hleft (mem_best hkey hc hb (hrank.trans_lt hlt))
      have hstrict : upTo rank (rank a) (best key limit candidates) < (best key limit candidates).length :=
        List.countP_lt_length_iff.2 ⟨b, hb, by simpa using hlt⟩
      rw [length_best] at hstrict
      omega

end Selections
