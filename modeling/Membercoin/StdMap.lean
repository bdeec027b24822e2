import Membercoin.Basic
import Mathlib.Data.String.Basic

/-!
# `std::map<std::string, V>::operator[]`

The wallet RPCs keep maps from account names to items (`mapAccountTally` of `ListReceived`,
`mapAccountBalances` of `listaccounts`) and change them only through `m[k]`, then an update of
the item it returns. A map is a list of pairs in increasing order of the keys; `m[k]` compares
`k` with the keys in that order, and inserts a missing key with the item `V()` where it belongs.
Strings are compared with `compare`, the order of `std::string`: that of their characters.

* `mapUpdate_keys`, `mapUpdate_sorted`: `m[k]` adds no key but `k`, and keeps the keys in
  increasing order.
* `mapUpdate_lookup`: on a sorted map, it updates the item of `k`, from `V()` when `k` is new,
  and keeps every other item.
* `Result.foldlM_view`: a loop whose every pass acts on each key as a fold of that key's own
  changes acts on each key as the fold of all of them, in order.
-/

namespace Membercoin

/-- `m[k]` followed by the update `f` of its item, on a map with the default item `init`. -/
def mapUpdate {V : Type} (init : V) (f : V → Result V) (k : String) :
    List (String × V) → Result (List (String × V))
  | [] => do pure [(k, ← f init)]
  | (k', v) :: rest =>
    match compare k k' with
    | .lt => do pure ((k, ← f init) :: (k', v) :: rest)
    | .eq => do pure ((k, ← f v) :: rest)
    | .gt => do pure ((k', v) :: (← mapUpdate init f k rest))

/-- A fold whose every step keeps `Inv` and acts on each key `k` of a view of its state as a fold
of `cs x k` keeps `Inv` and acts on `k` as the fold of all of them, in order. -/
theorem Result.foldlM_view {S X K V C : Type} (step : S → X → Result S) (view : S → K → V)
    (Inv : S → Prop) {cs : X → K → List C} {g : V → C → Result V}
    (hstep : ∀ {s x s'}, Inv s → step s x = .ok s' →
      Inv s' ∧ ∀ k, (cs x k).foldlM g (view s k) = .ok (view s' k))
    {xs : List X} {s s' : S} (hs : Inv s) (h : xs.foldlM step s = .ok s') :
    Inv s' ∧ ∀ k, (xs.flatMap fun x => cs x k).foldlM g (view s k) = .ok (view s' k) := by
  induction xs generalizing s with
  | nil => cases h; exact ⟨hs, fun _ => rfl⟩
  | cons x xs ih =>
    rw [List.foldlM_cons] at h
    obtain ⟨s₁, h₁, h⟩ := Result.bind_eq_ok.mp h
    obtain ⟨hs₁, hk⟩ := hstep hs h₁
    refine ⟨(ih hs₁ h).1, fun k => ?_⟩
    rw [List.flatMap_cons, List.foldlM_append, hk k, Result.ok_bind]
    exact (ih hs₁ h).2 k

section MapUpdate

/-- The order of `compare` on strings is the lexicographic order of their characters. -/
theorem String.lt_of_instLT {a b : String} : @LT.lt String String.instLT a b ↔ a < b := by
  rw [String.lt_iff_toList_lt]
  exact List.lt_iff_lex_lt _ _

theorem compare_string_lt {a b : String} (h : compare a b = .lt) : a < b := by
  simp only [compare, compareOfLessAndEq] at h
  split_ifs at h with h1
  · exact String.lt_of_instLT.mp h1

theorem compare_string_eq {a b : String} (h : compare a b = .eq) : a = b := by
  simp only [compare, compareOfLessAndEq] at h
  split_ifs at h with h1 h2
  · exact h2

theorem compare_string_gt {a b : String} (h : compare a b = .gt) : b < a := by
  simp only [compare, compareOfLessAndEq] at h
  split_ifs at h with h1 h2
  · exact lt_of_le_of_ne (not_lt.mp fun h => h1 (String.lt_of_instLT.mpr h)) (Ne.symm h2)

variable {V : Type} {init : V} {f : V → Result V}

theorem lookup_cons_of_ne {a k : String} {v : V} {m : List (String × V)}
    (h : a ≠ k) : ((k, v) :: m).lookup a = m.lookup a := by
  rw [List.lookup_cons, beq_false_of_ne h]

/-- A key below every key of the map is not in it. -/
theorem lookup_of_lt {a : String} {m : List (String × V)}
    (h : ∀ b ∈ m.map Prod.fst, a < b) : m.lookup a = none := by
  induction m with
  | nil => rfl
  | cons p m ih =>
    simp only [List.map_cons, List.mem_cons, forall_eq_or_imp] at h
    rw [lookup_cons_of_ne (ne_of_lt h.1), ih h.2]

/-- `operator[]` adds no key but `k`. -/
theorem mapUpdate_keys {k : String} {m m' : List (String × V)}
    (h : mapUpdate init f k m = .ok m') : ∀ a ∈ m'.map Prod.fst, a = k ∨ a ∈ m.map Prod.fst := by
  induction m generalizing m' with
  | nil =>
    obtain ⟨v, -, h⟩ := Result.bind_eq_ok.mp h
    cases h
    exact fun a ha => .inl (List.mem_singleton.mp ha)
  | cons p rest ih =>
    obtain ⟨k', v'⟩ := p
    unfold mapUpdate at h
    split at h <;> rename_i hc <;> obtain ⟨x, hx, h⟩ := Result.bind_eq_ok.mp h <;> cases h
    · exact fun a ha => List.mem_cons.mp ha
    · obtain rfl := compare_string_eq hc
      exact fun a ha => (List.mem_cons.mp ha).imp_right (List.mem_cons_of_mem _)
    · intro a ha
      simp only [List.map_cons, List.mem_cons] at ha ⊢
      rcases ha with rfl | ha
      · exact .inr (.inl rfl)
      · exact (ih hx a ha).imp_right .inr

/-- `operator[]` keeps the keys of the map in increasing order. -/
theorem mapUpdate_sorted {k : String} {m m' : List (String × V)}
    (hs : (m.map Prod.fst).Sorted (· < ·)) (h : mapUpdate init f k m = .ok m') :
    (m'.map Prod.fst).Sorted (· < ·) := by
  induction m generalizing m' with
  | nil =>
    obtain ⟨v, -, h⟩ := Result.bind_eq_ok.mp h
    cases h
    exact List.sorted_singleton _
  | cons p rest ih =>
    obtain ⟨k', v'⟩ := p
    rw [List.map_cons, List.sorted_cons] at hs
    unfold mapUpdate at h
    split at h <;> rename_i hc <;> obtain ⟨x, hx, h⟩ := Result.bind_eq_ok.mp h <;> cases h <;>
      simp only [List.map_cons, List.sorted_cons, List.mem_cons, forall_eq_or_imp]
    · have hlt := compare_string_lt hc
      exact ⟨⟨hlt, fun b hb => hlt.trans (hs.1 b hb)⟩, hs⟩
    · obtain rfl := compare_string_eq hc
      exact hs
    · refine ⟨fun b hb => ?_, ih hs.2 hx⟩
      rcases mapUpdate_keys hx b hb with rfl | hb
      · exact compare_string_gt hc
      · exact hs.1 b hb

/-- On a map with sorted keys, `operator[]` updates the item of `k` from its old value, or from
`init`, and keeps every other item. -/
theorem mapUpdate_lookup {k : String} {m m' : List (String × V)}
    (hs : (m.map Prod.fst).Sorted (· < ·)) (h : mapUpdate init f k m = .ok m') :
    (∃ v, f ((m.lookup k).getD init) = .ok v ∧ m'.lookup k = some v) ∧
      ∀ a, a ≠ k → m'.lookup a = m.lookup a := by
  induction m generalizing m' with
  | nil =>
    obtain ⟨v, hv, h⟩ := Result.bind_eq_ok.mp h
    cases h
    exact ⟨⟨v, hv, by simp⟩, fun a ha => lookup_cons_of_ne ha⟩
  | cons p rest ih =>
    obtain ⟨k', v'⟩ := p
    rw [List.map_cons, List.sorted_cons] at hs
    unfold mapUpdate at h
    split at h <;> rename_i hc <;> obtain ⟨x, hx, h⟩ := Result.bind_eq_ok.mp h <;> cases h
    · have hlt := compare_string_lt hc
      have hnone : ((k', v') :: rest).lookup k = none := by
        refine lookup_of_lt ?_
        simp only [List.map_cons, List.mem_cons, forall_eq_or_imp]
        exact ⟨hlt, fun b hb => hlt.trans (hs.1 b hb)⟩
      exact ⟨⟨x, by rw [hnone]; exact hx, by simp⟩, fun a ha => lookup_cons_of_ne ha⟩
    · obtain rfl := compare_string_eq hc
      refine ⟨⟨x, by simpa using hx, by simp⟩, fun a ha => ?_⟩
      rw [lookup_cons_of_ne ha, lookup_cons_of_ne ha]
    · have hne : k ≠ k' := ne_of_gt (compare_string_gt hc)
      obtain ⟨⟨v, hv, hk⟩, hother⟩ := ih hs.2 hx
      rw [lookup_cons_of_ne hne, lookup_cons_of_ne hne]
      refine ⟨⟨v, hv, hk⟩, fun a ha => ?_⟩
      by_cases hak : a = k'
      · subst hak
        simp
      · rw [lookup_cons_of_ne hak, lookup_cons_of_ne hak]
        exact hother a ha

end MapUpdate

end Membercoin
