/-
# Tables filled from records

The directory and the registry are tables that are filled with one record after the other, where a
later record takes the place of an earlier one with the same number.  What is then under a number
is the last record that has it (`latest`), and the numbers are those of all records, each one
once, in ascending order (`ascending`).
-/
import Mathlib.Data.List.Dedup
import Mathlib.Data.List.Sort
import Mathlib.Tactic.Lemma
import Std.Data.TreeMap

namespace PluginHost

variable {α β γ : Type}

/-- The last item with a key. -/
def latest [DecidableEq α] (key : γ → α) (k : α) (items : List γ) : Option γ :=
  items.findRev? fun item => key item = k

/-- The elements of a list in ascending order, each one once. -/
def ascending [LE α] [DecidableLE α] [DecidableEq α] (l : List α) : List α :=
  l.dedup.insertionSort fun a b => a ≤ b

/-! ## The last record -/

section Latest

variable [DecidableEq α] {key : γ → α} {k : α} {items : List γ}

lemma latest_cons (item : γ) :
    latest key k (item :: items) =
      (latest key k items).or (if key item = k then some item else none) := by
  simp only [latest, List.findRev?, decide_eq_true_eq]
  rcases items.findRev? fun item => key item = k with _ | later <;> rfl

lemma latest_isSome : (latest key k items).isSome = true ↔ k ∈ items.map key := by
  rw [latest, List.findRev?_eq_find?_reverse, List.find?_isSome]
  simp

lemma of_latest {item : γ} (hitem : latest key k items = some item) :
    key item = k ∧ item ∈ items := by
  rw [latest, List.findRev?_eq_find?_reverse] at hitem
  refine ⟨by simpa using List.find?_some hitem, ?_⟩
  rw [← List.mem_reverse]
  exact List.mem_of_find?_eq_some hitem

lemma latest_eq_none_iff : latest key k items = none ↔ ∀ item ∈ items, key item ≠ k := by
  rw [← Option.not_isSome_iff_eq_none, latest_isSome]
  simp

/-- An item is the last one with its key if none behind it has the key. -/
lemma latest_of_split {front rear : List γ} {item : γ} (hitem : key item = k)
    (hrear : ∀ later ∈ rear, key later ≠ k) :
    latest key k (front ++ item :: rear) = some item := by
  have hnone : rear.reverse.find? (fun later => decide (key later = k)) = none := by
    simpa using hrear
  rw [latest, List.findRev?_eq_find?_reverse, List.reverse_append, List.reverse_cons,
    List.append_assoc, List.find?_append, hnone, Option.none_or, List.singleton_append]
  exact List.find?_cons_of_pos (decide_eq_true hitem)

/-- Where no key comes twice, an item is the last one with its key. -/
lemma latest_of_nodup (hnodup : (items.map key).Nodup) {item : γ} (hitem : item ∈ items) :
    latest key (key item) items = some item := by
  obtain ⟨last, hlast⟩ := Option.isSome_iff_exists.1
    (latest_isSome.2 (List.mem_map_of_mem (f := key) hitem))
  obtain ⟨hkey, hmem⟩ := of_latest hlast
  rw [hlast, List.inj_on_of_nodup_map hnodup hmem hitem hkey]

end Latest

/-! ## Ascending lists -/

section Ascending

variable [LE α] [DecidableLE α] [DecidableEq α]

end Ascending

/-- In an ascending list, the first element with a property is the lowest one. -/
lemma find?_eq_some_iff_lowest [LT α] [LE α] [Std.IsLinearOrder α] [Std.LawfulOrderLT α]
    {l : List α} (hl : l.Pairwise (· < ·)) {p : α → Bool} {a : α} :
    l.find? p = some a ↔ a ∈ l ∧ p a = true ∧ ∀ b ∈ l, p b = true → a ≤ b := by
  induction l with
  | nil => simp
  | cons b l ih =>
    obtain ⟨hfirst, hrest⟩ := List.pairwise_cons.1 hl
    by_cases hb : p b = true
    · rw [List.find?_cons_of_pos hb, Option.some.injEq]
      constructor
      · rintro rfl
        refine ⟨List.mem_cons_self, hb, fun c hc _ => ?_⟩
        obtain rfl | hc := List.mem_cons.1 hc
        · exact Std.le_refl _
        · exact Std.le_of_lt (hfirst c hc)
      · rintro ⟨hmem, -, hlowest⟩
        obtain rfl | hmem := List.mem_cons.1 hmem
        · rfl
        · -- the first element would be lower
          exact absurd (hlowest b List.mem_cons_self hb) (Std.not_le.2 (hfirst a hmem))
    · rw [List.find?_cons_of_neg hb, ih hrest]
      constructor
      · rintro ⟨hmem, ha, hlowest⟩
        refine ⟨List.mem_cons_of_mem _ hmem, ha, fun c hc hpc => ?_⟩
        obtain rfl | hc := List.mem_cons.1 hc
        · exact absurd hpc hb
        · exact hlowest c hc hpc
      · rintro ⟨hmem, ha, hlowest⟩
        obtain rfl | hmem := List.mem_cons.1 hmem
        · exact absurd ha hb
        · exact ⟨hmem, ha, fun c hc => hlowest c (List.mem_cons_of_mem _ hc)⟩

section Tables

variable [Ord α] [Std.TransOrd α]

lemma ne_of_compare_lt {a b : α} (hlt : compare a b = .lt) : a ≠ b := by
  rintro rfl
  have hself : compare a a = .eq := Std.ReflCmp.compare_self
  rw [hself] at hlt
  cases hlt

/-- Lists that ascend and have the same elements are the same. -/
lemma eq_of_ascending {l l' : List α} (hl : l.Pairwise fun a b => compare a b = .lt)
    (hl' : l'.Pairwise fun a b => compare a b = .lt) (hmem : ∀ a, a ∈ l ↔ a ∈ l') : l = l' := by
  have hperm : l.Perm l' :=
    (List.perm_ext_iff_of_nodup (hl.imp ne_of_compare_lt) (hl'.imp ne_of_compare_lt)).2 hmem
  refine List.Perm.eq_of_pairwise (fun a b _ _ hab hba => ?_) hl hl' hperm
  have hswap : compare a b = (compare b a).swap := Std.OrientedCmp.eq_swap
  rw [hswap, hba] at hab
  cases hab

/-! ## What is in a table -/

lemma mem_keys_iff [Std.LawfulEqOrd α] {t : Std.TreeMap α β} {k : α} :
    k ∈ t.keys ↔ t[k]?.isSome = true := by
  rw [Std.TreeMap.mem_keys, ← Std.TreeMap.contains_iff_mem,
    Std.TreeMap.contains_eq_isSome_getElem?]

lemma keys_pairwise [LT α] [LE α] [Std.LawfulOrderOrd α] [Std.LawfulOrderLT α]
    {t : Std.TreeMap α β} : t.keys.Pairwise (· < ·) :=
  Std.TreeMap.ordered_keys.imp Std.compare_eq_lt.1

omit [Std.TransOrd α] in
lemma values_eq (t : Std.TreeMap α β) : t.values = t.toList.map Prod.snd := by
  have hvalues : t.values = t.foldr (fun _ value values => value :: values) [] := rfl
  rw [hvalues, Std.TreeMap.foldr_eq_foldr_toList]
  induction t.toList with
  | nil => rfl
  | cons pair pairs ih => simp [ih]

variable [Std.LawfulEqOrd α]

/-- Where records carry their numbers, the numbers of some of them are some of all numbers. -/
lemma values_filter_map {t : Std.TreeMap α β} {number : β → α}
    (hnumber : ∀ k value, t[k]? = some value → number value = k) (p : β → Bool) :
    (t.values.filter p).map number = t.keys.filter fun k => t[k]?.any p := by
  have hpair : ∀ pair ∈ t.toList, t[pair.1]? = some pair.2 := fun pair hmem =>
    Std.TreeMap.mem_toList_iff_getElem?_eq_some.1 hmem
  have hfilter : t.toList.filter (p ∘ Prod.snd) =
      t.toList.filter ((fun k => t[k]?.any p) ∘ Prod.fst) := by
    refine List.filter_congr fun pair hmem => ?_
    simp [hpair pair hmem]
  rw [values_eq, ← Std.TreeMap.map_fst_toList_eq_keys, List.filter_map, List.filter_map,
    List.map_map, hfilter]
  exact List.map_congr_left fun pair hmem => hnumber _ _ (hpair pair (List.mem_filter.1 hmem).1)

lemma getElem?_insert_eq (t : Std.TreeMap α β) [DecidableEq α] (k : α) (value : β) (other : α) :
    (t.insert k value)[other]? = if other = k then some value else t[other]? := by
  simp only [Std.TreeMap.getElem?_insert, Std.LawfulEqCmp.compare_eq_iff_eq]
  exact if_congr eq_comm rfl rfl

lemma getElem?_erase_eq (t : Std.TreeMap α β) [DecidableEq α] (k other : α) :
    (t.erase k)[other]? = if other = k then none else t[other]? := by
  simp only [Std.TreeMap.getElem?_erase, Std.LawfulEqCmp.compare_eq_iff_eq]
  exact if_congr eq_comm rfl rfl

lemma mem_values_iff {t : Std.TreeMap α β} {value : β} :
    value ∈ t.values ↔ ∃ k : α, t[k]? = some value := by
  rw [values_eq, List.mem_map]
  constructor
  · rintro ⟨pair, hpair, rfl⟩
    exact ⟨pair.1, Std.TreeMap.mem_toList_iff_getElem?_eq_some.1 hpair⟩
  · rintro ⟨k, hk⟩
    exact ⟨(k, value), Std.TreeMap.mem_toList_iff_getElem?_eq_some.2 hk, rfl⟩

lemma values_map {t : Std.TreeMap α β} {number : β → α}
    (hnumber : ∀ k value, t[k]? = some value → number value = k) :
    t.values.map number = t.keys := by
  rw [values_eq, ← Std.TreeMap.map_fst_toList_eq_keys, List.map_map]
  exact List.map_congr_left fun pair hpair =>
    hnumber _ _ (Std.TreeMap.mem_toList_iff_getElem?_eq_some.1 hpair)

/-- Where records carry their numbers, the number of the first record with a property is the lowest
number of such a record. -/
lemma values_find?_map_eq_some_iff [LT α] [LE α] [Std.IsLinearOrder α] [Std.LawfulOrderOrd α]
    [Std.LawfulOrderLT α] {t : Std.TreeMap α β} {number : β → α}
    (hnumber : ∀ k value, t[k]? = some value → number value = k) {p : β → Bool} {k : α} :
    (t.values.find? p).map number = some k ↔
      (∃ value, t[k]? = some value ∧ p value = true) ∧
      ∀ k' value, t[k']? = some value → p value = true → k ≤ k' := by
  have hkeys : (t.values.find? p).map number = t.keys.find? fun k => t[k]?.any p := by
    rw [← List.head?_filter, ← List.head?_filter, ← List.head?_map, values_filter_map hnumber]
  rw [hkeys, find?_eq_some_iff_lowest keys_pairwise]
  simp only [mem_keys_iff, Option.any_eq_true]
  constructor
  · rintro ⟨-, hvalue, hlowest⟩
    refine ⟨hvalue, fun k' value hvalue' hp => ?_⟩
    exact hlowest k' (by rw [hvalue', Option.isSome_some]) ⟨value, hvalue', hp⟩
  · rintro ⟨⟨value, hvalue, hp⟩, hlowest⟩
    refine ⟨by rw [hvalue, Option.isSome_some], ⟨value, hvalue, hp⟩, ?_⟩
    rintro k' - ⟨value', hvalue', hp'⟩
    exact hlowest k' value' hvalue' hp'

lemma values_find?_eq_none_iff {t : Std.TreeMap α β} {p : β → Bool} :
    t.values.find? p = none ↔ ∀ (k : α) (value : β), t[k]? = some value → ¬ p value = true := by
  simp only [List.find?_eq_none, mem_values_iff]
  exact ⟨fun hnone k value hvalue => hnone value ⟨k, hvalue⟩,
    fun hnone value ⟨k, hvalue⟩ => hnone k value hvalue⟩

/-! ## Filling a table -/

variable [DecidableEq α] (key : γ → α) (value : γ → β) (items : List γ)

/-- In a filled table, the last record with a number is under it. -/
lemma getElem?_foldl_insert (t : Std.TreeMap α β) (k : α) :
    (items.foldl (fun t item => t.insert (key item) (value item)) t)[k]? =
      ((latest key k items).map value).or t[k]? := by
  induction items generalizing t with
  | nil => rfl
  | cons item items ih =>
    rw [List.foldl_cons, ih, Std.TreeMap.getElem?_insert, latest_cons]
    rcases latest key k items with _ | later
    · by_cases hk : key item = k
      · simp [hk]
      · simp [hk, Std.LawfulEqCmp.compare_eq_iff_eq]
    · rfl

lemma getElem?_filled (k : α) :
    (items.foldl (fun t item => t.insert (key item) (value item)) (∅ : Std.TreeMap α β))[k]? =
      (latest key k items).map value := by
  rw [getElem?_foldl_insert]
  simp

end Tables

end PluginHost
