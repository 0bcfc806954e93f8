import ClientTransaction.Proofs.Value.Equality
import Mathlib.Data.List.Induction

/-!
# Value.Reading — maps that are read hold each key once

The reader of tagged values builds every map from its entries in turn. A later entry under the same
key takes the place of the earlier one, so the map holds each key once, in ascending order.
-/

namespace ClientTransaction

/-! ## Maps built from entries -/

namespace Params

variable {params : Params} {key : String} {value : Value}

theorem mem_insert {entry : String × Value} (h : entry ∈ insert key value params) :
    entry = (key, value) ∨ entry ∈ params := by
  induction params with
  | nil => exact .inl (List.mem_singleton.1 h)
  | cons head rest ih =>
      simp only [insert] at h
      split at h
      · exact (List.mem_cons.1 h).imp_right (List.mem_cons_of_mem _)
      split at h
      · exact List.mem_cons.1 h
      · rcases List.mem_cons.1 h with rfl | h
        · exact .inr (List.mem_cons_self ..)
        · exact (ih h).imp_right (List.mem_cons_of_mem _)

/-- Setting a key keeps the keys in ascending order. -/
theorem pairwise_insert (h : (params.map Prod.fst).Pairwise (· < ·)) :
    ((insert key value params).map Prod.fst).Pairwise (· < ·) := by
  induction params with
  | nil => simp [insert]
  | cons head rest ih =>
      obtain ⟨hhead, hrest⟩ := List.pairwise_cons.1 h
      simp only [insert]
      split
      next heq =>
        subst heq
        exact h
      next hne =>
        split
        next hlt =>
          refine List.pairwise_cons.2 ⟨fun k hk => ?_, h⟩
          rcases List.mem_cons.1 hk with rfl | hk
          · exact hlt
          · exact String.lt_trans hlt (hhead k hk)
        next hge =>
          have hlt : head.1 < key := Std.lt_of_le_of_ne (String.not_lt.1 hge) hne
          refine List.pairwise_cons.2 ⟨fun k hk => ?_, ih hrest⟩
          obtain ⟨entry, hentry, rfl⟩ := List.mem_map.1 hk
          rcases mem_insert hentry with rfl | hentry
          · exact hlt
          · exact hhead _ (List.mem_map_of_mem hentry)

theorem ofList_concat (entries : List (String × Value)) (k : String) (v : Value) :
    ofList (entries ++ [(k, v)]) = insert k v (ofList entries) := by
  simp [ofList]

theorem mem_ofList {entries : List (String × Value)} {entry : String × Value}
    (h : entry ∈ ofList entries) : entry ∈ entries := by
  induction entries using List.reverseRecOn with
  | nil => exact h
  | append_singleton entries last ih =>
      rw [ofList_concat] at h
      rcases mem_insert h with rfl | h
      · simp
      · exact List.mem_append_left _ (ih h)

/-- The keys of a map that is built from its entries are in ascending order. -/
theorem pairwise_ofList (entries : List (String × Value)) :
    ((ofList entries).map Prod.fst).Pairwise (· < ·) := by
  induction entries using List.reverseRecOn with
  | nil => exact .nil
  | append_singleton entries last ih =>
      rw [ofList_concat]
      exact pairwise_insert ih

theorem nodup_ofList (entries : List (String × Value)) :
    ((ofList entries).map Prod.fst).Nodup :=
  (pairwise_ofList entries).imp String.ne_of_lt

end Params

/-! ## Values read from a document -/

namespace Value

mutual

theorem distinct_of_ofJson? {room : Nat} {json : Json} {v : Value}
    (h : ofJson? room json = some v) : v.Distinct := by
  unfold ofJson? at h
  split at h
  · obtain rfl := Option.some.inj h
    exact Plain.distinct trivial
  · split at h
    · simp at h
    · exact distinct_of_contentOfJson? h
  · simp at h
termination_by sizeOf json

theorem distinct_of_contentOfJson? {room : Nat} {name : String} {json : Json} {v : Value}
    (h : contentOfJson? room name json = some v) : v.Distinct := by
  cases json with
  | null =>
      simp only [contentOfJson?, Option.ite_none_right_eq_some, Option.some.injEq] at h
      obtain ⟨-, rfl⟩ := h
      exact Plain.distinct trivial
  | bool b =>
      simp only [contentOfJson?, Option.ite_none_right_eq_some, Option.some.injEq] at h
      obtain ⟨-, rfl⟩ := h
      exact Plain.distinct trivial
  | number spelling =>
      unfold contentOfJson? at h
      split at h
      · simp at h
      · split at h
        · obtain ⟨i, -, rfl⟩ := Option.map_eq_some_iff.1 h
          exact Plain.distinct trivial
        · obtain ⟨-, h⟩ := Option.ite_none_right_eq_some.1 h
          obtain rfl := Option.some.inj h
          exact distinct_float
  | string text =>
      simp only [contentOfJson?, Option.ite_none_right_eq_some] at h
      obtain ⟨s, -, rfl⟩ := Option.map_eq_some_iff.1 h.2
      exact Plain.distinct trivial
  | array items =>
      unfold contentOfJson? at h
      split at h
      · simp at h
      · split at h
        · obtain ⟨bs, -, rfl⟩ := Option.map_eq_some_iff.1 h
          exact Plain.distinct trivial
        · obtain ⟨-, h⟩ := Option.ite_none_right_eq_some.1 h
          obtain ⟨vs, hvs, rfl⟩ := Option.map_eq_some_iff.1 h
          exact distinct_list (distinct_of_eachOfJson? hvs)
  | object entries =>
      unfold contentOfJson? at h
      split at h
      · simp at h
      · obtain ⟨-, h⟩ := Option.ite_none_right_eq_some.1 h
        obtain ⟨read, hread, rfl⟩ := Option.map_eq_some_iff.1 h
        exact distinct_map (Params.nodup_ofList read) fun k v hv =>
          distinct_of_entriesOfJson? entries hread k v (Params.mem_ofList hv)
termination_by sizeOf json

theorem distinct_of_eachOfJson? {room : Nat} {items : List Json} {vs : List Value}
    (h : eachOfJson? room items = some vs) : ∀ v ∈ vs, v.Distinct := by
  cases items with
  | nil =>
      obtain rfl : [] = vs := by simpa [eachOfJson?] using h
      simp
  | cons item rest =>
      unfold eachOfJson? at h
      split at h
      · next v vs hv hvs =>
        obtain rfl := Option.some.inj h
        exact List.forall_mem_cons.2 ⟨distinct_of_ofJson? hv, distinct_of_eachOfJson? hvs⟩
      · simp at h
termination_by sizeOf items

theorem distinct_of_entriesOfJson? {room : Nat} :
    (entries : List (Option String × Json)) → {read : List (String × Value)} →
      entriesOfJson? room entries = some read → ∀ k v, (k, v) ∈ read → v.Distinct
  | [], read, h => by
      obtain rfl : [] = read := by simpa [entriesOfJson?] using h
      simp
  | (key, content) :: rest, read, h => by
      unfold entriesOfJson? at h
      split at h
      · next k v read hv hread =>
        obtain rfl := Option.some.inj h
        intro k' v' hmem
        rcases List.mem_cons.1 hmem with heq | hmem
        · obtain ⟨rfl, rfl⟩ := Prod.mk.inj heq
          exact distinct_of_ofJson? hv
        · exact distinct_of_entriesOfJson? rest hread k' v' hmem
      · simp at h
termination_by entries => sizeOf entries

end

/-- Every map in a value that is read holds each of its keys once. -/
theorem distinct_of_decode? {text : String} {v : Value} (h : decode? text = some v) :
    v.Distinct := by
  obtain ⟨json, -, hjson⟩ := Option.bind_eq_some_iff.1 h
  exact distinct_of_ofJson? hjson

end Value

end ClientTransaction
