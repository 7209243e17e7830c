import TracedService.Resource

/-! What a resource holds after attributes were put into it. The attribute put last under a key is
found, and what stands under keys of its own is kept in its order. -/

namespace TracedService.Resource

variable {l as : List Attribute} {a : Attribute} {key v : String}

theorem find?_put_self (l : List Attribute) (a : Attribute) :
    (put l a).find? (·.1 == a.1) = some a := by
  induction l with
  | nil => simp [put]
  | cons x l ih =>
    rw [put]
    split
    · simp
    · rename_i hne
      rw [List.find?_cons_of_neg (by simpa using hne), ih]

theorem find?_put_of_ne (h : a.1 ≠ key) : (put l a).find? (·.1 == key) = l.find? (·.1 == key) := by
  induction l with
  | nil => simp [put, h]
  | cons x l ih =>
    rw [put]
    split
    · rename_i heq
      rw [List.find?_cons_of_neg (by simpa using h),
        List.find?_cons_of_neg (by simpa [heq] using h)]
    · rw [List.find?_cons, List.find?_cons, ih]

theorem find?_foldl_put_of_not_mem (h : key ∉ as.map Prod.fst) :
    (as.foldl put l).find? (·.1 == key) = l.find? (·.1 == key) := by
  induction as generalizing l with
  | nil => rfl
  | cons x as ih =>
    rw [List.map_cons, List.mem_cons, not_or] at h
    rw [List.foldl_cons, ih h.2, find?_put_of_ne (Ne.symm h.1)]

theorem find?_foldl_put (hkeys : (as.map Prod.fst).Nodup) (ha : a ∈ as) :
    (as.foldl put l).find? (·.1 == a.1) = some a := by
  induction as generalizing l with
  | nil => cases ha
  | cons x as ih =>
    rw [List.map_cons, List.nodup_cons] at hkeys
    rw [List.foldl_cons]
    rcases List.mem_cons.mp ha with rfl | ha
    · rw [find?_foldl_put_of_not_mem hkeys.1, find?_put_self]
    · exact ih hkeys.2 ha

theorem put_of_not_mem (h : a.1 ∉ l.map Prod.fst) : put l a = l ++ [a] := by
  induction l with
  | nil => rfl
  | cons x l ih =>
    rw [List.map_cons, List.mem_cons, not_or] at h
    rw [put, if_neg (Ne.symm h.1), ih h.2, List.cons_append]

theorem foldl_put_of_nodup (h : ((l ++ as).map Prod.fst).Nodup) : as.foldl put l = l ++ as := by
  induction as generalizing l with
  | nil => exact (List.append_nil l).symm
  | cons a as ih =>
    have hlast : a.1 ∉ l.map Prod.fst := by
      intro hmem
      rw [List.map_append, List.nodup_append] at h
      exact h.2.2 a.1 hmem a.1 List.mem_cons_self rfl
    have hmoved : l ++ a :: as = (l ++ [a]) ++ as := by
      rw [List.append_assoc, List.singleton_append]
    rw [hmoved] at h ⊢
    rw [List.foldl_cons, put_of_not_mem hlast, ih h]

theorem ofList_of_nodup (h : (as.map Prod.fst).Nodup) : (ofList as).attributes = as :=
  foldl_put_of_nodup (l := []) h

theorem get?_eq_some_iff {r : Resource} (h : (r.attributes.map Prod.fst).Nodup) :
    r.get? key = some v ↔ (key, v) ∈ r.attributes := by
  rw [get?, Option.map_eq_some_iff]
  constructor
  · rintro ⟨a, hfound, rfl⟩
    have hkey : a.1 = key := by simpa using List.find?_some hfound
    exact hkey ▸ List.mem_of_find?_eq_some hfound
  · intro hmem
    have hfound := find?_foldl_put (l := []) h hmem
    rw [foldl_put_of_nodup (l := []) h] at hfound
    exact ⟨(key, v), hfound, rfl⟩

theorem nodup_keys (i : Identity) : (i.attributes.map Prod.fst).Nodup := by
  simp [Identity.attributes]

end TracedService.Resource
