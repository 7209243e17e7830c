import TracedService.Trace.Baggage

/-! Inserting entries: nothing comes in but what is inserted, and what keeps to the bounds comes in
as a whole. -/

namespace TracedService.Baggage

variable {e : BaggageEntry} {es : List BaggageEntry} {b : Baggage}

theorem totalBytes_append (es fs : List BaggageEntry) :
    totalBytes (es ++ fs) = totalBytes es + totalBytes fs := by
  induction es with
  | nil => exact (Nat.zero_add _).symm
  | cons e es ih =>
    change e.bytes + totalBytes (es ++ fs) = e.bytes + totalBytes es + totalBytes fs
    rw [ih, Nat.add_assoc]

theorem Bounded.of_append {fs : List BaggageEntry} (h : Bounded (es ++ fs)) : Bounded es where
  distinct := h.distinct.sublist ((List.sublist_append_left es fs).map _)
  each x hx := h.each x (List.mem_append_left fs hx)
  total := Nat.le_trans (Nat.le_add_right _ _) (totalBytes_append es fs ▸ h.total)
  count := Nat.le_trans (List.sublist_append_left es fs).length_le h.count

theorem place_of_ne (h : ∀ x ∈ es, x.key ≠ e.key) : place e es = es ++ [e] := by
  induction es with
  | nil => rfl
  | cons x xs ih =>
    rw [place, if_neg (h x List.mem_cons_self), ih fun y hy => h y (List.mem_cons_of_mem _ hy)]
    rfl

theorem insert_entries (h : Bounded (b.entries ++ [e])) :
    (b.insert e).entries = b.entries ++ [e] := by
  have hne (x : BaggageEntry) (hx : x ∈ b.entries) : x.key ≠ e.key := by
    intro hk
    have hd := h.distinct
    rw [List.map_append, List.nodup_append] at hd
    exact hd.2.2 x.key (List.mem_map_of_mem hx) e.key (by simp) hk
  have hplace := place_of_ne hne
  rw [insert, dif_pos]
  · exact hplace
  · rw [hplace]
    exact ⟨h.each e (by simp), h.total, h.count⟩

theorem insertAll_entries_of_bounded (h : Bounded (b.entries ++ es)) :
    (b.insertAll es).entries = b.entries ++ es := by
  induction es generalizing b with
  | nil => exact (List.append_nil _).symm
  | cons e es ih =>
    have hsplit : b.entries ++ e :: es = (b.entries ++ [e]) ++ es := by simp
    have hinsert : (b.insert e).entries = b.entries ++ [e] :=
      insert_entries (Bounded.of_append (hsplit ▸ h))
    calc (b.insertAll (e :: es)).entries = ((b.insert e).insertAll es).entries := rfl
      _ = (b.insert e).entries ++ es := ih (by rw [hinsert, ← hsplit]; exact h)
      _ = b.entries ++ e :: es := by rw [hinsert, hsplit]

theorem eq_of_entries {b' : Baggage} (h : b.entries = b'.entries) : b = b' := by
  cases b
  cases b'
  cases h
  rfl

theorem insertAll_entries (b : Baggage) : insertAll {} b.entries = b :=
  eq_of_entries (insertAll_entries_of_bounded b.bounded)

theorem of_mem_insert {x : BaggageEntry} (h : x ∈ (b.insert e).entries) :
    x ∈ b.entries ∨ x = e := by
  rw [insert] at h
  split at h
  · exact (of_mem_place h).symm
  · exact .inl h

theorem of_mem_insertAll {x : BaggageEntry} (h : x ∈ (b.insertAll es).entries) :
    x ∈ b.entries ∨ x ∈ es := by
  induction es generalizing b with
  | nil => exact .inl h
  | cons e es ih =>
    rcases ih h with h | h
    · rcases of_mem_insert h with h | rfl
      · exact .inl h
      · exact .inr List.mem_cons_self
    · exact .inr (List.mem_cons_of_mem _ h)

end TracedService.Baggage
